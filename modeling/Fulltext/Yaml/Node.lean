import Fulltext.Yaml.Tag

namespace Fulltext.Yaml

/-- Nodes are numbered in the order in which they start. -/
abbrev NodeId := Nat

inductive Body where
  | text (s : String)
  | items (ns : List NodeId)
  | pairs (ps : List (NodeId × NodeId))
  deriving DecidableEq, Repr

structure Node where
  tag : Tag
  body : Body
  deriving DecidableEq, Repr

/-- What stands where a node is missing. -/
def Node.empty : Node := ⟨.null, .text ""⟩

abbrev Nodes := Array Node

namespace Nodes

def node (ns : Nodes) (n : NodeId) : Node := ns[n]?.getD .empty

def tag (ns : Nodes) (n : NodeId) : Tag := (ns.node n).tag

def pairs (ns : Nodes) (n : NodeId) : List (NodeId × NodeId) :=
  match (ns.node n).body with
  | .pairs ps => ps
  | _ => []

def setBody (ns : Nodes) (n : NodeId) (b : Body) : Nodes :=
  ns.modify n fun x => { x with body := b }

def setTag (ns : Nodes) (n : NodeId) (t : Tag) : Nodes :=
  ns.modify n fun x => { x with tag := t }

/-- The number of parts that all collections have together. -/
def partCount (ns : Nodes) : Nat :=
  ns.foldl (fun k x => match x.body with
    | .text _ => k
    | .items ns => k + ns.length
    | .pairs ps => k + ps.length) 0

end Nodes

/-- The nodes of a document with its root. -/
structure Outline where
  nodes : Nodes
  root : NodeId
  deriving DecidableEq, Repr

end Fulltext.Yaml
