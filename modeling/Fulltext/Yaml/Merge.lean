import Fulltext.Yaml.Node

namespace Fulltext.Yaml

abbrev Merging := StateT Nodes (Except DocumentFault)

namespace Nodes

/-- The first merge of a mapping with the pairs around it. -/
def splitMerge? (ns : Nodes) (ps : List (NodeId × NodeId)) :
    Option (List (NodeId × NodeId) × NodeId × List (NodeId × NodeId)) :=
  let own := fun p => ns.tag p.1 != .merge
  match ps.dropWhile own with
  | [] => none
  | p :: rest => some (ps.takeWhile own, p.2, rest)

/-- Default keys become plain names. -/
def nameDefaults (ns : Nodes) (ps : List (NodeId × NodeId)) : Nodes :=
  ps.foldl (fun ns p => if ns.tag p.1 = .value then ns.setTag p.1 .str else ns) ns

end Nodes

mutual

/-- Carries the merges of a mapping out, and before that those of the mappings merged in. -/
def merge (n : NodeId) : Nat → Merging Unit
  | 0 => throw .tooDeep
  | fuel + 1 => do
    let merged ← takeMerges n fuel
    modify fun ns => ns.setBody n (.pairs (merged ++ ns.pairs n))
    modify fun ns => ns.nameDefaults (ns.pairs n)

/-- Takes every merge out of a mapping and gives the pairs that they bring in. A merge is taken out
before it is carried out, so a mapping may be merged into itself. -/
def takeMerges (n : NodeId) : Nat → Merging (List (NodeId × NodeId))
  | 0 => throw .tooDeep
  | fuel + 1 => do
    let ns ← get
    match ns.splitMerge? (ns.pairs n) with
    | none => return []
    | some (before, source, after) =>
      set (ns.setBody n (.pairs (before ++ after)))
      let brought ← broughtBy source fuel
      return brought ++ (← takeMerges n fuel)

/-- The pairs that a merge of one node brings in. -/
def broughtBy (source : NodeId) : Nat → Merging (List (NodeId × NodeId))
  | 0 => throw .tooDeep
  | fuel + 1 => do
    match ((← get).node source).body with
    | .pairs _ =>
      merge source fuel
      return (← get).pairs source
    | .items items => return (← mergeItems items fuel).reverse.flatten
    | .text _ => throw .malformed

/-- The pairs of each of several mappings. -/
def mergeItems : List NodeId → Nat → Merging (List (List (NodeId × NodeId)))
  | [], _ => return []
  | _, 0 => throw .tooDeep
  | n :: ns, fuel + 1 => do
    match ((← get).node n).body with
    | .pairs _ =>
      merge n fuel
      let ps := (← get).pairs n
      return ps :: (← mergeItems ns fuel)
    | _ => throw .malformed

end

end Fulltext.Yaml
