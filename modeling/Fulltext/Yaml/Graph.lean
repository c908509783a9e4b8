import Fulltext.Value.Basic

namespace Fulltext.Yaml

inductive Part where
  | scalar (v : Value)
  | container (i : Nat)
  deriving Repr

/-- A list, a list of pairs, a mapping, or a set, which is the list of its members. -/
inductive Container where
  | items (ps : List Part)
  | pairs (ps : List (Part × Part))
  | map (es : List (Value × Part))
  | set (members : List Value)
  deriving Repr

/-- Containers by their numbers. Serial numbers of what is no number are less than `serials`. -/
structure Graph where
  containers : Array Container
  root : Part
  serials : Nat
  deriving Repr

namespace Part

def value (table : Array Value) : Part → Value
  | scalar v => v
  | container i => table[i]?.getD .null

def marked (marks : Array Bool) : Part → Bool
  | scalar _ => false
  | container i => marks[i]?.getD false

end Part

namespace Container

/-- The container without its parts. -/
def outside : Container → Value
  | map _ => .map []
  | _ => .list []

def value (table : Array Value) : Container → Value
  | items ps => .list (ps.map (·.value table))
  | pairs ps => .list (ps.map fun p => .list [p.1.value table, p.2.value table])
  | map es => .map (es.map fun e => (e.1, e.2.value table))
  | set members => .list members

def parts : Container → List Part
  | items ps => ps
  | pairs ps => ps.flatMap fun p => [p.1, p.2]
  | map es => es.map (·.2)
  | set _ => []

/-- The entries of a mapping that have names. -/
def named : Container → List (Key × Part)
  | map es => es.filterMap fun e => e.1.key?.map (·, e.2)
  | _ => []

end Container

namespace Graph

/-- Every container with its parts down to a depth. -/
def table (g : Graph) : Nat → Array Value
  | 0 => g.containers.map (·.outside)
  | d + 1 =>
    let t := g.table d
    g.containers.map (·.value t)

/-- The value of the root down to a depth; containers below that are empty. -/
def unfold (g : Graph) (depth : Nat) : Value := g.root.value (g.table depth)

/-- The number of levels below the root, once no chain of containers is longer than `depth`. -/
def heightFrom (g : Graph) (depth : Nat) (chained : Array Bool) : Nat → Option Nat
  | 0 => none
  | fuel + 1 =>
    if g.root.marked chained then
      g.heightFrom (depth + 1) (g.containers.map fun c => c.parts.any (·.marked chained)) fuel
    else some depth

/-- The number of levels below the root; nothing if there is no end of them. -/
def height? (g : Graph) : Option Nat :=
  g.heightFrom 0 (g.containers.map fun _ => true) (g.containers.size + 1)

/-- The value of the root, if it does not contain itself. -/
def value? (g : Graph) : Option Value := g.height?.map g.unfold

def mapping? (g : Graph) : Part → Option Nat
  | .scalar _ => none
  | .container i => match g.containers[i]? with
    | some (.map _) => some i
    | _ => none

/-- Mappings of two graphs under one name of two mappings. -/
def meetings (g h : Graph) (at_ : Nat × Nat) : List (Nat × Nat) :=
  match g.containers[at_.1]?, h.containers[at_.2]? with
  | some a, some b => b.named.filterMap fun (k, q) => do
    let p ← a.named.lookup k
    return (← g.mapping? p, ← h.mapping? q)
  | _, _ => []

/-- Whatever steps lead to from where one is, and from there. -/
def reachable (next : Nat × Nat → List (Nat × Nat)) :
    Nat → List (Nat × Nat) → List (Nat × Nat) → List (Nat × Nat)
  | 0, seen, _ => seen
  | _, seen, [] => seen
  | fuel + 1, seen, p :: todo =>
    if seen.contains p then reachable next fuel seen todo
    else reachable next fuel (p :: seen) (next p ++ todo)

/-- What remains when everything without a next step is taken away again and again. -/
def unending (next : Nat × Nat → List (Nat × Nat)) :
    Nat → List (Nat × Nat) → List (Nat × Nat)
  | 0, ps => ps
  | fuel + 1, ps => unending next fuel (ps.filter fun p => (next p).any ps.contains)

/-- Whether laying a graph over another goes on without end: both contain themselves along one
path of names. -/
def endlessOver (upper lower : Graph) : Bool :=
  match lower.height?, upper.height?, lower.mapping? lower.root, upper.mapping? upper.root with
  | none, none, some i, some j =>
    let next := lower.meetings upper
    let count := fun (g : Graph) => g.containers.foldl (fun n c => n + c.parts.length) 1
    let ps := reachable next (count lower * count upper) [] [(i, j)]
    !(unending next ps.length ps).isEmpty
  | _, _, _, _ => false

end Graph

end Fulltext.Yaml
