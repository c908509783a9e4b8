import Fulltext.Mode
import Fulltext.Number.Binary64

namespace Fulltext

/-- Scalars that the library has no use for but takes where it asks for no kind: a string of bytes,
and a time stamp as it was written. -/
inductive Foreign where
  | bytes (content : List UInt8)
  | time (written : String)
  deriving DecidableEq, Repr

/-- What callers, configuration files and the daemon supply: of any kind, known only when it is used. -/
inductive Value where
  | null
  | bool (b : Bool)
  | int (n : Int)
  | float (x : Binary64)
  | text (s : String)
  | matchMode (m : MatchMode)
  | sortMode (m : SortMode)
  | foreign (x : Foreign)
  | list (items : List Value)
  | map (entries : List (Value × Value))
  deriving Repr

instance : Inhabited Value := ⟨.null⟩

/-- What a value is found by. Truth values, integers, floating-point numbers and modes are found by
their magnitude. -/
inductive Key where
  | null
  | number (m : Magnitude)
  | text (s : String)
  | foreign (x : Foreign)
  deriving DecidableEq, Repr

def Foreign.isSet : Foreign → Bool
  | bytes content => !content.isEmpty
  | time _ => true

namespace Value

def ofBool01 (b : Bool) : Int := if b then 1 else 0

def magnitude? : Value → Option Magnitude
  | bool b => some (.exact (ofBool01 b))
  | int n => some (.exact n)
  | float x => some x.magnitude
  | matchMode m => some (.exact m.number)
  | sortMode m => some (.exact m.number)
  | _ => none

/-- Lists and mappings have no key. -/
def key? : Value → Option Key
  | null => some .null
  | text s => some (.text s)
  | foreign x => some (.foreign x)
  | list _ => none
  | map _ => none
  | v => v.magnitude?.map .number

/-- Nothing, zero and whatever is empty count as unset. -/
def isSet : Value → Bool
  | null => false
  | bool b => b
  | int n => n != 0
  | float x => !x.isZero
  | text s => s != ""
  | matchMode m => m.number != 0
  | sortMode m => m.number != 0
  | foreign x => x.isSet
  | list items => !items.isEmpty
  | map entries => !entries.isEmpty

/-- The value, or `default` in place of an unset one. -/
def orElse (v default : Value) : Value := if v.isSet then v else default

@[simp] theorem orElse_of_isSet {v d : Value} (h : v.isSet = true) : v.orElse d = v := by
  simp [orElse, h]

@[simp] theorem orElse_of_not_isSet {v d : Value} (h : v.isSet = false) : v.orElse d = d := by
  simp [orElse, h]

end Value

/-- A mapping in the order in which its names were first written. -/
abbrev Entries := List (Value × Value)

namespace Entries

def get? (es : Entries) (k : Key) : Option Value :=
  (es.find? fun e => e.1.key? == some k).map (·.2)

/-- The value under a name. -/
def named? (es : Entries) (name : String) : Option Value := get? es (.text name)

/-- A known name keeps its place and its first spelling and takes the new value. -/
def put : Entries → Value → Value → Entries
  | [], k, v => [(k, v)]
  | (k', v') :: es, k, v => if k'.key? = k.key? then (k', v) :: es else (k', v') :: put es k v

/-- Every pair put in turn. -/
def putAll (es ps : Entries) : Entries := ps.foldl (fun es p => es.put p.1 p.2) es

end Entries

namespace Value

mutual

/-- Equality of contents: numbers by magnitude, mappings in any order. -/
def same : Value → Value → Bool
  | list xs, list ys => sameItems xs ys
  | map xs, map ys => xs.length == ys.length && sameEntries xs ys
  | a, b => match a.key?, b.key? with
    | some j, some k => j == k
    | _, _ => false

def sameItems : List Value → List Value → Bool
  | [], [] => true
  | x :: xs, y :: ys => same x y && sameItems xs ys
  | _, _ => false

def sameEntries : List (Value × Value) → Entries → Bool
  | [], _ => true
  | (k, v) :: es, ys =>
    (match k.key?.bind ys.get? with
      | some w => same v w
      | none => false) && sameEntries es ys

end

end Value

end Fulltext
