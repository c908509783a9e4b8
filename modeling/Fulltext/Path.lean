namespace Fulltext

/-- A path with the number of slashes at its root: none for a relative one. -/
structure Path where
  slashes : Nat
  parts : List String
  deriving DecidableEq, Repr

namespace Path

/-- Texts between slashes. -/
def split : List Char → List Char → List (List Char)
  | part, [] => [part.reverse]
  | part, c :: cs => if c = '/' then part.reverse :: split [] cs else split (c :: part) cs

def rootSlashes : List Char → Nat
  | '/' :: '/' :: '/' :: _ => 1
  | '/' :: '/' :: _ => 2
  | '/' :: _ => 1
  | _ => 0

def ofText (s : String) : Path where
  slashes := rootSlashes s.toList
  parts := ((split [] s.toList).map String.ofList).filter fun p => p != "" && p != "."

/-- A path below another; an absolute one replaces it. -/
def join (p q : Path) : Path := if q.slashes = 0 then ⟨p.slashes, p.parts ++ q.parts⟩ else q

def text (p : Path) : String :=
  if p.slashes = 0 ∧ p.parts = [] then "."
  else String.ofList (List.replicate p.slashes '/') ++ "/".intercalate p.parts

end Path

end Fulltext
