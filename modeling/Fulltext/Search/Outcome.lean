import Fulltext.Value.Convert

namespace Fulltext

/-- No `success` if no backend was available or the call to the daemon failed. -/
structure Outcome where
  success : Bool
  response : Value
  deriving Repr

namespace Outcome

def failed : Outcome := ⟨false, .null⟩

/-- The first result set of a response that is not empty. -/
def first (o : Outcome) : Except Fault Value :=
  match o.response with
  | .list (x :: _) => .ok x
  | .text s =>
    match s.toList with
    | c :: _ => .ok (.text (String.singleton c))
    | [] => .error (.operand .noSuchEntry)
  | .map es =>
    match Entries.get? es (.number (.exact 0)) with
    | some v => .ok v
    | none => .error (.operand .noSuchEntry)
  | .foreign (.bytes (b :: _)) => .ok (.int b.toNat)
  | .list [] | .foreign (.bytes []) => .error (.operand .noSuchEntry)
  | _ => .error (.operand .notIndexed)

/-- What the first result set holds under a name. -/
def field? (o : Outcome) (name : String) : Except Fault (Option Value) := do
  match ← o.first with
  | .map es => return Entries.named? es name
  | _ => throw (.operand .noSuchMember)

/-- There is no response, or it reports a status other than zero. -/
def isError (o : Outcome) : Except Fault Bool := do
  if !o.response.isSet then return true
  match ← o.field? "status" with
  | some status => return !status.same (.int 0)
  | none => return false

def errorCode (o : Outcome) : Except Fault Nat := do
  return if ← o.isError then 1 else 0

/-- The number of matches that the daemon found; null under error. -/
def countTotal (o : Outcome) : Except Fault Value := do
  if ← o.isError then return .null
  match ← o.field? "total" with
  | some total => return total
  | none => throw (.operand .noSuchEntry)

/-- The number of matches that the daemon returned; null under error. -/
def count (o : Outcome) : Except Fault Value := do
  if ← o.isError then return .null
  match ← o.field? "matches" with
  | none | some .null => return .int 0
  | some ms => return .int (← ms.size)

/-- A full-text query inserts nothing. -/
def lastId (_ : Outcome) : Value := .null

end Outcome

end Fulltext
