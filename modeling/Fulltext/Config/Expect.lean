import Fulltext.Text.Blank
import Fulltext.Value.Convert

namespace Fulltext

/-- An integer, or a mode, which counts as its number. -/
inductive Whole where
  | int (n : Int)
  | matchMode (m : MatchMode)
  | sortMode (m : SortMode)
  deriving DecidableEq, Repr

namespace Whole

def number : Whole → Int
  | int n => n
  | matchMode m => m.number
  | sortMode m => m.number

def value : Whole → Value
  | int n => .int n
  | matchMode m => .matchMode m
  | sortMode m => .sortMode m

/-- A truth value is not an integer. -/
def ofValue? : Value → Option Whole
  | .int n => some (.int n)
  | .matchMode m => some (.matchMode m)
  | .sortMode m => some (.sortMode m)
  | _ => none

@[simp] theorem ofValue?_value (w : Whole) : ofValue? w.value = some w := by cases w <;> rfl

end Whole

namespace Config

def wrongType (key : String) (expected : Expected) : Fault := .config (.wrongType key expected)

def expectString (v : Value) (key : String) : Except Fault String :=
  match v with
  | .text s => .ok s
  | _ => .error (wrongType key .string)

/-- A text that may be null; surrounding blanks go, and a blank one counts as null. -/
def expectOptionalString (v : Value) (key : String) : Except Fault (Option String) :=
  match v with
  | .null => .ok none
  | v => do
    let s := Text.trim (← expectString v key)
    return if s = "" then none else some s

def expectBool (v : Value) (key : String) : Except Fault Bool :=
  match v with
  | .bool b => .ok b
  | _ => .error (wrongType key .boolean)

def expectInt (v : Value) (key : String) : Except Fault Whole :=
  match Whole.ofValue? v with
  | some w => .ok w
  | none => .error (wrongType key .integer)

def expectOptionalInt (v : Value) (key : String) : Except Fault (Option Whole) :=
  match v with
  | .null => .ok none
  | v => do return some (← expectInt v key)

def expectEntries (key : String) : Entries → Except Fault (List (String × Whole))
  | [] => .ok []
  | (.text name, v) :: es => do
    let w ← expectInt v (key ++ "." ++ name)
    return (name, w) :: (← expectEntries key es)
  | _ => .error (.config (.keysNotStrings key))

/-- A mapping of names to integers; null is the empty one. -/
def expectIntMapping (v : Value) (key : String) : Except Fault (List (String × Whole)) :=
  match v with
  | .null => .ok []
  | .map es => expectEntries key es
  | _ => .error (wrongType key .object)

/-- A section of a configuration; one that is null or not there is empty unless it is required. -/
def sectionOf (raw : Value) (key : String) (required : Bool) : Except Fault Entries :=
  match raw with
  | .map es =>
    match Entries.named? es key with
    | none | some .null => if required then .error (.config (.missing key)) else .ok []
    | some (.map s) => .ok s
    | some _ => .error (wrongType key .object)
  | _ => .error (.operand .noSuchMember)

/-- Whether one text stands inside another. -/
def occursIn (part whole : List Char) : Bool :=
  match whole with
  | [] => part.isEmpty
  | c :: cs => part.isPrefixOf (c :: cs) || occursIn part cs

/-- The value of a field that has to be there. -/
def requiredValue (raw : Value) (field key : String) : Except Fault Value :=
  let missing : Except Fault Value := .error (.config (.missing key))
  match raw with
  | .map es => (Entries.named? es field).elim missing .ok
  | .list xs => if xs.any (Value.same (.text field)) then .error (.operand .notIndexed) else missing
  | .text s =>
    if occursIn field.toList s.toList then .error (.operand .notIndexed) else missing
  | _ => .error (.operand .notIterable)

end Config

end Fulltext
