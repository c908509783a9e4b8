import Fulltext.Fault
import Fulltext.Number.Reading
import Fulltext.Value.Render

namespace Fulltext.Value

/-- The members of a list, the characters of a text, the numbers of bytes, the names of a mapping. -/
def items : Value → Except Fault (List Value)
  | list xs => .ok xs
  | text s => .ok (s.toList.map fun c => .text (String.singleton c))
  | foreign (.bytes bs) => .ok (bs.map fun b => .int b.toNat)
  | map es => .ok (es.map (·.1))
  | _ => .error (.operand .notIterable)

def size : Value → Except Fault Nat
  | list xs => .ok xs.length
  | text s => .ok s.length
  | foreign (.bytes bs) => .ok bs.length
  | map es => .ok es.length
  | _ => .error (.operand .notSized)

/-- A whole number that is written in a text. -/
def integerIn (s : String) : Except Fault Int :=
  match Reading.integer? s with
  | some n => .ok n
  | none => .error (.operand .malformedNumber)

/-- A whole number: floating-point numbers lose their fraction, texts and ASCII bytes are read. -/
def toInt : Value → Except Fault Int
  | bool b => .ok (ofBool01 b)
  | int n => .ok n
  | matchMode m => .ok m.number
  | sortMode m => .ok m.number
  | float x =>
    match x.truncate?, x with
    | some n, _ => .ok n
    | none, .infinite _ => .error (.operand .infinite)
    | none, _ => .error (.operand .notANumber)
  | text s => integerIn s
  | foreign (.bytes bs) =>
    if bs.all (· < 128) then integerIn (String.ofList (Text.charsOfBytes bs))
    else .error (.operand .malformedNumber)
  | _ => .error (.operand .notNumeric)

/-- Whether a number is below zero. -/
def isNegative : Value → Except Fault Bool
  | bool _ => .ok false
  | int n => .ok (n < 0)
  | matchMode _ => .ok false
  | sortMode _ => .ok false
  | float x => .ok x.isNegative
  | _ => .error (.operand .notOrdered)

/-- The entries that name-and-value pairs give, later values replacing earlier ones. -/
def putPairs (es : Entries) : List Value → Except Fault Entries
  | [] => .ok es
  | p :: ps => do
    match ← p.items with
    | [k, v] =>
      if k.key?.isSome then putPairs (es.put k v) ps else .error (.operand .notHashable)
    | _ => .error (.operand .wrongPairLength)

/-- A mapping as it is, and a sequence of pairs as the mapping that it lists. -/
def toEntries : Value → Except Fault Entries
  | map es => .ok es
  | v => do putPairs [] (← v.items)

end Fulltext.Value
