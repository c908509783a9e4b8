import Fulltext.Query.Basic

namespace Fulltext.Query

def fieldNames : List Value → Except Fault (List String)
  | [] => .ok []
  | .text s :: vs => do return s :: (← fieldNames vs)
  | _ => .error (.operand .notJoinable)

/-- All fields are written `@*`, and some of them `@(f,g)`. -/
def scope (fields : List Value) : Except Fault String := do
  if fields.isEmpty then return "@*"
  return "@(" ++ ",".intercalate (← fieldNames fields) ++ ")"

/-- The text to send for an escaped search text. An empty one is sent without a scope. -/
def text (escaped : Value) (fields : List Value) : Except Fault Value := do
  if !escaped.isSet then return escaped
  return .text ((← scope fields) ++ " " ++ escaped.shown)

end Fulltext.Query
