import Fulltext.Fault
import Fulltext.Number.Arithmetic
import Fulltext.Number.Reading

namespace Fulltext.Yaml

open Text

def isGroupDigit (c : Char) : Bool := c.isDigit || c == '_'

/-- The rest after every place of base sixty that follows a colon. -/
def dropPlaces : List Char → List Char
  | ':' :: a :: b :: rest =>
    if !a.isDigit then ':' :: a :: b :: rest
    else if a ≤ '5' && b.isDigit then dropPlaces rest
    else dropPlaces (b :: rest)
  | [':', a] => if a.isDigit then [] else [':', a]
  | rest => rest

def isHexDigit (c : Char) : Bool :=
  c.isDigit || ('a' ≤ c && c ≤ 'f') || ('A' ≤ c && c ≤ 'F')

/-- Integers: decimal, of base sixty, or of base two, eight or sixteen after a zero. -/
def isInteger (cs : List Char) : Bool :=
  match (Reading.sign cs).2 with
  | '0' :: 'b' :: ds => !ds.isEmpty && ds.all (fun c => c == '0' || c == '1' || c == '_')
  | '0' :: 'x' :: ds => !ds.isEmpty && ds.all (fun c => isHexDigit c || c == '_')
  | '0' :: ds => ds.all (fun c => ('0' ≤ c && c ≤ '7') || c == '_')
  | d :: ds => d.isDigit && (dropPlaces (ds.dropWhile isGroupDigit)).isEmpty
  | [] => false

/-- An exponent has a sign and digits; there need not be one. -/
def isExponent : List Char → Bool
  | [] => true
  | e :: s :: ds =>
    (e == 'e' || e == 'E') && (s == '+' || s == '-') && !ds.isEmpty && ds.all Char.isDigit
  | _ => false

/-- Digits with a point, also of base sixty, or a word for what is not finite. -/
def isFloat (cs : List Char) : Bool :=
  let body := (Reading.sign cs).2
  [".inf", ".Inf", ".INF"].contains (String.ofList body) ||
    [".nan", ".NaN", ".NAN"].contains (String.ofList cs) ||
    (match cs with
      | '.' :: d :: ds => d.isDigit && isExponent (ds.dropWhile isGroupDigit)
      | _ => false) ||
    (match body with
      | d :: ds => d.isDigit &&
        (let rest := ds.dropWhile isGroupDigit
        match rest with
        | '.' :: fraction => isExponent (fraction.dropWhile isGroupDigit)
        | _ => match dropPlaces rest with
          | '.' :: fraction => fraction.all isGroupDigit
          | _ => false)
      | [] => false)

/-- The value of a digit of a base up to sixteen. -/
def basedDigit? (base : Nat) (c : Char) : Option Nat :=
  let d? := match digit? c with
    | some d => some d
    | none =>
      if 'a' ≤ c ∧ c ≤ 'f' then some (c.toNat - 87)
      else if 'A' ≤ c ∧ c ≤ 'F' then some (c.toNat - 55)
      else none
  d?.filter (· < base)

/-- The mark that may stand before the digits of a base. -/
def isBaseMark (base : Nat) (c : Char) : Bool :=
  (base == 2 && (c == 'b' || c == 'B')) || (base == 8 && (c == 'o' || c == 'O')) ||
    (base == 16 && (c == 'x' || c == 'X'))

def basedInteger? (base : Nat) (cs : List Char) : Option Int := do
  let (negative, digits) := Reading.sign (stripChars isNumberBlank cs)
  let digits := match digits with
    | '0' :: m :: rest => if isBaseMark base m then rest else digits
    | _ => digits
  if digits.isEmpty then none
  let n : Int := ofDigits base (← digits.mapM (basedDigit? base))
  return if negative then -n else n

/-- Places of base sixty, most significant first. -/
def sexagesimal? (cs : List Char) : Option Int := do
  let places ← ((String.ofList cs).splitOn ":").mapM Reading.integer?
  return places.foldl (fun n d => 60 * n + d) 0

/-- The integer that a text tagged as one stands for. -/
def integerOf (s : String) : Except DocumentFault Int :=
  let (negative, body) := Reading.sign (s.toList.filter (· != '_'))
  let n? := match body with
    | '0' :: 'b' :: ds => basedInteger? 2 ds
    | '0' :: 'x' :: ds => basedInteger? 16 ds
    | '0' :: _ => basedInteger? 8 body
    | _ => if body.contains ':' then sexagesimal? body else Reading.integer? (String.ofList body)
  if body.isEmpty then .error .emptyNumber
  else
    match n? with
    | some n => .ok (if negative then -n else n)
    | none => .error .unsuitableNumber

/-- Places of base sixty summed from the least significant; each weight is rounded to a number. -/
def sumPlaces (sum : Binary64) (weight : Nat) : List Binary64 → Except DocumentFault Binary64
  | [] => .ok sum
  | d :: ds =>
    let w := Binary64.ofInt weight
    if w.isInfinite then .error .excessiveNumber
    else sumPlaces (sum.add (d.mul w)) (60 * weight) ds

/-- The number that a text tagged as floating-point stands for. The word for what is no number
always stands for the same one; any other result that is none gets a serial number of its own. -/
def floatOf (serial : Nat) (s : String) : Except DocumentFault Binary64 := do
  let cs := (s.toList.filter (· != '_')).map Reading.lowerChar
  if cs.isEmpty then throw .emptyNumber
  let (negative, body) := Reading.sign cs
  let word := String.ofList body
  if word = ".nan" then return .nan 0
  let x ←
    if word = ".inf" then pure (Binary64.infinite false)
    else if body.contains ':' then
      match (word.splitOn ":").mapM (Reading.binary64? serial) with
      | some places => sumPlaces (.zero false) 1 places.reverse
      | none => throw .unsuitableNumber
    else
      match Reading.binary64? serial word with
      | some x => pure x
      | none => throw .unsuitableNumber
  match x with
  | .nan _ => return .nan serial
  | x => return if negative then x.negate else x

end Fulltext.Yaml
