import Fulltext.Number.Binary64
import Fulltext.Text.Blank
import Fulltext.Text.Digit

namespace Fulltext.Reading

open Text

/-- The most digits an integer may be written or read with. -/
def digitLimit : Nat := 4300

/-- A leading sign, and whether it is a minus. -/
def sign : List Char → Bool × List Char
  | '-' :: rest => (true, rest)
  | '+' :: rest => (false, rest)
  | rest => (false, rest)

def integer? (s : String) : Option Int := do
  let (negative, rest) := sign (stripChars isNumberBlank s.toList)
  let ds ← digitGroups? rest
  if digitLimit < ds.length then none
  let n : Int := ofDigits 10 ds
  return if negative then -n else n

def lowerChar (c : Char) : Char :=
  if 'A' ≤ c ∧ c ≤ 'Z' then Char.ofNat (c.toNat + 32) else c

/-- What stands before and after the first separator. -/
def splitFirst (p : Char → Bool) (cs : List Char) : List Char × Option (List Char) :=
  match cs.dropWhile (fun c => !p c) with
  | [] => (cs, none)
  | _ :: rest => (cs.takeWhile (fun c => !p c), some rest)

def optionalDigits? : List Char → Option (List Nat)
  | [] => some []
  | cs => digitGroups? cs

/-- The number that digits with a decimal exponent stand for. Exponents far outside the range of
finite numbers are decided before the power of ten is computed. -/
def ofDecimal (negative : Bool) (ds : List Nat) (exponent : Int) : Binary64 :=
  let ds := ds.dropWhile (· == 0)
  let place := exponent + ds.length
  if ds.isEmpty || place < -400 then .zero negative
  else if 400 < place then .infinite negative
  else .ofRatio negative (ofDigits 10 ds * Nat.pow 10 exponent.toNat)
    (Nat.pow 10 (-exponent).toNat)

def exponent? (cs : List Char) : Option Int := do
  let (negative, rest) := sign cs
  let n : Int := ofDigits 10 (← digitGroups? rest)
  return if negative then -n else n

/-- An unsigned decimal: digits with at most one point, then an exponent. -/
def decimal? (negative : Bool) (cs : List Char) : Option Binary64 := do
  let (mantissa, power) := splitFirst (fun c => c == 'e' || c == 'E') cs
  let (whole, fraction) := splitFirst (· == '.') mantissa
  let whole ← optionalDigits? whole
  let fraction ← optionalDigits? (fraction.getD [])
  if whole.isEmpty && fraction.isEmpty then none
  let power ← (power.map exponent?).getD (some 0)
  return ofDecimal negative (whole ++ fraction) (power - fraction.length)

/-- Any written form of a floating-point number. `serial` marks a result that is no number. -/
def binary64? (serial : Nat) (s : String) : Option Binary64 :=
  let (negative, rest) := sign (stripChars isNumberBlank s.toList)
  let word := String.ofList (rest.map lowerChar)
  if word = "inf" ∨ word = "infinity" then some (.infinite negative)
  else if word = "nan" then some (.nan serial)
  else decimal? negative rest

end Fulltext.Reading
