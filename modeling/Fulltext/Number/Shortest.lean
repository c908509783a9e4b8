import Fulltext.Number.Binary64

namespace Fulltext.Shortest

/-- Digits `d` standing for `d * 10 ^ (place - number of digits)`. -/
structure Decimal where
  digits : Nat
  place : Int
  deriving DecidableEq, Repr

/-- A positive number `value / scale` between the ends of the interval that rounds to it. -/
structure Target where
  low : Nat
  value : Nat
  high : Nat
  scale : Nat
  closed : Bool
  deriving DecidableEq, Repr

/-- Below a power of two the neighbour is at half the distance, unless the mantissa is short. -/
def target (m : Nat) (e : Int) : Target :=
  let up := Nat.pow 2 (e - 2).toNat
  let low := if m = Nat.pow 2 52 ∧ Binary64.leastExponent < e then 4 * m - 1 else 4 * m - 2
  ⟨low * up, 4 * m * up, (4 * m + 2) * up, Nat.pow 2 (2 - e).toNat, m % 2 == 0⟩

def Target.below (t : Target) (k : Int) : Bool :=
  t.value * Nat.pow 10 (-k).toNat < Nat.pow 10 k.toNat * t.scale

/-- The least power of ten above the number, searched for from an estimate by bits. -/
def Target.place (t : Target) (m : Nat) (e : Int) : Int :=
  let k := ((m.log2 : Int) + e) * 30103 / 100000
  if t.below k then k else if t.below (k + 1) then k + 1 else k + 2

/-- The candidate of `n` digits inside the interval, the nearer of two. -/
def Target.withDigits? (t : Target) (place : Int) (n : Nat) : Option Nat :=
  let up := Nat.pow 10 (n - place).toNat
  let unit := Nat.pow 10 (place - n).toNat * t.scale
  let d := t.value * up / unit
  let fits := fun x =>
    let y := x * unit
    if t.closed then t.low * up ≤ y && y ≤ t.high * up else t.low * up < y && y < t.high * up
  let nearLow := 2 * (t.value * up) ≤ (2 * d + 1) * unit
  let nearHigh := (2 * d + 1) * unit ≤ 2 * (t.value * up)
  match fits d, fits (d + 1) with
  | true, true => some (if nearLow && nearHigh then d + d % 2 else if nearLow then d else d + 1)
  | true, false => some d
  | false, true => some (d + 1)
  | false, false => none

def digitsOf (m : Nat) (e : Int) : Decimal :=
  let t := target m e
  let place := t.place m e
  let n := ((List.range 17).map (· + 1)).find? fun n => (t.withDigits? place n).isSome
  match n with
  | some n =>
    let d := (t.withDigits? place n).getD 0
    ⟨d, place + (toString d).length - n⟩
  | none => ⟨m, place⟩

/-- Where plain notation ends and how an exponent is written. -/
structure Layout where
  leastPlain : Int
  mostPlain : Int
  exponentDigits : Nat
  deriving DecidableEq, Repr

/-- Exponents from -4 to 15 are written out, with a digit after the point; others take a sign and at
least two digits. -/
def layout : Layout := ⟨-4, 15, 2⟩

def dropTrailingZeros (cs : List Char) : List Char := (cs.reverse.dropWhile (· == '0')).reverse

def zeros (n : Nat) : List Char := List.replicate n '0'

/-- Digits before and after the point in plain notation. -/
def plain (ds : List Char) (place : Int) : List Char :=
  if place ≤ 0 then '0' :: '.' :: zeros (-place).toNat ++ ds
  else
    let n := place.toNat
    if ds.length ≤ n then ds ++ zeros (n - ds.length) ++ ['.', '0']
    else ds.take n ++ '.' :: ds.drop n

def scientific (l : Layout) (ds : List Char) (exponent : Int) : List Char :=
  let fraction := if ds.length ≤ 1 then [] else '.' :: ds.drop 1
  let es := (toString exponent.natAbs).toList
  ds.take 1 ++ fraction ++ 'e' :: (if exponent < 0 then '-' else '+') ::
    zeros (l.exponentDigits - es.length) ++ es

def render (l : Layout) (d : Decimal) : List Char :=
  let ds := dropTrailingZeros (toString d.digits).toList
  let exponent := d.place - 1
  if l.leastPlain ≤ exponent ∧ exponent ≤ l.mostPlain then plain ds d.place
  else scientific l ds exponent

end Fulltext.Shortest

namespace Fulltext.Binary64

def text : Binary64 → String
  | finite s m e =>
    let body :=
      if m = 0 then ['0', '.', '0']
      else Shortest.render Shortest.layout (Shortest.digitsOf m e)
    String.ofList (if s then '-' :: body else body)
  | infinite s => if s then "-inf" else "inf"
  | nan _ => "nan"

end Fulltext.Binary64
