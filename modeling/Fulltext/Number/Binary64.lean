namespace Fulltext

/-- Here `finite s m e` stands for `m * 2 ^ e`, negated if `s`. What is no number is equal only
to itself, so it carries the serial number of the reading that made it. -/
inductive Binary64 where
  | finite (negative : Bool) (mantissa : Nat) (exponent : Int)
  | infinite (negative : Bool)
  | nan (serial : Nat)
  deriving DecidableEq, Repr

namespace Binary64

/-- Exponent of the last place of the least finite numbers. -/
def leastExponent : Int := -1074

/-- Exponent of the last place of the greatest finite numbers. -/
def greatestExponent : Int := 971

def zero (negative : Bool) : Binary64 := finite negative 0 leastExponent

/-- Quotient and remainder of `num / den` counted in units of `2 ^ e`, with the divisor. -/
def scaled (num den : Nat) (e : Int) : Nat × Nat × Nat :=
  let n := num * Nat.pow 2 (-e).toNat
  let d := den * Nat.pow 2 e.toNat
  (n / d, n % d, d)

/-- Last place of `num / den`: the quotient counted in it has 53 bits, or fewer at the lower end. -/
def lastPlace (num den : Nat) : Int :=
  let e := (num.log2 : Int) - den.log2 - 52
  let e := if (scaled num den e).1 < Nat.pow 2 52 then e - 1 else e
  max e leastExponent

/-- The nearest number to `num / den`, a tie going to the even mantissa. -/
def ofRatio (negative : Bool) (num den : Nat) : Binary64 :=
  if num = 0 then zero negative
  else
    let e := lastPlace num den
    let (q, r, d) := scaled num den e
    let m := if 2 * r < d then q else if d < 2 * r then q + 1 else q + q % 2
    let (m, e) := if m = Nat.pow 2 53 then (Nat.pow 2 52, e + 1) else (m, e)
    if greatestExponent < e then infinite negative else finite negative m e

def ofInt (n : Int) : Binary64 := ofRatio (n < 0) n.natAbs 1

def negate : Binary64 → Binary64
  | finite s m e => finite (!s) m e
  | infinite s => infinite (!s)
  | nan i => nan i

def isZero : Binary64 → Bool
  | finite _ m _ => m == 0
  | _ => false

/-- The part before the point; `none` for what is not finite. -/
def truncate? : Binary64 → Option Int
  | finite s m e =>
    let n : Int := (m * Nat.pow 2 e.toNat / Nat.pow 2 (-e).toNat : Nat)
    some (if s then -n else n)
  | _ => none

/-- Below zero; no number is below what is not a number. -/
def isNegative : Binary64 → Bool
  | finite s m _ => s && m != 0
  | infinite s => s
  | nan _ => false

end Binary64

/-- What a number compares by. -/
inductive Magnitude where
  | exact (value : Rat)
  | infinite (negative : Bool)
  | nan (serial : Nat)
  deriving DecidableEq, Repr

namespace Binary64

def magnitude : Binary64 → Magnitude
  | finite s m e =>
    let v : Rat := mkRat (m * Nat.pow 2 e.toNat : Nat) (Nat.pow 2 (-e).toNat)
    .exact (if s then -v else v)
  | infinite s => .infinite s
  | nan i => .nan i

end Binary64

end Fulltext
