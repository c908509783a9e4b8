import Fulltext.Number.Binary64

namespace Fulltext.Binary64

/-- The nearest number to a rational one. -/
def ofRat (q : Rat) : Binary64 := ofRatio (q < 0) q.num.natAbs q.den

def isNegativeSign : Binary64 → Bool
  | finite s _ _ => s
  | infinite s => s
  | nan _ => false

/-- Opposite infinities have no sum, and two zeros keep a sign only if they share it. -/
def add (x y : Binary64) : Binary64 :=
  match x.magnitude, y.magnitude with
  | .exact a, .exact b =>
    if a + b = 0 then zero (x.isNegativeSign && y.isNegativeSign) else ofRat (a + b)
  | .nan i, _ => nan i
  | _, .nan i => nan i
  | .infinite s, .infinite t => if s = t then infinite s else nan 0
  | .infinite s, .exact _ => infinite s
  | .exact _, .infinite t => infinite t

/-- Zero and infinity have no product. -/
def mul (x y : Binary64) : Binary64 :=
  let negative := x.isNegativeSign != y.isNegativeSign
  match x.magnitude, y.magnitude with
  | .exact a, .exact b => if a * b = 0 then zero negative else
    ofRatio negative (a * b).num.natAbs (a * b).den
  | .nan i, _ => nan i
  | _, .nan i => nan i
  | .infinite _, .infinite _ => infinite negative
  | .infinite _, .exact b => if b = 0 then nan 0 else infinite negative
  | .exact a, .infinite _ => if a = 0 then nan 0 else infinite negative

def isInfinite : Binary64 → Bool
  | infinite _ => true
  | _ => false

end Fulltext.Binary64
