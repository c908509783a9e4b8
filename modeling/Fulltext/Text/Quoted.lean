import Fulltext.Text.Printable

namespace Fulltext.Text

def hexDigit (n : Nat) : Char :=
  if n < 10 then Char.ofNat (48 + n) else Char.ofNat (87 + n)

/-- The lowest `width` hexadecimal digits of a number, in lower case. -/
def hexDigits (width n : Nat) : List Char :=
  (List.range width).reverse.map fun i => hexDigit (n / Nat.pow 16 i % 16)

/-- A single quote mark, unless the text holds one and holds no double quote mark. -/
def quoteMark (cs : List Char) : Char :=
  if cs.contains '\'' && !cs.contains '"' then '"' else '\''

/-- One character between quote marks `q`. -/
def escapeChar (q c : Char) : List Char :=
  if c = q ∨ c = '\\' then ['\\', c]
  else if c = '\n' then ['\\', 'n']
  else if c = '\r' then ['\\', 'r']
  else if c = '\t' then ['\\', 't']
  else if isPrintable c then [c]
  else if c.toNat < 0x100 then '\\' :: 'x' :: hexDigits 2 c.toNat
  else if c.toNat < 0x10000 then '\\' :: 'u' :: hexDigits 4 c.toNat
  else '\\' :: 'U' :: hexDigits 8 c.toNat

def quoted (s : String) : String :=
  let q := quoteMark s.toList
  String.ofList (q :: s.toList.flatMap (escapeChar q) ++ [q])

/-- Bytes as the characters of their numbers. -/
def charsOfBytes (bs : List UInt8) : List Char := bs.map fun b => Char.ofNat b.toNat

/-- A character that stands for a byte; only printable ASCII ones are shown. -/
def escapeByte (q c : Char) : List Char :=
  if c.toNat < 0x80 then escapeChar q c else '\\' :: 'x' :: hexDigits 2 c.toNat

def quotedBytes (bs : List UInt8) : String :=
  let cs := charsOfBytes bs
  let q := quoteMark cs
  String.ofList ('b' :: q :: cs.flatMap (escapeByte q) ++ [q])

end Fulltext.Text
