namespace Fulltext.Text

/-- Upper-case form, exact where that form is ASCII: the ASCII letters and the ten other characters
whose upper-case form consists of ASCII letters. Any other character stands for itself, and so it
keeps the result outside ASCII, as its true form does. -/
def upperChar (c : Char) : List Char :=
  if 'a' ≤ c ∧ c ≤ 'z' then [Char.ofNat (c.toNat - 32)]
  else match c.toNat with
    | 0xDF => ['S', 'S']
    | 0x131 => ['I']
    | 0x17F => ['S']
    | 0xFB00 => ['F', 'F']
    | 0xFB01 => ['F', 'I']
    | 0xFB02 => ['F', 'L']
    | 0xFB03 => ['F', 'F', 'I']
    | 0xFB04 => ['F', 'F', 'L']
    | 0xFB05 => ['S', 'T']
    | 0xFB06 => ['S', 'T']
    | _ => [c]

def upper (s : String) : String := String.ofList (s.toList.flatMap upperChar)

end Fulltext.Text
