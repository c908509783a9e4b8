namespace Fulltext.Yaml

/-- What is left of the text, with its length. -/
structure Cursor where
  rest : List Char
  left : Nat
  index : Nat := 0
  line : Nat := 0
  column : Nat := 0
  deriving Repr

def isBreak (c : Char) : Bool :=
  c == '\n' || c == '\r' || c == '\x85' || c == '\u2028' || c == '\u2029'

def isSpaceOrTab (c : Char) : Bool := c == ' ' || c == '\t'

/-- A line ends at a break or with the text. -/
def endsLine : Option Char → Bool
  | none => true
  | some c => isBreak c

/-- A space or the end of a line. -/
def endsWord : Option Char → Bool
  | none => true
  | some c => c == ' ' || isBreak c

/-- A space, a tab or the end of a line. -/
def endsToken : Option Char → Bool
  | none => true
  | some c => isSpaceOrTab c || isBreak c

namespace Cursor

/-- The start of a text. -/
def ofText (text : String) : Cursor := { rest := text.toList, left := text.length }

def peek (c : Cursor) : Option Char := c.rest.head?

def peekAt (c : Cursor) (n : Nat) : Option Char := c.rest[n]?

/-- One character on. A carriage return starts a new line unless a line feed follows it, and a byte
order mark takes no column. -/
def step (c : Cursor) : Cursor :=
  match c.rest with
  | [] => c
  | ch :: rest =>
    if isBreak ch && !(ch == '\r' && rest.head? == some '\n') then
      ⟨rest, c.left - 1, c.index + 1, c.line + 1, 0⟩
    else if ch == '\uFEFF' then ⟨rest, c.left - 1, c.index + 1, c.line, c.column⟩
    else ⟨rest, c.left - 1, c.index + 1, c.line, c.column + 1⟩

def advance (c : Cursor) : Nat → Cursor
  | 0 => c
  | n + 1 => c.step.advance n

/-- The characters up to the first that fails `p`, and the cursor there. -/
def takeWhile (p : Char → Bool) (c : Cursor) : List Char × Cursor :=
  let taken := c.rest.takeWhile p
  (taken, c.advance taken.length)

def skipWhile (p : Char → Bool) (c : Cursor) : Cursor := (c.takeWhile p).2

/-- One line break, if there is one here. All breaks but the two separators read as a line feed. -/
def lineBreak (c : Cursor) : List Char × Cursor :=
  match c.rest with
  | '\r' :: '\n' :: _ => (['\n'], c.advance 2)
  | ch :: _ =>
    if ch == '\u2028' || ch == '\u2029' then ([ch], c.step)
    else if isBreak ch then (['\n'], c.step)
    else ([], c)
  | [] => ([], c)

/-- Three hyphens or three dots as a word of their own. -/
def atMarker (c : Cursor) : Bool :=
  match c.rest with
  | '-' :: '-' :: '-' :: rest => endsToken rest.head?
  | '.' :: '.' :: '.' :: rest => endsToken rest.head?
  | _ => false

/-- The next line, if nothing is left of this one but blanks and a comment. -/
def ignoredLine? (c : Cursor) : Option Cursor :=
  let c := c.skipWhile (· == ' ')
  let c := if c.peek == some '#' then c.skipWhile (fun ch => !isBreak ch) else c
  if endsLine c.peek then some c.lineBreak.2 else none

end Cursor

end Fulltext.Yaml
