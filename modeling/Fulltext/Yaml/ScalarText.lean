import Fulltext.Fault
import Fulltext.Yaml.Cursor

namespace Fulltext.Yaml

/-- Where a plain scalar stops inside a line. In a flow collection its indicators stop it too. -/
def stopsPlain (flow : Bool) (c : Char) (next : Option Char) : Bool :=
  let flowStop := fun (c : Char) => [',', '[', ']', '\x7b', '\x7d'].contains c
  isSpaceOrTab c || isBreak c ||
    (c == ':' && (endsToken next || (flow && next.any flowStop))) ||
    (flow && (flowStop c || c == '?'))

def plainRun (flow : Bool) : List Char → List Char
  | [] => []
  | c :: rest => if stopsPlain flow c rest.head? then [] else c :: plainRun flow rest

/-- Blank lines after a line break of a plain scalar; `none` if a document marker follows. -/
def plainBreaks : Nat → Cursor → Option (List Char) × Cursor
  | 0, c => (some [], c)
  | fuel + 1, c =>
    if c.peek == some ' ' then plainBreaks fuel c.step
    else
      match c.lineBreak with
      | ([], _) => (some [], c)
      | (b, c) =>
        if c.atMarker then (none, c)
        else
          let (bs, c) := plainBreaks fuel c
          (bs.map (b ++ ·), c)

/-- Breaks as they are read: a single line feed is a space, one of several is dropped. -/
def fold (first rest : List Char) : List Char :=
  if first != ['\n'] then first ++ rest else if rest.isEmpty then [' '] else rest

/-- What lies between two runs of a plain scalar, and whether a line ended there. Nothing is given
where the scalar cannot go on. -/
def plainGap (c : Cursor) : List Char × Bool × Cursor :=
  let (blanks, c) := c.takeWhile (· == ' ')
  match c.lineBreak with
  | ([], _) => (blanks, false, c)
  | (b, c) =>
    if c.atMarker then ([], true, c)
    else
      match plainBreaks c.left c with
      | (some bs, c) => (fold b bs, true, c)
      | (none, c) => ([], true, c)

/-- A plain scalar, with whether the line ended after its last run. -/
def plainScalar (flow : Bool) (indent : Int) : Nat → Bool → Cursor → List Char × Bool × Cursor
  | 0, ended, c => ([], ended, c)
  | fuel + 1, ended, c =>
    let run := plainRun flow c.rest
    if c.peek == some '#' || run.isEmpty then ([], ended, c)
    else
      let (gap, ended, c) := plainGap (c.advance run.length)
      if gap.isEmpty || c.peek == some '#' || (!flow && (c.column : Int) < indent) then
        (run, ended, c)
      else
        let (more, ended, c) := plainScalar flow indent fuel ended c
        (run ++ if more.isEmpty then [] else gap ++ more, ended, c)

/-- Empty lines inside quote marks. -/
def quotedBreaks : Nat → Cursor → Except DocumentFault (List Char × Cursor)
  | 0, _ => .error .malformed
  | fuel + 1, c =>
    if c.atMarker then .error .malformed
    else
      let c := c.skipWhile isSpaceOrTab
      match c.lineBreak with
      | ([], _) => .ok ([], c)
      | (b, c) => do
        let (bs, c) ← quotedBreaks fuel c
        return (b ++ bs, c)

/-- Blanks inside quote marks, folded if a line ends there. -/
def quotedGap (c : Cursor) : Except DocumentFault (List Char × Cursor) :=
  let (blanks, c) := c.takeWhile isSpaceOrTab
  match c.peek, c.lineBreak with
  | none, _ => .error .malformed
  | some _, ([], _) => .ok (blanks, c)
  | some _, (b, c) => do
    let (bs, c) ← quotedBreaks (c.left + 1) c
    return (fold b bs, c)

def hexValue? (c : Char) : Option Nat :=
  if '0' ≤ c ∧ c ≤ '9' then some (c.toNat - 48)
  else if 'a' ≤ c ∧ c ≤ 'f' then some (c.toNat - 87)
  else if 'A' ≤ c ∧ c ≤ 'F' then some (c.toNat - 55)
  else none

def hexNumber? (cs : List Char) : Option Nat :=
  cs.foldl (fun n c => do return 16 * (← n) + (← hexValue? c)) (some 0)

/-- The escapes that stand for one character. -/
def simpleEscape? (c : Char) : Option Char :=
  [('0', '\x00'), ('a', '\x07'), ('b', '\x08'), ('t', '\t'), ('\t', '\t'), ('n', '\n'),
    ('v', '\x0B'), ('f', '\x0C'), ('r', '\r'), ('e', '\x1B'), (' ', ' '), ('"', '"'),
    ('\\', '\\'), ('/', '/'), ('N', '\x85'), ('_', '\xA0'), ('L', '\u2028'),
    ('P', '\u2029')].lookup c

/-- The number of hexadecimal digits after an escape by code. -/
def codeEscape? (c : Char) : Option Nat := [('x', 2), ('u', 4), ('U', 8)].lookup c

/-- The character of a code point; one that no text can hold is replaced. -/
def charOf (n : Nat) : Char := if n.isValidChar then Char.ofNat n else '\uFFFD'

/-- The code of so many hexadecimal digits. -/
def codePoint (n : Nat) (c : Cursor) : Except DocumentFault (Nat × Cursor) :=
  let digits := c.rest.take n
  match hexNumber? digits with
  | some code =>
    if digits.length < n then .error .malformed
    else if 0x7FFFFFFF < code then .error .excessiveNumber
    else if 0x10FFFF < code then .error .unsuitableNumber
    else .ok (code, c.advance n)
  | none => .error .malformed

/-- The second half of a pair of codes that stand for one character, if it comes next. -/
def secondHalf? (c : Cursor) : Option (Nat × Cursor) := do
  if c.peek != some '\\' then none
  let (code, c) ← (codePoint (← codeEscape? (← c.peekAt 1)) (c.advance 2)).toOption
  if 0xDC00 ≤ code ∧ code ≤ 0xDFFF then some (code, c) else none

/-- What a backslash between double quote marks stands for, given the cursor after it. -/
def escape (c : Cursor) : Except DocumentFault (List Char × Cursor) :=
  match c.peek with
  | none => .error .malformed
  | some ch =>
    match simpleEscape? ch, codeEscape? ch with
    | some r, _ => .ok ([r], c.step)
    | none, some n => do
      let (code, c) ← codePoint n c.step
      match secondHalf? c with
      | some (second, d) =>
        if 0xD800 ≤ code ∧ code ≤ 0xDBFF then
          return ([charOf (0x10000 + 0x400 * (code - 0xD800) + (second - 0xDC00))], d)
        else return ([charOf code], c)
      | none => return ([charOf code], c)
    | none, none =>
      match c.lineBreak with
      | ([], _) => .error .malformed
      | (_, c) => quotedBreaks (c.left + 1) c

/-- A scalar from after its opening quote mark to after its closing one. -/
def quotedScalar (quote : Char) : Nat → Cursor → Except DocumentFault (List Char × Cursor)
  | 0, _ => .error .malformed
  | fuel + 1, c =>
    match c.peek with
    | none => .error .malformed
    | some ch => do
      let (part, c) ←
        if ch == quote then
          if quote == '\'' && c.peekAt 1 == some '\'' then .ok (['\''], c.advance 2)
          else return ([], c.step)
        else if quote == '"' && ch == '\\' then escape c.step
        else if isSpaceOrTab ch || isBreak ch then quotedGap c
        else .ok ([ch], c.step)
      let (rest, c) ← quotedScalar quote fuel c
      return (part ++ rest, c)

/-- How the last line breaks of a block scalar are kept. -/
inductive Chomping where
  | strip | clip | keep
  deriving DecidableEq, Repr

def chomping? : Option Char → Option Chomping
  | some '+' => some .keep
  | some '-' => some .strip
  | _ => none

/-- An indentation indicator; zero is none. -/
def increment? : Option Char → Option Nat
  | some c => if '0' ≤ c ∧ c ≤ '9' then some (c.toNat - 48) else none
  | none => none

/-- The indicators after the mark of a block scalar, in either order. -/
def blockIndicators (c : Cursor) : Except DocumentFault ((Chomping × Option Nat) × Cursor) := do
  let (chomping, increment, c) :=
    match chomping? c.peek with
    | some ch =>
      match increment? c.step.peek with
      | some n => (ch, some n, c.advance 2)
      | none => (ch, none, c.step)
    | none =>
      match increment? c.peek with
      | some n =>
        match chomping? c.step.peek with
        | some ch => (ch, some n, c.advance 2)
        | none => (.clip, some n, c.step)
      | none => (.clip, none, c)
  if increment == some 0 || !endsWord c.peek then throw .malformed
  return ((chomping, increment), c)

/-- Leading empty lines of a block, and the deepest column reached on them. -/
def blockIndentation : Nat → Nat → Cursor → List Char × Nat × Cursor
  | 0, deepest, c => ([], deepest, c)
  | fuel + 1, deepest, c =>
    if c.peek == some ' ' then
      let c := c.step
      blockIndentation fuel (max deepest c.column) c
    else
      match c.lineBreak with
      | ([], _) => ([], deepest, c)
      | (b, c) =>
        let (bs, deepest, c) := blockIndentation fuel deepest c
        (b ++ bs, deepest, c)

/-- Indentation up to a column. -/
def skipIndent (indent : Int) : Nat → Cursor → Cursor
  | 0, c => c
  | fuel + 1, c =>
    if (c.column : Int) < indent && c.peek == some ' ' then skipIndent indent fuel c.step else c

/-- Empty lines of a block with the indentation of the line after them. -/
def blockBreaks (indent : Int) : Nat → Cursor → List Char × Cursor
  | 0, c => ([], c)
  | fuel + 1, c =>
    let c := skipIndent indent c.left c
    match c.lineBreak with
    | ([], _) => ([], c)
    | (b, c) =>
      let (bs, c) := blockBreaks indent fuel c
      (b ++ bs, c)

/-- Whether a line of a block starts here. -/
def atBlockLine (indent : Int) (c : Cursor) : Bool := (c.column : Int) == indent && c.peek.isSome

/-- The lines of a block, with its last line break and the empty lines after it. -/
def blockLines (folded : Bool) (indent : Int) :
    Nat → Cursor → List Char × List Char × List Char × Cursor
  | 0, c => ([], [], [], c)
  | fuel + 1, c =>
    let leading := !(c.peek.any isSpaceOrTab)
    let (content, c) := c.takeWhile (fun ch => !isBreak ch)
    let (last, c) := c.lineBreak
    let (breaks, c) := blockBreaks indent (c.left + 1) c
    if atBlockLine indent c then
      let join :=
        if folded && last == ['\n'] && leading && !(c.peek.any isSpaceOrTab) then
          if breaks.isEmpty then [' '] else []
        else last
      let (more, rest) := blockLines folded indent fuel c
      (content ++ join ++ breaks ++ more, rest)
    else (content, last, breaks, c)

/-- A block scalar from after its mark; `parent` is the indentation of the node around it. -/
def blockScalar (folded : Bool) (parent : Int) (c : Cursor) :
    Except DocumentFault (List Char × Cursor) := do
  let ((chomping, increment), c) ← blockIndicators c
  let some c := c.ignoredLine? | throw .malformed
  let least : Int := max (parent + 1) 1
  let (indent, breaks, c) :=
    match increment with
    | none =>
      let (bs, deepest, c) := blockIndentation c.left 0 c
      (max least deepest, bs, c)
    | some n =>
      let indent := least + n - 1
      let (bs, c) := blockBreaks indent (c.left + 1) c
      (indent, bs, c)
  let (text, last, breaks, c) :=
    if atBlockLine indent c then
      let (text, rest) := blockLines folded indent (c.left + 1) c
      (breaks ++ text, rest)
    else ([], [], breaks, c)
  let tail := match chomping with
    | .strip => []
    | .clip => last
    | .keep => last ++ breaks
  return (text ++ tail, c)

end Fulltext.Yaml
