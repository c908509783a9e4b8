import Fulltext.Fault
import Fulltext.Number.Reading
import Fulltext.Yaml.Cursor
import Fulltext.Yaml.ScalarText
import Fulltext.Yaml.Token

namespace Fulltext.Yaml

def isNameChar (c : Char) : Bool := c.isAlphanum || c == '-' || c == '_'

/-- Characters of a tag's address, but for the percent sign, which starts an escape. -/
def isAddressChar (c : Char) : Bool :=
  c.isAlphanum || "-;/?:@&=+$,_.!~*'()[]".toList.contains c

/-- The name of an anchor, from after its mark. -/
def anchorName (c : Cursor) : Except DocumentFault (String × Cursor) :=
  let (name, c) := c.takeWhile isNameChar
  if name.isEmpty then .error .malformed
  else if endsToken c.peek || c.peek.any "?:,]\x7d%@`".toList.contains then
    .ok (String.ofList name, c)
  else .error .malformed

/-- Bytes that are each written as a percent sign and two hexadecimal digits. -/
def escapedBytes : List Char → Except DocumentFault (List UInt8)
  | '%' :: h :: l :: rest =>
    match hexNumber? [h, l] with
    | some n => do return n.toUInt8 :: (← escapedBytes rest)
    | none => .error .malformed
  | '%' :: _ => .error .malformed
  | _ => .ok []

/-- A tag's address with its escapes replaced. -/
def addressText : Nat → Cursor → Except DocumentFault (List Char × Cursor)
  | 0, c => .ok ([], c)
  | fuel + 1, c =>
    let (run, c) := c.takeWhile isAddressChar
    if c.peek != some '%' then .ok (run, c)
    else do
      let bytes ← escapedBytes c.rest
      let some text := String.fromUTF8? ⟨bytes.toArray⟩ | .error .malformed
      let (rest, c) ← addressText fuel (c.advance (3 * bytes.length))
      return (run ++ text.toList ++ rest, c)

def address (c : Cursor) : Except DocumentFault (String × Cursor) := do
  let (text, c) ← addressText (c.left + 1) c
  if text.isEmpty then throw .malformed
  return (String.ofList text, c)

/-- A named handle: a word between exclamation marks. -/
def namedHandle (c : Cursor) : Except DocumentFault (String × Cursor) :=
  let (name, c) := c.step.takeWhile isNameChar
  if c.peek == some '!' then .ok (String.ofList ('!' :: name ++ ['!']), c.step)
  else .error .malformed

/-- A tag: between angle brackets, after a handle, or nothing but the exclamation mark. -/
def tagToken (c : Cursor) : Except DocumentFault (Token × Cursor) := do
  let (token, c) ←
    if c.peekAt 1 == some '<' then do
      let (uri, c) ← address (c.advance 2)
      if c.peek != some '>' then throw .malformed
      pure (Token.tag none uri, c.step)
    else if endsToken (c.peekAt 1) then pure (Token.tag none "!", c.step)
    else do
      let word := c.step.rest.takeWhile fun ch => !endsWord (some ch)
      let (handle, c) ← if word.contains '!' then namedHandle c else pure ("!", c.step)
      let (suffix, c) ← address c
      pure (Token.tag (some handle) suffix, c)
  if !endsWord c.peek then throw .malformed
  return (token, c)

/-- One part of a version number. -/
def versionPart (c : Cursor) : Except DocumentFault (Nat × Cursor) :=
  let (digits, c) := c.takeWhile Char.isDigit
  if digits.isEmpty then .error .malformed
  else
    match Reading.integer? (String.ofList digits) with
    | some n => .ok (n.toNat, c)
    | none => .error .unsuitableNumber

def versionDirective (c : Cursor) : Except DocumentFault (Token × Cursor) := do
  let (major, c) ← versionPart (c.skipWhile (· == ' '))
  if c.peek != some '.' then throw .malformed
  let (_, c) ← versionPart c.step
  if !endsWord c.peek then throw .malformed
  return (.version major, c)

def handleDirective (c : Cursor) : Except DocumentFault (Token × Cursor) := do
  let c := c.skipWhile (· == ' ')
  if c.peek != some '!' then throw .malformed
  let (handle, c) ← if c.peekAt 1 == some ' ' then pure ("!", c.step) else namedHandle c
  if c.peek != some ' ' then throw .malformed
  let (meaning, c) ← address (c.skipWhile (· == ' '))
  if !endsWord c.peek then throw .malformed
  return (.tagHandle handle meaning, c)

/-- A directive, from its percent sign to the end of its line. -/
def directive (c : Cursor) : Except DocumentFault (Token × Cursor) := do
  let (name, c) := c.step.takeWhile isNameChar
  if name.isEmpty || !endsWord c.peek then throw .malformed
  let (token, c) ← match String.ofList name with
    | "YAML" => versionDirective c
    | "TAG" => handleDirective c
    | _ => pure (.otherDirective, c.skipWhile (fun ch => !isBreak ch))
  let some c := c.ignoredLine? | throw .malformed
  return (token, c)

end Fulltext.Yaml
