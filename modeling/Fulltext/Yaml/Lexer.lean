import Fulltext.Yaml.Property

namespace Fulltext.Yaml

/-- Something that may turn out to be a key: the number of tokens before it and its place. A key is
required where nothing else can start a line of a block mapping. -/
structure PossibleKey where
  depth : Nat
  before : Nat
  required : Bool
  index : Nat
  line : Nat
  column : Nat
  deriving Repr

/-- Tokens are held latest first, open indentations innermost first, and `depth` counts the flow
collections that are open. -/
structure Lexer where
  cursor : Cursor
  tokens : List Token := []
  depth : Nat := 0
  indents : List Nat := []
  allowKey : Bool := true
  keys : List PossibleKey := []
  deriving Repr

namespace Lexer

/-- A key stands on one line and is no longer than this. -/
def keyLimit : Nat := 1024

/-- The column of the innermost open block collection; left of the text if there is none. -/
def indent (l : Lexer) : Int := l.indents.head?.elim (-1) (fun n => (n : Int))

/-- A token whose text is `n` characters long. -/
def emit (l : Lexer) (t : Token) (n : Nat) : Lexer :=
  { l with tokens := t :: l.tokens, cursor := l.cursor.advance n }

/-- Blanks, comments and line ends. Outside flow collections a key may start on a new line. -/
def skipBlank : Nat → Lexer → Lexer
  | 0, l => l
  | fuel + 1, l =>
    let c := l.cursor.skipWhile (· == ' ')
    let c := if c.peek == some '#' then c.skipWhile (fun ch => !isBreak ch) else c
    match c.lineBreak with
    | ([], c) => { l with cursor := c }
    | (_, c) => skipBlank fuel { l with cursor := c, allowKey := l.allowKey || l.depth == 0 }

/-- Whether the text has left a candidate behind. -/
def isStale (l : Lexer) (k : PossibleKey) : Bool :=
  k.line != l.cursor.line || k.index + keyLimit < l.cursor.index

/-- Candidates that the text has left behind are dropped. -/
def dropStale (l : Lexer) : Except DocumentFault Lexer :=
  let (stale, keys) := l.keys.partition l.isStale
  if stale.any (·.required) then .error .malformed else .ok { l with keys := keys }

/-- The candidate of the current collection, if any, is no key. -/
def dropKey (l : Lexer) : Except DocumentFault Lexer :=
  let (dropped, keys) := l.keys.partition (·.depth == l.depth)
  if dropped.any (·.required) then .error .malformed else .ok { l with keys := keys }

/-- What starts here may turn out to be a key. -/
def markKey (l : Lexer) : Except DocumentFault Lexer := do
  if !l.allowKey then return l
  let l ← l.dropKey
  let c := l.cursor
  let key : PossibleKey :=
    ⟨l.depth, l.tokens.length, l.depth == 0 && l.indent == c.column, c.index, c.line, c.column⟩
  return { l with keys := key :: l.keys }

/-- Ends of the block collections that are indented further than a column. -/
def closeBlocks (column : Int) : List Nat → List Token → List Nat × List Token
  | [], tokens => ([], tokens)
  | n :: indents, tokens =>
    if column < n then closeBlocks column indents (.blockEnd :: tokens) else (n :: indents, tokens)

def unwind (column : Int) (l : Lexer) : Lexer :=
  if l.depth != 0 then l
  else
    let (indents, tokens) := closeBlocks column l.indents l.tokens
    { l with indents := indents, tokens := tokens }

/-- Opens a block collection at a column, unless one is open there. -/
def openBlock (start : Token) (column : Nat) (l : Lexer) : Lexer :=
  if l.indent < column then
    { l with indents := column :: l.indents, tokens := start :: l.tokens }
  else l

/-- Outside flow collections an indicator of an entry needs a place where a key may start. -/
def openEntry (start : Token) (l : Lexer) : Except DocumentFault Lexer :=
  if l.depth != 0 then .ok l
  else if l.allowKey then .ok (l.openBlock start l.cursor.column)
  else .error .malformed

def openFlow (start : Token) (l : Lexer) : Except DocumentFault Lexer := do
  let l ← l.markKey
  return { l with depth := l.depth + 1, allowKey := true }.emit start 1

def closeFlow (stop : Token) (l : Lexer) : Except DocumentFault Lexer := do
  let l ← l.dropKey
  if l.depth = 0 then throw .malformed
  return { l with depth := l.depth - 1, allowKey := false }.emit stop 1

def flowEntry (l : Lexer) : Except DocumentFault Lexer := do
  return { ← l.dropKey with allowKey := true }.emit .flowEntry 1

def blockEntry (l : Lexer) : Except DocumentFault Lexer := do
  let l ← l.openEntry .blockSequenceStart
  return { ← l.dropKey with allowKey := true }.emit .blockEntry 1

def explicitKey (l : Lexer) : Except DocumentFault Lexer := do
  let l ← l.openEntry .blockMappingStart
  return { ← l.dropKey with allowKey := l.depth == 0 }.emit .key 1

/-- The colon after a key. The key gets its token, and so does the mapping if this is its first. -/
def value (l : Lexer) : Except DocumentFault Lexer := do
  match l.keys.find? (·.depth == l.depth) with
  | some k =>
    let (since, before) := l.tokens.splitAt (l.tokens.length - k.before)
    let keys := l.keys.filter (·.depth != l.depth)
    let l := { l with tokens := before, keys := keys, allowKey := false }
    let l := if l.depth = 0 then l.openBlock .blockMappingStart k.column else l
    return { l with tokens := since ++ Token.key :: l.tokens }.emit .value 1
  | none =>
    let l ← l.openEntry .blockMappingStart
    return { ← l.dropKey with allowKey := l.depth == 0 }.emit .value 1

/-- A token that may be a key or stand before one. -/
def content (scan : Cursor → Except DocumentFault (Token × Cursor)) (l : Lexer) :
    Except DocumentFault Lexer := do
  let l ← l.markKey
  let (t, c) ← scan l.cursor
  return { l with tokens := t :: l.tokens, cursor := c, allowKey := false }

def reference (c : Cursor) : Except DocumentFault (Token × Cursor) := do
  let (name, c) ← anchorName c.step
  return (.reference name, c)

def anchor (c : Cursor) : Except DocumentFault (Token × Cursor) := do
  let (name, c) ← anchorName c.step
  return (.anchor name, c)

def quoted (quote : Char) (c : Cursor) : Except DocumentFault (Token × Cursor) := do
  let (text, c) ← quotedScalar quote c.left c.step
  return (.scalar (String.ofList text) false, c)

/-- A plain scalar. If it ends with its line, a key may follow it. -/
def plain (l : Lexer) : Except DocumentFault Lexer := do
  let l ← l.markKey
  let (text, ended, c) :=
    plainScalar (l.depth != 0) (l.indent + 1) (l.cursor.left + 1) false l.cursor
  return { l with
    tokens := .scalar (String.ofList text) true :: l.tokens, cursor := c, allowKey := ended }

def block (folded : Bool) (l : Lexer) : Except DocumentFault Lexer := do
  let l ← l.dropKey
  let (text, c) ← blockScalar folded l.indent l.cursor.step
  return { l with
    tokens := .scalar (String.ofList text) false :: l.tokens, cursor := c, allowKey := true }

/-- Whatever ends the block collections of a document: a directive, a marker or the end. -/
def leaveDocument (l : Lexer) : Except DocumentFault Lexer := do
  return { ← (l.unwind (-1)).dropKey with allowKey := false }

def directiveLine (l : Lexer) : Except DocumentFault Lexer := do
  let l ← l.leaveDocument
  let (t, c) ← directive l.cursor
  return { l with tokens := t :: l.tokens, cursor := c }

/-- A plain scalar starts with no indicator, or with one that has something right after it. -/
def startsPlain (flow : Bool) (ch : Char) (next : Option Char) : Bool :=
  !(endsToken (some ch) || "-?:,[]\x7b\x7d#&*!|>'\"%@`".toList.contains ch) ||
    (!endsToken next && (ch == '-' || (!flow && (ch == '?' || ch == ':'))))

/-- The next token, and those that its indentation calls for. `ch` is where the cursor stands. -/
def next (ch : Char) (l : Lexer) : Except DocumentFault Lexer :=
  let c := l.cursor
  let flow := l.depth != 0
  let after := c.peekAt 1
  if ch == '%' && c.column == 0 then l.directiveLine
  else if c.column == 0 && c.atMarker then
    l.leaveDocument.map (·.emit (if ch == '-' then .documentStart else .documentEnd) 3)
  else if ch == '[' then l.openFlow .flowSequenceStart
  else if ch == '\x7b' then l.openFlow .flowMappingStart
  else if ch == ']' then l.closeFlow .flowSequenceEnd
  else if ch == '\x7d' then l.closeFlow .flowMappingEnd
  else if ch == ',' then l.flowEntry
  else if ch == '-' && endsToken after then l.blockEntry
  else if ch == '?' && (flow || endsToken after) then l.explicitKey
  else if ch == ':' && (flow || endsToken after) then l.value
  else if ch == '*' then l.content reference
  else if ch == '&' then l.content anchor
  else if ch == '!' then l.content tagToken
  else if ch == '|' && !flow then l.block false
  else if ch == '>' && !flow then l.block true
  else if ch == '\'' || ch == '"' then l.content (quoted ch)
  else if startsPlain flow ch after then l.plain
  else .error .malformed

/-- One step on in the text, and whether that was not its end. -/
def step (l : Lexer) : Except DocumentFault (Lexer × Bool) := do
  let l ← (l.skipBlank (l.cursor.left + 1)).dropStale
  let l := l.unwind l.cursor.column
  match l.cursor.peek with
  | none => return (← l.leaveDocument, false)
  | some ch => return (← l.next ch, true)

/-- The tokens that nothing can come before any more: those in front of every candidate. -/
def settled (l : Lexer) : List Token :=
  let live := l.keys.filter (!l.isStale ·)
  l.tokens.reverse.take (live.foldl (fun n k => min n k.before) l.tokens.length)

/-- Every token to the end of the text, or those that are settled before a fault. -/
def run : Nat → Lexer → TokenStream
  | 0, l => ⟨l.settled, some .malformed⟩
  | fuel + 1, l =>
    match l.step with
    | .error f => ⟨l.settled, some f⟩
    | .ok (l, true) => run fuel l
    | .ok (l, false) => ⟨l.tokens.reverse, none⟩

end Lexer

/-- The tokens of a text. A byte order mark may stand at its start. -/
def Token.scan (text : String) : TokenStream :=
  let c := Cursor.ofText text
  let c := if c.peek == some '\uFEFF' then c.step else c
  Lexer.run (text.length + 1) { cursor := c }

end Fulltext.Yaml
