import Fulltext.Config.Basic
import Fulltext.Config.Merge
import Fulltext.Path
import Fulltext.Yaml.Content

namespace Fulltext.Config

/-- Files by their paths, as bytes. -/
abbrev Files := Path → Option ByteArray

/-- Carriage returns, with a line feed after them or without, are line feeds in a text file. -/
def lineFeeds : List Char → List Char
  | '\r' :: '\n' :: cs => '\n' :: lineFeeds cs
  | '\r' :: cs => '\n' :: lineFeeds cs
  | c :: cs => c :: lineFeeds cs
  | [] => []

/-- The text in a file. -/
def readText (files : Files) (p : Path) : Except Fault String :=
  match files p with
  | none => .error (.file .missing)
  | some bytes =>
    match String.fromUTF8? bytes with
    | some s => .ok (String.ofList (lineFeeds s.toList))
    | none => .error (.file .notUtf8)

/-- A configuration looks at nothing that is more levels below the root of a document. -/
def reach : Nat := 4

/-- The mapping that a document holds; one with nothing in it holds the empty one. -/
def rootEntries (v : Value) : Except Fault Entries :=
  match v.orElse (.map []) with
  | .map es => .ok es
  | _ => .error (.config .rootNotMapping)

/-- What documents are read with. Values that are no number are told apart by serial numbers: a
document is read with the first one that is free, and `serials` is the first one free after it. -/
structure Documents (δ : Type) where
  read : Nat → String → Except Fault δ
  value : δ → Value
  serials : δ → Nat
  /-- Whether laying the first document over the second goes on without end. -/
  endlessOver : δ → δ → Bool

namespace Documents

variable {δ : Type}

/-- Documents that are finite trees, read from their texts alone. -/
def trees (read : String → Except Fault Value) : Documents Value where
  read _ := read
  value v := v
  serials _ := 1
  endlessOver _ _ := false

/-- YAML documents. One that contains itself is cut off below what a configuration looks at. -/
def yaml : Documents Yaml.Graph where
  read first text := (Yaml.read first text).mapError Fault.document
  value g := g.unfold (g.height?.getD reach)
  serials := Yaml.Graph.serials
  endlessOver := Yaml.Graph.endlessOver

/-- A document with the mapping that it holds. -/
def layer (docs : Documents δ) (first : Nat) (text : String) : Except Fault (δ × Entries) := do
  let d ← docs.read first text
  return (d, ← rootEntries (docs.value d))

end Documents

/-- A file laid over a base. -/
def loadFrom {δ : Type} (docs : Documents δ) (files : Files) (p base : Path) :
    Except Fault Config := do
  let (lower, below) ← docs.layer 1 (← readText files base)
  if p = base then parse (.map below)
  else
    let (upper, above) ← docs.layer (docs.serials lower) (← readText files p)
    if docs.endlessOver upper lower then throw (.document .tooDeep)
    parse (.map (below.merge above))

def load : Files → Path → Path → Except Fault Config := loadFrom .yaml

/-- The whole mapping in a text. -/
def readDocument (text : String) : Except Fault Entries := do
  let (g, es) ← Documents.yaml.layer 1 text
  if g.height?.isNone then throw (.document .tooDeep)
  return es

/-- Where the defaults are. -/
def defaultPath : Path := .ofText "config/default.yml"

/-- The defaults as they are shipped. -/
def defaultText : String :=
  "log:\n  level: INFO\n  to_file: false\n  dir: log\n  action: query\n\n" ++
    "query:\n  index: null\n  limit: null\n  offset: 0\n  match_mode: null\n" ++
    "  field_weights: \x7b\x7d\n"

end Fulltext.Config
