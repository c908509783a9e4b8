import Fulltext.Yaml.NumberText
import Fulltext.Yaml.Timestamp

namespace Fulltext.Yaml

/-- Two of the kinds, `merge` and `value`, are for special keys; `other` has no meaning here. -/
inductive Tag where
  | null
  | bool
  | int
  | float
  | timestamp
  | binary
  | str
  | seq
  | omap
  | pairs
  | map
  | set
  | merge
  | value
  | other
  deriving DecidableEq, Repr

namespace Tag

/-- What the handle of two exclamation marks stands for unless a directive says otherwise. -/
def home : String := "tag:yaml.org,2002:"

def words : List (String × Tag) :=
  [("null", null), ("bool", bool), ("int", int), ("float", float), ("timestamp", timestamp),
    ("binary", binary), ("str", str), ("seq", seq), ("omap", omap), ("pairs", pairs), ("map", map),
    ("set", set), ("merge", merge), ("value", value)]

def ofName (name : String) : Tag :=
  ((words.map fun w => (home ++ w.1, w.2)).lookup name).getD other

/-- A word in the three forms that count: small, capitalised or capital letters. -/
def isWord (word s : String) : Bool :=
  s == word || s == word.capitalize || s == word.toUpper

def truths : List (String × Bool) :=
  [("yes", true), ("no", false), ("true", true), ("false", false), ("on", true), ("off", false)]

/-- The kind of a text by its content. -/
def ofContent (s : String) : Tag :=
  let cs := s.toList
  if s == "" || s == "~" || isWord "null" s then null
  else if truths.any (fun w => isWord w.1 s) then bool
  else if s == "<<" then merge
  else if s == "=" then value
  else if s == "!" || s == "&" || s == "*" then other
  else if isInteger cs then int
  else if isFloat cs then float
  else if (Timestamp.read? s).any Timestamp.isPlain then timestamp
  else str

/-- A text without the line feed at its end. -/
def withoutLineEnd (s : String) : String :=
  if s.toList.getLast? = some '\n' then String.ofList s.toList.dropLast else s

/-- The kind of a plain text. A line feed at its end is not looked at. -/
def ofPlain (s : String) : Tag := if s = "\n" then str else ofContent (withoutLineEnd s)

/-- Kinds whose values have parts. -/
def isCollection : Tag → Bool
  | seq | omap | pairs | map | set => true
  | _ => false

end Tag

end Fulltext.Yaml
