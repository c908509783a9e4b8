import Fulltext.Number.Shortest
import Fulltext.Text.Quoted
import Fulltext.Value.Basic

namespace Fulltext

def Foreign.written : Foreign → String
  | bytes content => Text.quotedBytes content
  | time s => s

instance : Coe Foreign String := ⟨Foreign.written⟩

namespace Value

mutual

/-- Written form: a text is quoted, and a mode gives its name and number. -/
def written : Value → String
  | null => "None"
  | bool b => if b then "True" else "False"
  | int n => toString n
  | float x => x.text
  | text s => Text.quoted s
  | matchMode m => "<MatchMode." ++ m.name ++ ": " ++ toString m.number ++ ">"
  | sortMode m => "<SortMode." ++ m.name ++ ": " ++ toString m.number ++ ">"
  | foreign x => x
  | list items => "[" ++ ", ".intercalate (writtenItems items) ++ "]"
  | map entries => "\x7b" ++ ", ".intercalate (writtenEntries entries) ++ "\x7d"

def writtenItems : List Value → List String
  | [] => []
  | v :: vs => written v :: writtenItems vs

def writtenEntries : List (Value × Value) → List String
  | [] => []
  | (k, v) :: es => (written k ++ ": " ++ written v) :: writtenEntries es

end

/-- A text stands for itself and a mode for its number; all else is written. -/
def shown : Value → String
  | text s => s
  | matchMode m => toString m.number
  | sortMode m => toString m.number
  | v => v.written

end Value

end Fulltext
