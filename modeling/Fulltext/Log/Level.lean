namespace Fulltext.Log

inductive Level where
  | debug | info | warning | error | critical
  deriving DecidableEq, Repr

namespace Level

def every : List Level := [debug, info, warning, error, critical]

def number : Level → Int
  | debug => 10
  | info => 20
  | warning => 30
  | error => 40
  | critical => 50

def name : Level → String
  | debug => "DEBUG"
  | info => "INFO"
  | warning => "WARNING"
  | error => "ERROR"
  | critical => "CRITICAL"

def ofName? (s : String) : Option Level := every.find? fun l => l.name == s

/-- The names in alphabetical order. -/
def sortedNames : List String := ["CRITICAL", "DEBUG", "ERROR", "INFO", "WARNING"]

theorem mem_every (l : Level) : l ∈ every := by cases l <;> decide

theorem ofName?_name (l : Level) : ofName? l.name = some l := by cases l <;> rfl

end Level

/-- A message at a level. -/
structure Record where
  level : Level
  message : String
  deriving DecidableEq, Repr

end Fulltext.Log
