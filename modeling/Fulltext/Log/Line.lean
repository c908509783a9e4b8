import Fulltext.Log.Level

namespace Fulltext.Log

/-- A moment of a year, to the second. -/
structure Moment where
  month : Nat
  day : Nat
  hour : Nat
  minute : Nat
  second : Nat
  deriving DecidableEq, Repr

def twoDigits (n : Nat) : String := if n < 10 then "0" ++ toString n else toString n

namespace Moment

/-- The moment in the name of a file. -/
def digits (m : Moment) : String :=
  twoDigits m.month ++ twoDigits m.day ++ twoDigits m.hour ++ twoDigits m.minute ++
    twoDigits m.second

/-- The moment at the head of a line. -/
def text (m : Moment) : String :=
  twoDigits m.month ++ "-" ++ twoDigits m.day ++ " " ++ twoDigits m.hour ++ ":" ++
    twoDigits m.minute ++ ":" ++ twoDigits m.second

end Moment

/-- Four letters for a level. A level without a name of its own is called by its number, and four
letters of that are left. -/
def abbreviation (level : Int) : String :=
  if level = 10 then "DEBG"
  else if level = 20 then "INFO"
  else if level = 30 then "WARN"
  else if level = 40 ∨ level = 50 then "ERRO"
  else if level = 0 then "NOTS"
  else "Leve"

def line (m : Moment) (level : Int) (message : String) : String :=
  m.text ++ " [" ++ abbreviation level ++ "] " ++ message ++ "\n"

end Fulltext.Log
