import Fulltext.Yaml.Cursor

namespace Fulltext.Yaml

/-- A time of day with its distance from universal time in minutes. -/
structure Clock where
  hour : Nat
  minute : Nat
  second : Nat
  offset : Nat
  deriving DecidableEq, Repr

/-- A date is `padded` if month and day have two digits each. -/
structure Timestamp where
  year : Nat
  month : Nat
  day : Nat
  padded : Bool
  clock : Option Clock
  deriving DecidableEq, Repr

/-- A time of day in a zone less than a day away. -/
def Clock.isValid (c : Clock) : Bool :=
  c.hour < 24 && c.minute < 60 && c.second < 60 && c.offset < 1440

namespace Timestamp

/-- At least `least` and at most `most` digits, as many as there are. -/
def digits? (least most : Nat) (cs : List Char) : Option (Nat × Nat × List Char) :=
  let ds := (cs.take most).takeWhile Char.isDigit
  if ds.length < least then none
  else some (ds.foldl (fun n d => 10 * n + (d.toNat - 48)) 0, ds.length, cs.drop ds.length)

def expect? (c : Char) : List Char → Option (List Char)
  | d :: rest => if d = c then some rest else none
  | [] => none

/-- The zone at the end of a time: none, universal time, or hours with perhaps minutes. -/
def readZone? (cs : List Char) : Option Nat :=
  match cs with
  | [] => some 0
  | _ =>
    match cs.dropWhile isSpaceOrTab with
    | ['Z'] => some 0
    | s :: rest => do
      if s != '+' && s != '-' then none
      let (hours, _, rest) ← digits? 1 2 rest
      match rest with
      | [] => return 60 * hours
      | _ =>
        let (minutes, _, rest) ← digits? 2 2 (← expect? ':' rest)
        if rest.isEmpty then return 60 * hours + minutes else none
    | [] => none

def readClock? (cs : List Char) : Option Clock := do
  let (hour, _, cs) ← digits? 1 2 cs
  let (minute, _, cs) ← digits? 2 2 (← expect? ':' cs)
  let (second, _, cs) ← digits? 2 2 (← expect? ':' cs)
  let cs := match cs with
    | '.' :: rest => rest.dropWhile Char.isDigit
    | _ => cs
  return ⟨hour, minute, second, ← readZone? cs⟩

/-- The time that a text writes. -/
def read? (s : String) : Option Timestamp := do
  let (year, _, cs) ← digits? 4 4 s.toList
  let (month, m, cs) ← digits? 1 2 (← expect? '-' cs)
  let (day, d, cs) ← digits? 1 2 (← expect? '-' cs)
  let stamp := Timestamp.mk year month day (m == 2 && d == 2)
  match cs with
  | [] => return stamp none
  | c :: rest =>
    if c == 'T' || c == 't' then return stamp (some (← readClock? rest))
    else if isSpaceOrTab c then return stamp (some (← readClock? (rest.dropWhile isSpaceOrTab)))
    else none

/-- A plain scalar is a date alone only if that is padded. -/
def isPlain (t : Timestamp) : Bool := t.padded || t.clock.isSome

def isLeapYear (year : Nat) : Bool := year % 4 == 0 && (year % 100 != 0 || year % 400 == 0)

def daysIn (year month : Nat) : Nat :=
  if month == 2 then if isLeapYear year then 29 else 28
  else if [4, 6, 9, 11].contains month then 30
  else 31

/-- A day of the calendar, with a time of that day if there is one. -/
def isValid (t : Timestamp) : Bool :=
  1 ≤ t.year && 1 ≤ t.month && t.month ≤ 12 && 1 ≤ t.day &&
    t.day ≤ daysIn t.year t.month && t.clock.all Clock.isValid

end Timestamp

end Fulltext.Yaml
