namespace Fulltext

/-- How the words of a search text have to occur. -/
inductive MatchMode where
  | all | any | phrase | boolean | extended | fullscan | extended2
  deriving DecidableEq, Repr

/-- How matches are ordered. -/
inductive SortMode where
  | relevance | attrDesc | attrAsc | timeSegments | extended | expr
  deriving DecidableEq, Repr

namespace MatchMode

/-- All modes in the order of their numbers. -/
def every : List MatchMode := [all, any, phrase, boolean, extended, fullscan, extended2]

def number : MatchMode → Nat
  | all => 0
  | any => 1
  | phrase => 2
  | boolean => 3
  | extended => 4
  | fullscan => 5
  | extended2 => 6

def name : MatchMode → String
  | all => "ALL"
  | any => "ANY"
  | phrase => "PHRASE"
  | boolean => "BOOLEAN"
  | extended => "EXTENDED"
  | fullscan => "FULLSCAN"
  | extended2 => "EXTENDED2"

def ofNumber? (n : Int) : Option MatchMode := every.find? fun m => (m.number : Int) == n

def ofName? (s : String) : Option MatchMode := every.find? fun m => m.name == s

theorem mem_every (m : MatchMode) : m ∈ every := by cases m <;> decide

theorem ofNumber?_number (m : MatchMode) : ofNumber? m.number = some m := by cases m <;> rfl

theorem ofName?_name (m : MatchMode) : ofName? m.name = some m := by cases m <;> rfl

end MatchMode

namespace SortMode

def every : List SortMode := [relevance, attrDesc, attrAsc, timeSegments, extended, expr]

def number : SortMode → Nat
  | relevance => 0
  | attrDesc => 1
  | attrAsc => 2
  | timeSegments => 3
  | extended => 4
  | expr => 5

def name : SortMode → String
  | relevance => "RELEVANCE"
  | attrDesc => "ATTR_DESC"
  | attrAsc => "ATTR_ASC"
  | timeSegments => "TIME_SEGMENTS"
  | extended => "EXTENDED"
  | expr => "EXPR"

def ofName? (s : String) : Option SortMode := every.find? fun m => m.name == s

theorem mem_every (m : SortMode) : m ∈ every := by cases m <;> decide

theorem ofName?_name (m : SortMode) : ofName? m.name = some m := by cases m <;> rfl

end SortMode

end Fulltext
