import Fulltext.Filter.Group

namespace Fulltext.Filter

def membership (attr : String) (values : List String) : String :=
  "IN(" ++ attr ++ ", " ++ ", ".intercalate values ++ ")"

/-- The tests of a group: one for all values, or one for each. -/
def Group.tests (g : Group) : List String :=
  let values := g.values.map Value.shown
  if g.everyValue then values.map fun v => membership g.attr [v] else [membership g.attr values]

def Group.expression (g : Group) : String :=
  (if g.exclude then "NOT " else "") ++ "(" ++ " AND ".intercalate g.tests ++ ")"

/-- What stands before a group that is not the first. -/
def Group.join (g : Group) : String := if g.alternative then " OR " else " AND "

/-- Groups stand side by side without brackets around them, so joins of both kinds are read by the
precedence of the daemon. -/
def expression : List Group → String
  | [] => ""
  | g :: gs => g.expression ++ String.join (gs.map fun h => h.join ++ h.expression)

end Fulltext.Filter
