import Fulltext.Value.Basic

namespace Fulltext

/-- What can be asked of a configured connection to the search daemon. -/
inductive Call where
  | setSortMode (mode clause : Value)
  | setLimits (offset limit : Value)
  | setFieldWeights (weights : Value)
  | addComputedColumn (expr label : Value)
  | setFilter (attr values : Value)
  | setMatchMode (mode : Value)
  | escapeString (text : Value)
  | addQuery (text index : Value)
  | runQueries
  deriving Repr

/-- A call without its arguments. -/
inductive Method where
  | setSortMode | setLimits | setFieldWeights | addComputedColumn | setFilter | setMatchMode
  | escapeString | addQuery | runQueries
  deriving DecidableEq, Repr

namespace Method

def every : List Method :=
  [setSortMode, setLimits, setFieldWeights, addComputedColumn, setFilter, setMatchMode,
    escapeString, addQuery, runQueries]

def name : Method → String
  | setSortMode => "set_sort_mode"
  | setLimits => "set_limits"
  | setFieldWeights => "set_field_weights"
  | addComputedColumn => "add_computed_column"
  | setFilter => "set_filter"
  | setMatchMode => "set_match_mode"
  | escapeString => "escape_string"
  | addQuery => "add_query"
  | runQueries => "run_queries"

def ofName? (s : String) : Option Method := every.find? fun m => m.name == s

theorem mem_every (m : Method) : m ∈ every := by cases m <;> decide

theorem ofName?_name (m : Method) : ofName? m.name = some m := by cases m <;> rfl

end Method

namespace Call

def method : Call → Method
  | setSortMode .. => .setSortMode
  | setLimits .. => .setLimits
  | setFieldWeights .. => .setFieldWeights
  | addComputedColumn .. => .addComputedColumn
  | setFilter .. => .setFilter
  | setMatchMode .. => .setMatchMode
  | escapeString .. => .escapeString
  | addQuery .. => .addQuery
  | runQueries => .runQueries

def args : Call → List Value
  | setSortMode mode clause => [mode, clause]
  | setLimits offset limit => [offset, limit]
  | setFieldWeights weights => [weights]
  | addComputedColumn expr label => [expr, label]
  | setFilter attr values => [attr, values]
  | setMatchMode mode => [mode]
  | escapeString text => [text]
  | addQuery text index => [text, index]
  | runQueries => []

/-- The call of a method, if the number of arguments suits it. -/
def ofArgs? : Method → List Value → Option Call
  | .setSortMode, [mode, clause] => some (.setSortMode mode clause)
  | .setLimits, [offset, limit] => some (.setLimits offset limit)
  | .setFieldWeights, [weights] => some (.setFieldWeights weights)
  | .addComputedColumn, [expr, label] => some (.addComputedColumn expr label)
  | .setFilter, [attr, values] => some (.setFilter attr values)
  | .setMatchMode, [mode] => some (.setMatchMode mode)
  | .escapeString, [text] => some (.escapeString text)
  | .addQuery, [text, index] => some (.addQuery text index)
  | .runQueries, [] => some .runQueries
  | _, _ => none

theorem ofArgs?_args (c : Call) : ofArgs? c.method c.args = some c := by cases c <;> rfl

end Call

end Fulltext
