import Fulltext.Value.Basic

namespace Fulltext.Client

inductive Method where
  | setSortMode | setLimits | setFieldWeights | setSelect | setFilter | setMatchMode
  | escapeString | addQuery | runQueries | getLastError
  deriving DecidableEq, Repr

namespace Method

def name : Method → String
  | setSortMode => "SetSortMode"
  | setLimits => "SetLimits"
  | setFieldWeights => "SetFieldWeights"
  | setSelect => "SetSelect"
  | setFilter => "SetFilter"
  | setMatchMode => "SetMatchMode"
  | escapeString => "EscapeString"
  | addQuery => "AddQuery"
  | runQueries => "RunQueries"
  | getLastError => "GetLastError"

end Method

/-- Adding a query takes the index only if there is one. -/
inductive Call where
  | setSortMode (mode : Int) (clause : Value)
  | setLimits (offset limit : Value)
  | setFieldWeights (weights : Entries)
  | setSelect (columns : String)
  | setFilter (attr : Value) (values : List Value)
  | setMatchMode (mode : Int)
  | escapeString (text : Value)
  | addQuery (text : Value) (index? : Option Value)
  | runQueries
  | getLastError
  deriving Repr

namespace Call

def method : Call → Method
  | setSortMode .. => .setSortMode
  | setLimits .. => .setLimits
  | setFieldWeights .. => .setFieldWeights
  | setSelect .. => .setSelect
  | setFilter .. => .setFilter
  | setMatchMode .. => .setMatchMode
  | escapeString .. => .escapeString
  | addQuery .. => .addQuery
  | runQueries => .runQueries
  | getLastError => .getLastError

def args : Call → List Value
  | setSortMode mode clause => [.int mode, clause]
  | setLimits offset limit => [offset, limit]
  | setFieldWeights weights => [.map weights]
  | setSelect columns => [.text columns]
  | setFilter attr values => [attr, .list values]
  | setMatchMode mode => [.int mode]
  | escapeString text => [text]
  | addQuery text index? => text :: index?.toList
  | runQueries => []
  | getLastError => []

end Call

end Fulltext.Client
