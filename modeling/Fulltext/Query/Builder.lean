import Fulltext.Query.Basic

namespace Fulltext

/-- What the settings so far have left. -/
structure Builder where
  index : Value := .null
  search : Value := .text ""
  searchFields : List Value := []
  limit : Value := .null
  offset : Value := .int 0
  sortField : Value := .null
  sortMode : Value := .null
  fieldWeights : Entries := []
  filters : List Filter.Group := []
  matchMode : Value := .null
  deriving Repr

/-- One setting. -/
inductive Setting where
  | index (name : Value)
  | search (text fields : Value)
  | limit (limit offset : Value)
  | order (attr descending : Value)
  | orderExpr (expr : Value)
  | fieldWeight (name weight : Value)
  | filter (attr values flags : Value)
  | matchMode (mode : Value)
  deriving Repr

namespace Builder

/-- A page from zero on; the limit is looked at first. -/
def checkPage (limit offset : Value) : Except Fault Unit := do
  if ← limit.isNegative then throw (.page .negativeLimit)
  if ← offset.isNegative then throw (.page .negativeOffset)

/-- The builder after a setting, and what was wrong with the setting if anything was. A search text
is taken even when its fields are refused; any other refused setting changes nothing. -/
def set (b : Builder) : Setting → Builder × Except Fault Unit
  | .index name => ({ b with index := name }, .ok ())
  | .search text fields =>
    let b := { b with search := text.orElse (.text "") }
    match fields.items with
    | .ok fs => ({ b with searchFields := fs }, .ok ())
    | .error f => (b, .error f)
  | .limit limit offset =>
    match checkPage limit offset with
    | .ok () => ({ b with limit := limit, offset := offset }, .ok ())
    | .error f => (b, .error f)
  | .order attr descending =>
    let mode := if descending.isSet then SortMode.attrDesc else SortMode.attrAsc
    ({ b with sortField := attr, sortMode := .sortMode mode }, .ok ())
  | .orderExpr expr => ({ b with sortField := expr, sortMode := .sortMode .expr }, .ok ())
  | .fieldWeight name weight =>
    if name.key?.isSome then ({ b with fieldWeights := b.fieldWeights.put name weight }, .ok ())
    else (b, .error (.operand .notHashable))
  | .filter attr values flags =>
    match Filter.Group.of attr values flags with
    | .ok g => ({ b with filters := b.filters ++ [g] }, .ok ())
    | .error f => (b, .error f)
  | .matchMode mode => ({ b with matchMode := mode }, .ok ())

/-- The builder after settings of which some may have been refused. -/
def setAll (b : Builder) (ss : List Setting) : Builder := ss.foldl (fun b s => (b.set s).1) b

/-- The builder after settings, or the fault of the first that is refused. -/
def setEach (b : Builder) : List Setting → Except Fault Builder
  | [] => .ok b
  | s :: ss =>
    match b.set s with
    | (b, .ok ()) => b.setEach ss
    | (_, .error f) => .error f

/-- The query that the settings describe. -/
def build (b : Builder) : Except Fault Query :=
  Query.make {
    index := b.index
    search := b.search
    searchFields := .list b.searchFields
    limit := b.limit
    offset := b.offset
    sortField := b.sortField
    sortMode := b.sortMode
    fieldWeights := .list (b.fieldWeights.map fun e => .list [e.1, e.2])
    filters := b.filters
    matchMode := b.matchMode }

end Builder

/-- Configured defaults of a query. -/
structure Defaults where
  index : Value := .null
  limit : Value := .null
  offset : Value := .int 0
  matchMode : Value := .null
  fieldWeights : Entries := []
  deriving Repr

namespace Defaults

/-- Defaults whose weights are given in any form that lists them. -/
def make (index limit offset matchMode fieldWeights : Value) : Except Fault Defaults := do
  return ⟨index, limit, offset, matchMode, ← fieldWeights.toEntries⟩

/-- The settings that defaults stand for. An offset alone sets nothing. -/
def settings (d : Defaults) : List Setting :=
  (if d.index.isSet then [.index d.index] else []) ++
    (match d.limit with
      | .null => []
      | limit => [.limit limit d.offset]) ++
    d.fieldWeights.map (fun e => .fieldWeight e.1 e.2) ++
    (match d.matchMode with
      | .null => []
      | mode => [.matchMode mode])

end Defaults

def Builder.ofDefaults (d : Defaults) : Except Fault Builder :=
  ({} : Builder).setEach d.settings

end Fulltext
