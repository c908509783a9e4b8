import Fulltext.Filter.Group

namespace Fulltext

/-- A limit, a match mode or any other part that was never set is null; zero is a value. -/
structure Query where
  index : Value
  search : Value
  searchFields : List Value
  limit : Value
  offset : Value
  sortField : Value
  sortMode : Value
  fieldWeights : Entries
  filters : List Filter.Group
  matchMode : Value
  deriving Repr

namespace Query

/-- Parts of a query as a caller gives them. -/
structure Parts where
  index : Value := .null
  search : Value := .text ""
  searchFields : Value := .list []
  limit : Value := .null
  offset : Value := .int 0
  sortField : Value := .null
  sortMode : Value := .null
  fieldWeights : Value := .list []
  filters : List Filter.Group := []
  matchMode : Value := .null

/-- Weights are listed once per name, and the search fields one by one. -/
def make (p : Parts) : Except Fault Query := do
  let fieldWeights ← p.fieldWeights.toEntries
  let searchFields ← p.searchFields.items
  return {
    index := p.index
    search := p.search
    searchFields := searchFields
    limit := p.limit
    offset := p.offset
    sortField := p.sortField
    sortMode := p.sortMode
    fieldWeights := fieldWeights
    filters := p.filters
    matchMode := p.matchMode }

def samePairs : Entries → Entries → Bool
  | [], [] => true
  | (k, v) :: es, (l, w) :: fs => k.same l && v.same w && samePairs es fs
  | _, _ => false

/-- Equality part by part; the order of weights and of filters counts. -/
def same (q r : Query) : Bool :=
  q.index.same r.index && q.search.same r.search &&
    Value.sameItems q.searchFields r.searchFields && q.limit.same r.limit &&
    q.offset.same r.offset && q.sortField.same r.sortField && q.sortMode.same r.sortMode &&
    samePairs q.fieldWeights r.fieldWeights && Filter.sameGroups q.filters r.filters &&
    q.matchMode.same r.matchMode

end Query

end Fulltext
