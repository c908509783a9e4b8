import Fulltext.Backend.Session
import Fulltext.Filter.Expression
import Fulltext.Query.Text
import Fulltext.Search.Outcome

namespace Fulltext.Search

/-- Name of the computed column that holds the filter expression. -/
def filterColumn : String := "_filter"

/-- What a connector comes back with. -/
inductive Connection (σ : Type) where
  | refused (f : Failure)
  | opened (b : Backend σ)

variable {σ : Type}

open Session

/-- An unset sort mode goes to the daemon as zero. -/
def sortModeOf (q : Query) : Value :=
  match q.sortMode with
  | .null => .int 0
  | mode => mode

/-- The expression becomes a column, and matches with a one in it are kept. -/
def sendFilters (b : Backend σ) (filters : List Filter.Group) : Session σ Unit :=
  if filters.isEmpty then pure ()
  else do
    let expr := Filter.expression filters
    note .debug ("Filter expression: " ++ expr)
    discard (call b (.addComputedColumn (.text expr) (.text filterColumn)))
    discard (call b (.setFilter (.text filterColumn) (.list [.int 1])))

def hasMatchMode (q : Query) : Bool :=
  match q.matchMode with
  | .null => false
  | _ => true

/-- The search text, escaped by the backend and scoped to the search fields. -/
def queryText (b : Backend σ) (q : Query) : Session σ Value := do
  let escaped ← call b (.escapeString q.search)
  liftM (n := Session σ) (Query.text escaped q.searchFields)

def hasResponse : Value → Bool
  | .null => false
  | _ => true

/-- Submit a query on an open connection. The order of the calls is fixed, because the filter column
extends the select list that earlier calls leave. -/
def submit (b : Backend σ) (q : Query) : Session σ Outcome := do
  callIf q.sortField.isSet b (.setSortMode (sortModeOf q) q.sortField)
  callIf q.limit.isSet b (.setLimits q.offset q.limit)
  callIf (!q.fieldWeights.isEmpty) b (.setFieldWeights (.map q.fieldWeights))
  sendFilters b q.filters
  callIf (hasMatchMode q) b (.setMatchMode q.matchMode)
  let text ← queryText b q
  note .debug ("Search query: index=" ++ q.index.shown ++ " query=" ++ text.written)
  discard (call b (.addQuery text q.index))
  let response ← call b .runQueries
  let success := hasResponse response
  note .debug ("Search run finished: success=" ++ (Value.bool success).shown)
  return ⟨success, response⟩

/-- Only a refused connection becomes an outcome; a fault of any later call is the fault of the run. -/
def execute (c : Connection σ) (q : Query) : Session σ Outcome :=
  match c with
  | .refused f =>
    if f.isFatal then throw (.failure f)
    else do
      note .warning ("Search backend unavailable: " ++ f.report)
      return .failed
  | .opened b => submit b q

end Fulltext.Search
