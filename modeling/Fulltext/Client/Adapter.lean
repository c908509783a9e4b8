import Fulltext.Backend.Session
import Fulltext.Client.Call
import Fulltext.Value.Convert

namespace Fulltext.Client

/-- How a client answers; `tellsLastError` if it can be asked what went wrong. -/
structure Behaviour where
  answer : Call → Except Fault Value
  tellsLastError : Bool

/-- The select list of a client, if it has one, and the calls it has received. -/
structure State where
  select? : Option Value
  calls : List Call := []
  deriving Repr

/-- A received call is kept whether or not it is answered; a select list is stored once it is. -/
def ask (b : Behaviour) (c : Call) (s : State) : Except Fault Value × State :=
  let s := { s with calls := s.calls ++ [c] }
  match b.answer c, c with
  | .ok v, .setSelect columns => (.ok v, { s with select? := some (.text columns) })
  | .ok v, _ => (.ok v, s)
  | .error f, _ => (.error f, s)

/-- The select list to extend; all columns if there is none or an empty one. -/
def State.selected (s : State) : String :=
  ((s.select?.getD (.text "*")).orElse (.text "*")).shown

/-- The select list with a column appended. -/
def State.withColumn (s : State) (expr label : Value) : String :=
  s.selected ++ ", " ++ expr.shown ++ " AS " ++ label.shown

/-- The calls that answer nothing are answered with null. -/
def tell (b : Behaviour) (c : Except Fault Call) (s : State) : Reply State :=
  match c with
  | .error f => ⟨.error f, [], s⟩
  | .ok c =>
    let (r, s) := ask b c s
    ⟨r.map fun _ => .null, [], s⟩

/-- A daemon that answers nothing has failed, and the log says why as far as the client knows. -/
def run (b : Behaviour) (s : State) : Reply State :=
  match ask b .runQueries s with
  | (.ok .null, s) =>
    if b.tellsLastError then
      match ask b .getLastError s with
      | (.ok e, s) => ⟨.ok .null, [⟨.warning, "Search daemon call failed: " ++ e.shown⟩], s⟩
      | (.error f, s) => ⟨.error f, [], s⟩
    else ⟨.ok .null, [⟨.warning, "Search daemon call failed: unknown error"⟩], s⟩
  | (r, s) => ⟨r, [], s⟩

def indexOf : Value → Option Value
  | .null => none
  | index => some index

def adapter (b : Behaviour) : Backend State where
  perform c s :=
    match c with
    | .setSortMode mode clause => tell b (do return .setSortMode (← mode.toInt) clause) s
    | .setLimits offset limit => tell b (.ok (.setLimits offset limit)) s
    | .setFieldWeights weights => tell b (do return .setFieldWeights (← weights.toEntries)) s
    | .addComputedColumn expr label => tell b (.ok (.setSelect (s.withColumn expr label))) s
    | .setFilter attr values => tell b (do return .setFilter attr (← values.items)) s
    | .setMatchMode mode => tell b (do return .setMatchMode (← mode.toInt)) s
    | .escapeString text =>
      let (r, s) := ask b (.escapeString text) s
      ⟨r, [], s⟩
    | .addQuery text index => tell b (.ok (.addQuery text (indexOf index))) s
    | .runQueries => run b s

end Fulltext.Client
