import Fulltext.Proofs.Client.Frame

namespace Fulltext

namespace Value

/-- Truth values, integers and modes. -/
def IsWhole : Value → Prop
  | bool _ => True
  | int _ => True
  | matchMode _ => True
  | sortMode _ => True
  | _ => False

/-- The number that such a value stands for. -/
def whole : Value → Int
  | bool b => ofBool01 b
  | int n => n
  | matchMode m => m.number
  | sortMode m => m.number
  | _ => 0

theorem toInt_of_isWhole {v : Value} (h : v.IsWhole) : v.toInt = .ok v.whole := by
  cases v with
  | bool b => rfl
  | int n => rfl
  | matchMode m => rfl
  | sortMode m => rfl
  | _ => cases h

end Value

namespace Client

/-- Modes are whole numbers, weights are a mapping, and filter values a list. -/
def Plain : Fulltext.Call → Prop
  | .setSortMode mode _ => mode.IsWhole
  | .setFieldWeights weights => ∃ es, weights = .map es
  | .setFilter _ values => ∃ vs, values = .list vs
  | .setMatchMode mode => mode.IsWhole
  | _ => True

def extended (select : String) (expr label : Value) : String :=
  select ++ ", " ++ expr.shown ++ " AS " ++ label.shown

/-- A plain call as it goes to a client with the select list `select`. -/
def rename (select : String) : Fulltext.Call → Call
  | .setSortMode mode clause => .setSortMode mode.whole clause
  | .setLimits offset limit => .setLimits offset limit
  | .setFieldWeights weights => .setFieldWeights (match weights with | .map es => es | _ => [])
  | .addComputedColumn expr label => .setSelect (extended select expr label)
  | .setFilter attr values => .setFilter attr (match values with | .list vs => vs | _ => [])
  | .setMatchMode mode => .setMatchMode mode.whole
  | .escapeString text => .escapeString text
  | .addQuery text index =>
    .addQuery text (match index with | .null => none | index => some index)
  | .runQueries => .runQueries

/-- After a run that answers nothing, the client is asked what went wrong if it can tell. -/
def lookup (b : Behaviour) : Fulltext.Call → List Call
  | .runQueries =>
    match b.answer .runQueries with
    | .ok .null => if b.tellsLastError then [.getLastError] else []
    | _ => []
  | _ => []

def selectAfter (select : String) : Fulltext.Call → String
  | .addComputedColumn expr label => extended select expr label
  | _ => select

/-- The calls that a client with the select list `select` receives for calls to its adapter. -/
def translation (b : Behaviour) : String → List Fulltext.Call → List Call
  | _, [] => []
  | select, c :: cs => rename select c :: lookup b c ++ translation b (selectAfter select c) cs

/-- What the caller gets of the answer: only an escaped text and a response are handed on. -/
def reading : Fulltext.Call → Value → Value
  | .escapeString _, v => v
  | .runQueries, v => v
  | _, _ => .null

/-- A client that can be asked for its last error tells it. -/
def Behaviour.Tells (b : Behaviour) : Prop :=
  b.tellsLastError = true → ∃ e, b.answer .getLastError = .ok e

/-- The adapter makes one plain call of the client's translation, hands its answer on, and leaves the
select list that the translation goes on with. -/
structure Carries (b : Behaviour) (c : Fulltext.Call) (s : State) : Prop where
  answer : ((adapter b).perform c s).answer = (b.answer (rename s.selected c)).map (reading c)
  calls : ((adapter b).perform c s).world.calls = s.calls ++ rename s.selected c :: lookup b c
  selected : ∀ v, b.answer (rename s.selected c) = .ok v →
    ((adapter b).perform c s).world.selected = selectAfter s.selected c

theorem ask_selected {b : Behaviour} {c : Fulltext.Call} {s : State} {v : Value}
    (h : b.answer (rename s.selected c) = .ok v) :
    (ask b (rename s.selected c) s).2.selected = selectAfter s.selected c := by
  rw [ask_eq, h]
  cases c with
  | addComputedColumn expr label => exact selected_of_text rfl (withColumn_ne_empty s expr label)
  | _ => exact selected_congr rfl

theorem carries_of_tell {b : Behaviour} {c : Fulltext.Call} {s : State}
    (h : (adapter b).perform c s = tell b (.ok (rename s.selected c)) s)
    (unread : reading c = fun _ => .null) (asked : lookup b c = []) : Carries b c s := by
  have told : tell b (.ok (rename s.selected c)) s =
      ⟨(b.answer (rename s.selected c)).map (reading c), [],
        (ask b (rename s.selected c) s).2⟩ := by
    rw [tell, ask_eq, unread]
  rw [told] at h
  refine ⟨by rw [h], by rw [h, asked, ask_eq], fun v hv => ?_⟩
  rw [h]
  exact ask_selected hv

theorem carries_of_ask {b : Behaviour} {c : Fulltext.Call} {s : State}
    (answer : ((adapter b).perform c s).answer = b.answer (rename s.selected c))
    (world : ((adapter b).perform c s).world =
      { s with calls := s.calls ++ rename s.selected c :: lookup b c })
    (read : reading c = id) (kept : selectAfter s.selected c = s.selected) : Carries b c s := by
  refine ⟨?_, by rw [world], fun v _ => ?_⟩
  · rw [answer, read]
    cases b.answer (rename s.selected c) <;> rfl
  · rw [world, kept]
    rfl

theorem run_asks {b : Behaviour} (tells : b.Tells) (s : State) :
    (run b s).answer = b.answer .runQueries ∧
      (run b s).world = { s with calls := s.calls ++ .runQueries :: lookup b .runQueries } := by
  cases ha : b.answer .runQueries with
  | error f => simp [run, lookup, ask_eq, ha]
  | ok v =>
    cases v with
    | null =>
      cases ht : b.tellsLastError with
      | false => simp [run, lookup, ask_eq, ha, ht]
      | true =>
        obtain ⟨e, he⟩ := tells ht
        simp [run, lookup, ask_eq, ha, ht, he]
    | _ => simp [run, lookup, ask_eq, ha]

theorem carries {b : Behaviour} (tells : b.Tells) {c : Fulltext.Call} (plain : Plain c)
    (s : State) : Carries b c s := by
  cases c with
  | setSortMode mode clause =>
    refine carries_of_tell ?_ rfl rfl
    simp only [adapter, Value.toInt_of_isWhole plain]
    rfl
  | setLimits offset limit => exact carries_of_tell rfl rfl rfl
  | setFieldWeights weights =>
    obtain ⟨es, rfl⟩ := plain
    exact carries_of_tell rfl rfl rfl
  | addComputedColumn expr label => exact carries_of_tell rfl rfl rfl
  | setFilter attr values =>
    obtain ⟨vs, rfl⟩ := plain
    exact carries_of_tell rfl rfl rfl
  | setMatchMode mode =>
    refine carries_of_tell ?_ rfl rfl
    simp only [adapter, Value.toInt_of_isWhole plain]
    rfl
  | escapeString text =>
    have asked : ask b (.escapeString text) s = (b.answer (.escapeString text),
        { s with calls := s.calls ++ [.escapeString text] }) := by
      simp [ask_eq]
    exact carries_of_ask (congrArg Prod.fst asked) (congrArg Prod.snd asked) rfl rfl
  | addQuery text index => exact carries_of_tell rfl rfl rfl
  | runQueries =>
    obtain ⟨answer, world⟩ := run_asks tells s
    exact carries_of_ask answer world rfl rfl

end Client

end Fulltext
