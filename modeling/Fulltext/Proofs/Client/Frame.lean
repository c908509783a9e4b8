import Fulltext.Client.Adapter
import Fulltext.Proofs.Backend.InStep

namespace Fulltext

/-- The call that adds a computed column. -/
def Call.isColumn : Call → Bool
  | .addComputedColumn .. => true
  | _ => false

namespace Client

/-- Only a select list that is accepted is kept. -/
theorem ask_eq (b : Behaviour) (k : Call) (s : State) :
    ask b k s = (b.answer k,
      { select? := match b.answer k, k with
          | .ok _, .setSelect columns => some (.text columns)
          | _, _ => s.select?
        calls := s.calls ++ [k] }) := by
  cases h : b.answer k with
  | error f => simp [ask, h]
  | ok v => cases k <;> simp [ask, h]

theorem selected_of_text {s : State} {columns : String} (h : s.select? = some (.text columns))
    (hne : columns ≠ "") : s.selected = columns := by
  have set : (Value.text columns).isSet = true := by simp [Value.isSet, hne]
  rw [State.selected, h, Option.getD_some, Value.orElse_of_isSet set]
  rfl

theorem selected_congr {s s' : State} (h : s'.select? = s.select?) : s'.selected = s.selected := by
  rw [State.selected, State.selected, h]

theorem withColumn_ne_empty (s : State) (expr label : Value) : s.withColumn expr label ≠ "" := by
  intro h
  have empty := congrArg String.toList h
  simp [State.withColumn] at empty

/-- A state with its select list mapped and more calls before its own. -/
def State.moved (f : Option Value → Option Value) (cs : List Call) (s : State) : State :=
  ⟨f s.select?, cs ++ s.calls⟩

theorem ask_moved (b : Behaviour) (f : Option Value → Option Value) (cs : List Call) {k : Call}
    (hk : ∀ columns, k ≠ .setSelect columns) (s : State) :
    ask b k (s.moved f cs) = ((ask b k s).1, (ask b k s).2.moved f cs) := by
  have kept : ∀ s : State, ask b k s = (b.answer k, ⟨s.select?, s.calls ++ [k]⟩) := by
    intro s
    rw [ask_eq]
    cases b.answer k with
    | error f => rfl
    | ok v =>
      cases k with
      | setSelect columns => exact absurd rfl (hk columns)
      | _ => rfl
  -- Both sides are now plain records, so the two lists of calls decide.
  rw [kept, kept]
  simp only [State.moved, List.append_assoc]

theorem tell_moved (b : Behaviour) (f : Option Value → Option Value) (cs : List Call)
    {c : Except Fault Call} (hc : ∀ columns, c ≠ .ok (.setSelect columns)) (s : State) :
    tell b c (s.moved f cs) = { tell b c s with world := (tell b c s).world.moved f cs } := by
  cases c with
  | error f => rfl
  | ok k =>
    have hk : ∀ columns, k ≠ .setSelect columns := fun columns e => hc columns (congrArg _ e)
    simp only [tell, ask_moved b f cs hk]

theorem run_moved (b : Behaviour) (f : Option Value → Option Value) (cs : List Call) (s : State) :
    run b (s.moved f cs) = { run b s with world := (run b s).world.moved f cs } := by
  have runs := ask_moved b f cs (k := .runQueries) (by simp) s
  simp only [run, runs]
  cases hr : ask b .runQueries s with
  | mk r u =>
    have looks := ask_moved b f cs (k := .getLastError) (by simp) u
    cases r with
    | error g => rfl
    | ok v =>
      cases v with
      | null =>
        cases b.tellsLastError with
        | false => rfl
        | true =>
          simp only [looks]
          cases ask b .getLastError u with
          | mk r v => cases r <;> rfl
      | _ => rfl

theorem bind_ne_setSelect {α : Type} (e : Except Fault α) {k : α → Call}
    (hk : ∀ a columns, k a ≠ .setSelect columns) (columns : String) :
    (do return k (← e)) ≠ (Except.ok (.setSelect columns) : Except Fault Call) := by
  cases e with
  | error f =>
    intro h
    cases h
  | ok a =>
    intro h
    exact hk a columns (Except.ok.inj h)

/-- No answer depends on the calls received before, nor on the select list unless a column is
added to it. -/
theorem adapter_commutes (b : Behaviour) (f : Option Value → Option Value) (cs : List Call)
    {c : Fulltext.Call} (hc : c.isColumn = false) : (adapter b).Commutes (State.moved f cs) c := by
  intro s
  cases c with
  | addComputedColumn expr label => cases hc
  | runQueries => exact run_moved b f cs s
  | escapeString text =>
    simp only [adapter, ask_moved b f cs (k := .escapeString text) (by simp)]
  | setLimits offset limit =>
    exact tell_moved b f cs (c := .ok (.setLimits offset limit)) (by simp) s
  | addQuery text index => exact tell_moved b f cs (c := .ok (.addQuery text _)) (by simp) s
  | setSortMode mode clause => exact tell_moved b f cs (bind_ne_setSelect mode.toInt (by simp)) s
  | setFieldWeights weights =>
    exact tell_moved b f cs (bind_ne_setSelect weights.toEntries (by simp)) s
  | setFilter attr values => exact tell_moved b f cs (bind_ne_setSelect values.items (by simp)) s
  | setMatchMode mode => exact tell_moved b f cs (bind_ne_setSelect mode.toInt (by simp)) s

theorem column_perform (b : Behaviour) (expr label : Value) (s : State) :
    (adapter b).perform (.addComputedColumn expr label) s =
      ⟨(b.answer (.setSelect (s.withColumn expr label))).map fun _ => .null, [],
        { select? := match b.answer (.setSelect (s.withColumn expr label)) with
            | .ok _ => some (.text (s.withColumn expr label))
            | .error _ => s.select?
          calls := s.calls ++ [.setSelect (s.withColumn expr label)] }⟩ := by
  simp only [adapter, tell, ask_eq]
  cases b.answer (.setSelect (s.withColumn expr label)) <;> rfl

theorem adapter_commutes_id (b : Behaviour) (cs : List Call) (c : Fulltext.Call) :
    (adapter b).Commutes (State.moved id cs) c := by
  cases hc : c.isColumn with
  | false => exact adapter_commutes b id cs hc
  | true =>
    cases c with
    | addComputedColumn expr label =>
      intro s
      have same : (s.moved id cs).withColumn expr label = s.withColumn expr label := rfl
      rw [column_perform, column_perform, same]
      cases b.answer (.setSelect (s.withColumn expr label)) <;> simp [State.moved]
    | _ => cases hc

/-- Only computed columns change the select list. -/
theorem select?_worldAfter (b : Behaviour) {cs : List Fulltext.Call}
    (hcs : ∀ c ∈ cs, c.isColumn = false) (s : State) :
    ((adapter b).worldAfter cs s).select? = s.select? := by
  -- Writing the select list that is there already changes nothing, before the calls or after them.
  have kept := Backend.worldAfter_of_commutes (w := s)
    fun c hc => adapter_commutes b (fun _ => s.select?) [] (hcs c hc)
  have same : s.moved (fun _ => s.select?) [] = s := rfl
  rw [same] at kept
  rw [kept]
  rfl

/-- What a client receives comes after what it has received. -/
theorem calls_worldAfter (b : Behaviour) (cs : List Fulltext.Call) (s : State) :
    ((adapter b).worldAfter cs s).calls =
      s.calls ++ ((adapter b).worldAfter cs { s with calls := [] }).calls := by
  have moved := Backend.worldAfter_of_commutes (w := { s with calls := [] })
    fun c (_ : c ∈ cs) => adapter_commutes_id b s.calls c
  have same : State.moved id s.calls { s with calls := [] } = s := by
    simp [State.moved]
  rw [same] at moved
  exact congrArg State.calls moved

end Client

end Fulltext
