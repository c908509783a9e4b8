import Fulltext.Proofs.Search.Attempt
import Fulltext.Proofs.Search.Column

namespace Fulltext.Search

open Client

/-- Every attempt asks the same client, which may answer each one in its own way. -/
def shared (q : Query) (bs : Nat → Behaviour) : Plan State :=
  ⟨q, fun i s => (.opened (adapter (bs i)), s)⟩

/-- The filter column as it is appended to a select list. -/
def columnText (q : Query) : String :=
  ", " ++ Filter.expression q.filters ++ " AS " ++ filterColumn

/-- A select list with the filter column appended a number of times. -/
def withColumns (q : Query) (select : String) : Nat → String
  | 0 => select
  | n + 1 => withColumns q select n ++ columnText q

def addColumn (q : Query) : Call :=
  .addComputedColumn (.text (Filter.expression q.filters)) (.text filterColumn)

def keepMatches : Call := .setFilter (.text filterColumn) (.list [.int 1])

/-- The calls of an attempt that finds the client in the state `s`: it fails before the filter
column, asks for none, is refused the column, or goes on after it. -/
inductive Attempted (b : Behaviour) (q : Query) (s : State) : List Call → Prop
  | early {f : Fault} (fault : (adapter b).fault? (ranking q) s = some f) :
      Attempted b q s ((adapter b).made (ranking q) s)
  | unfiltered {rest : List Call} (ranked : (adapter b).fault? (ranking q) s = none)
      (filters : q.filters = []) (plain : ∀ c ∈ rest, FilterFree c) :
      Attempted b q s (ranking q ++ rest)
  | refused {f : Fault} (ranked : (adapter b).fault? (ranking q) s = none)
      (filters : q.filters ≠ [])
      (answer : b.answer (.setSelect (s.selected ++ columnText q)) = .error f) :
      Attempted b q s (ranking q ++ [addColumn q])
  | extended {v : Value} {rest : List Call} (ranked : (adapter b).fault? (ranking q) s = none)
      (filters : q.filters ≠ [])
      (answer : b.answer (.setSelect (s.selected ++ columnText q)) = .ok v)
      (plain : ∀ c ∈ rest, FilterFree c) :
      Attempted b q s (ranking q ++ addColumn q :: keepMatches :: rest)

theorem withColumn_eq (q : Query) (s : State) :
    s.withColumn (.text (Filter.expression q.filters)) (.text filterColumn) =
      s.selected ++ columnText q := by
  simp only [State.withColumn, columnText, Value.shown, String.append_assoc]

theorem filtering_of_filters {q : Query} (h : q.filters ≠ []) :
    filtering q = [addColumn q, keepMatches] := by
  have filled : ¬q.filters.isEmpty = true := fun e => h (List.isEmpty_iff.mp e)
  rw [filtering, if_neg filled]
  rfl

theorem selected_ranked (b : Behaviour) (q : Query) (s : State) :
    ((adapter b).worldAfter (ranking q) s).selected = s.selected :=
  selected_congr (select?_worldAfter b (isColumn_of_mem_ranking q) s)

theorem addColumn_perform (b : Behaviour) (q : Query) (s : State) :
    (adapter b).perform (addColumn q) s =
      ⟨(b.answer (.setSelect (s.selected ++ columnText q))).map fun _ => .null, [],
        { select? := match b.answer (.setSelect (s.selected ++ columnText q)) with
            | .ok _ => some (.text (s.selected ++ columnText q))
            | .error _ => s.select?
          calls := s.calls ++ [.setSelect (s.selected ++ columnText q)] }⟩ := by
  have column := column_perform b (.text (Filter.expression q.filters)) (.text filterColumn) s
  rw [withColumn_eq] at column
  exact column

theorem worldAfter_addColumn (b : Behaviour) (q : Query) (s : State) (cs : List Call) :
    (adapter b).worldAfter (ranking q ++ addColumn q :: cs) s =
      (adapter b).worldAfter cs
        { select? := match b.answer (.setSelect (s.selected ++ columnText q)) with
            | .ok _ => some (.text (s.selected ++ columnText q))
            | .error _ => s.select?
          calls := ((adapter b).worldAfter (ranking q) s).calls ++
            [.setSelect (s.selected ++ columnText q)] } := by
  have kept := select?_worldAfter b (isColumn_of_mem_ranking q) s
  rw [Backend.worldAfter_append]
  have column := addColumn_perform b q ((adapter b).worldAfter (ranking q) s)
  rw [selected_congr kept, kept] at column
  exact congrArg ((adapter b).worldAfter cs) (congrArg Reply.world column)

theorem select?_of_filterFree (b : Behaviour) {cs : List Call}
    (plain : ∀ c ∈ cs, FilterFree c) (s : State) :
    cs.countP setsFilter = 0 ∧ ((adapter b).worldAfter cs s).select? = s.select? := by
  refine ⟨List.countP_eq_zero.mpr fun c hc => ?_, ?_⟩
  · simp [(plain c hc).2]
  · exact select?_worldAfter b (fun c hc => (plain c hc).1) s

theorem submit_attempted (b : Behaviour) (q : Query) (t : Trace State) :
    ∃ cs, Attempted b q t.world cs ∧
      let r := (submit (adapter b) q).runFrom t
      r.2.calls = t.calls ++ cs ∧ r.2.world = (adapter b).worldAfter cs t.world := by
  obtain ⟨rest, plain, calls, world⟩ := submit_made (adapter b) q t
  refine ⟨_, ?_, calls, world⟩
  have answered (w : State) : ∀ c ∈ (adapter b).made rest w, FilterFree c :=
    fun c hc => plain c (Backend.mem_of_mem_made hc)
  cases ranked : (adapter b).fault? (ranking q) t.world with
  | some f =>
    rw [Backend.made_append_of_fault ranked]
    exact .early ranked
  | none =>
    rw [Backend.made_append_of_answered ranked]
    by_cases filters : q.filters = []
    · rw [filtering, filters]
      exact .unfiltered ranked filters (answered _)
    · rw [filtering_of_filters filters, List.cons_append, List.singleton_append, Backend.made,
        addColumn_perform, selected_ranked]
      cases answer : b.answer (.setSelect (t.world.selected ++ columnText q)) with
      | error f => exact .refused ranked filters answer
      | ok v =>
        simp only [Except.map, Backend.made]
        split
        · exact .extended ranked filters answer (answered _)
        · exact .extended ranked filters answer (by simp)

theorem selected_extended {b : Behaviour} {q : Query} {s : State} {v : Value} {rest : List Call}
    (answer : b.answer (.setSelect (s.selected ++ columnText q)) = .ok v)
    (plain : ∀ c ∈ rest, FilterFree c) :
    ((adapter b).worldAfter (ranking q ++ addColumn q :: keepMatches :: rest) s).selected =
      s.selected ++ columnText q := by
  have nonempty : s.selected ++ columnText q ≠ "" := by
    rw [← withColumn_eq]
    exact withColumn_ne_empty s _ _
  rw [worldAfter_addColumn, answer]
  refine selected_of_text ?_ nonempty
  exact select?_worldAfter b (List.forall_mem_cons.mpr ⟨rfl, fun c hc => (plain c hc).1⟩) _

namespace Attempted

variable {b : Behaviour} {q : Query} {s : State} {cs : List Call}

/-- An attempt extends the select list once if it sets a filter, and else leaves it. -/
theorem select (h : Attempted b q s cs) :
    let s' := (adapter b).worldAfter cs s
    (cs.countP setsFilter = 0 ∧ s'.select? = s.select?) ∨
      (cs.countP setsFilter = 1 ∧ q.filters ≠ [] ∧ s'.selected = s.selected ++ columnText q) := by
  have ranks : (ranking q).countP setsFilter = 0 :=
    (select?_of_filterFree b (filterFree_of_mem_ranking q) s).1
  cases h with
  | early fault =>
    refine .inl (select?_of_filterFree b (fun c hc => ?_) s)
    exact filterFree_of_mem_ranking q c (Backend.mem_of_mem_made hc)
  | unfiltered ranked filters plain =>
    have all := List.forall_mem_append.mpr ⟨filterFree_of_mem_ranking q, plain⟩
    exact .inl (select?_of_filterFree b all s)
  | refused ranked filters answer =>
    refine .inl ⟨?_, ?_⟩
    · rw [List.countP_append, ranks]
      rfl
    · rw [worldAfter_addColumn, answer]
      rfl
  | extended ranked filters answer plain =>
    have column : ¬setsFilter (addColumn q) = true := by simp [addColumn, setsFilter, Call.method]
    refine .inr ⟨?_, filters, selected_extended answer plain⟩
    rw [List.countP_append, ranks, List.countP_cons_of_neg column, List.countP_cons_of_pos rfl,
      (select?_of_filterFree b plain s).1]

/-- A filtered query is queued only with its column in the select list. -/
theorem queued (h : Attempted b q s cs) (filters : q.filters ≠ []) {c : Call} (hc : c ∈ cs)
    (adds : c.method = .addQuery) :
    ((adapter b).worldAfter cs s).selected = s.selected ++ columnText q := by
  cases h with
  | early fault =>
    have ranks : c ∈ ranking q := Backend.mem_of_mem_made hc
    exact absurd adds (method_of_mem_ranking q c ranks)
  | unfiltered _ none => exact absurd none filters
  | refused =>
    rcases List.mem_append.mp hc with ranks | column
    · exact absurd adds (method_of_mem_ranking q c ranks)
    · rw [List.mem_singleton.mp column] at adds
      cases adds
  | extended _ _ answer plain => exact selected_extended answer plain

theorem sends (h : Attempted b q s cs) (ranked : (adapter b).fault? (ranking q) s = none)
    (filters : q.filters ≠ []) :
    ∃ later, ((adapter b).worldAfter cs s).calls = ((adapter b).worldAfter (ranking q) s).calls ++
      .setSelect (s.selected ++ columnText q) :: later := by
  have sent (rest : List Call) : ∃ later,
      ((adapter b).worldAfter (ranking q ++ addColumn q :: rest) s).calls =
        ((adapter b).worldAfter (ranking q) s).calls ++
          .setSelect (s.selected ++ columnText q) :: later := by
    rw [worldAfter_addColumn, calls_worldAfter]
    exact ⟨_, by rw [List.append_assoc, List.singleton_append]⟩
  cases h with
  | early fault =>
    rw [fault] at ranked
    cases ranked
  | unfiltered _ none => exact absurd none filters
  | refused => exact sent []
  | extended => exact sent _

theorem of_fault (h : Attempted b q s cs) {f : Fault}
    (fault : (adapter b).fault? (ranking q) s = some f) : cs = (adapter b).made (ranking q) s := by
  cases h with
  | early => rfl
  | unfiltered ranked => exact absurd (fault.symm.trans ranked) (by simp)
  | refused ranked => exact absurd (fault.symm.trans ranked) (by simp)
  | extended ranked => exact absurd (fault.symm.trans ranked) (by simp)

end Attempted

/-- The select list before an attempt has one filter column for each filter set so far. -/
theorem selected_traceBefore (q : Query) (bs : Nat → Behaviour) (s : State) (i : Nat) :
    let t := traceBefore (shared q bs) s i
    let n := t.calls.countP setsFilter
    t.world.selected = withColumns q s.selected n ∧ (n = 0 → t.world.select? = s.select?) ∧
      (n ≠ 0 → q.filters ≠ []) := by
  induction i with
  | zero => exact ⟨rfl, fun _ => rfl, fun h => absurd rfl h⟩
  | succ i ih =>
    intro t n
    obtain ⟨selected, first, filters⟩ := ih
    obtain ⟨cs, attempted, calls, world⟩ :=
      submit_attempted (bs i) q (traceBefore (shared q bs) s i)
    have counted : n = (traceBefore (shared q bs) s i).calls.countP setsFilter +
        cs.countP setsFilter := by
      rw [← List.countP_append, ← calls]
      rfl
    have after : t.world = (adapter (bs i)).worldAfter cs (traceBefore (shared q bs) s i).world :=
      world
    rw [counted, after]
    -- An attempt counts in both: it sets the filter once it has its column in the select list.
    rcases attempted.select with ⟨none, select⟩ | ⟨one, filtered, extended⟩
    · rw [none, Nat.add_zero, selected_congr select, select]
      exact ⟨selected, first, filters⟩
    · rw [one, extended, selected]
      exact ⟨rfl, fun h => absurd h (Nat.succ_ne_zero _), fun _ => filtered⟩

theorem length_withColumns (q : Query) (select : String) (n : Nat) :
    (withColumns q select n).length = select.length + n * (columnText q).length := by
  induction n with
  | zero => simp [withColumns]
  | succ n ih =>
    rw [withColumns, String.length_append, ih, Nat.succ_mul]
    omega

theorem withColumns_ne (q : Query) (select : String) {n : Nat} (h : n ≠ 0) :
    withColumns q select n ≠ select := by
  intro e
  have lengths := length_withColumns q select n
  have some : 0 < (columnText q).length := by
    have comma : ", ".length = 2 := rfl
    simp only [columnText, String.length_append]
    omega
  have extra : 0 < n * (columnText q).length := Nat.mul_pos (Nat.pos_of_ne_zero h) some
  rw [e] at lengths
  omega

/-- An execution on a client that has received nothing. -/
def onFresh (b : Behaviour) (q : Query) (select? : Option Value) :
    Except Fault Outcome × Trace State :=
  (execute (.opened (adapter b)) q).runFrom { world := ⟨select?, []⟩ }

/-- Calls that add no column are answered, and received, alike by every client. -/
theorem select_unread (b : Behaviour) {cs : List Call} (hcs : ∀ c ∈ cs, c.isColumn = false)
    (s : State) :
    (adapter b).made cs s = (adapter b).made cs ⟨none, []⟩ ∧
      (adapter b).fault? cs s = (adapter b).fault? cs ⟨none, []⟩ ∧
      ((adapter b).worldAfter cs s).calls =
        s.calls ++ ((adapter b).worldAfter cs ⟨none, []⟩).calls := by
  have same : State.moved (fun _ => s.select?) s.calls ⟨none, []⟩ = s := by
    simp only [State.moved, List.append_nil]
  have commutes (c : Call) (hc : c ∈ cs) :=
    adapter_commutes b (fun _ => s.select?) s.calls (hcs c hc)
  have made := Backend.made_of_commutes commutes ⟨none, []⟩
  have fault := Backend.fault?_of_commutes commutes ⟨none, []⟩
  have after := Backend.worldAfter_of_commutes commutes ⟨none, []⟩
  rw [same] at made fault after
  exact ⟨made, fault, congrArg State.calls after⟩

theorem onFresh_attempted (b : Behaviour) (q : Query) (select? : Option Value) :
    ∃ cs, Attempted b q ⟨select?, []⟩ cs ∧
      (onFresh b q select?).2.world = (adapter b).worldAfter cs ⟨select?, []⟩ := by
  obtain ⟨cs, attempted, -, world⟩ := submit_attempted b q { world := ⟨select?, []⟩ }
  exact ⟨cs, attempted, world⟩

theorem onFresh_of_fault {b : Behaviour} {q : Query} {f : Fault} {s : State}
    (h : (adapter b).fault? (ranking q) s = some f) (select? : Option Value) :
    (onFresh b q select?).2.world.calls =
      ((adapter b).worldAfter ((adapter b).made (ranking q) ⟨none, []⟩) ⟨none, []⟩).calls := by
  have ranks := isColumn_of_mem_ranking q
  obtain ⟨cs, attempted, world⟩ := onFresh_attempted b q select?
  rw [(select_unread b ranks s).2.1, ← (select_unread b ranks ⟨select?, []⟩).2.1] at h
  rw [world, attempted.of_fault h, (select_unread b ranks _).1]
  have made (c : Call) (hc : c ∈ (adapter b).made (ranking q) ⟨none, []⟩) : c.isColumn = false :=
    ranks c (Backend.mem_of_mem_made hc)
  rw [(select_unread b made _).2.2]
  rfl

/-- Fresh clients with different select lists receive different calls if an attempt comes to the
filter column. -/
theorem selected_of_onFresh {b : Behaviour} {q : Query} {s : State}
    (ranked : (adapter b).fault? (ranking q) s = none) (filters : q.filters ≠ [])
    {select? select?' : Option Value}
    (h : (onFresh b q select?).2.world.calls = (onFresh b q select?').2.world.calls) :
    (State.mk select? []).selected = (State.mk select?' []).selected := by
  have ranks := isColumn_of_mem_ranking q
  have fresh (select? : Option Value) : ∃ later, (onFresh b q select?).2.world.calls =
      ((adapter b).worldAfter (ranking q) ⟨none, []⟩).calls ++
        .setSelect ((State.mk select? []).selected ++ columnText q) :: later := by
    obtain ⟨cs, attempted, world⟩ := onFresh_attempted b q select?
    rw [(select_unread b ranks s).2.1, ← (select_unread b ranks ⟨select?, []⟩).2.1] at ranked
    obtain ⟨later, sent⟩ := attempted.sends ranked filters
    rw [(select_unread b ranks ⟨select?, []⟩).2.2] at sent
    exact ⟨later, (congrArg State.calls world).trans sent⟩
  obtain ⟨later, sent⟩ := fresh select?
  obtain ⟨later', sent'⟩ := fresh select?'
  rw [sent, sent', List.append_cancel_left_eq, List.cons.injEq, Client.Call.setSelect.injEq] at h
  exact (String.append_left_inj _).mp h.1

/-- The calls of an attempt are those that it would make on a fresh client with the select list that
it finds: the first one, with a filter column for each earlier attempt that set the filter, and its
own one comes on top before a query is queued. They are those that it would make on the first client
exactly if there is no earlier column or the attempt fails before it comes to its own. -/
theorem retry_repeats_calls_iff (q : Query) (bs : Nat → Behaviour) (s : State) (i : Nat) :
    let t := traceBefore (shared q bs) s i
    let r := attempt (shared q bs) s i
    let n := t.calls.countP setsFilter
    ∃ asked sent, r.2.calls = t.calls ++ asked ∧ r.2.world.calls = t.world.calls ++ sent ∧
      sent = (onFresh (bs i) q t.world.select?).2.world.calls ∧
      r.1 = (onFresh (bs i) q t.world.select?).1 ∧
      t.world.selected = withColumns q s.selected n ∧
      (q.filters ≠ [] → (∃ c ∈ asked, c.method = .addQuery) →
        r.2.world.selected = withColumns q s.selected (n + 1)) ∧
      (sent = (onFresh (bs i) q s.select?).2.world.calls ↔
        n = 0 ∨ ∃ f, (adapter (bs i)).fault? (ranking q) s = some f) := by
  intro t r n
  obtain ⟨selected, first, filters⟩ := selected_traceBefore q bs s i
  obtain ⟨asked, attempted, calls, after⟩ := submit_attempted (bs i) q t
  have behind : t.world = State.moved id t.world.calls ⟨t.world.select?, []⟩ := by
    simp only [State.moved, List.append_nil, id]
  -- What the client received before comes first and is not looked at, so a fresh one does as well.
  obtain ⟨result, world⟩ := submit_of_commutes (adapter_commutes_id (bs i) t.world.calls) q
    (t := { world := ⟨t.world.select?, []⟩ }) behind
  refine ⟨asked, _, calls, congrArg State.calls world, rfl, result, selected, ?_, ?_, ?_⟩
  · rintro filtered ⟨c, hc, adds⟩
    have extended : r.2.world.selected = t.world.selected ++ columnText q :=
      (congrArg State.selected after).trans (attempted.queued filtered hc adds)
    rw [extended, selected]
    rfl
  · intro same
    cases ranked : (adapter (bs i)).fault? (ranking q) s with
    | some f => exact .inr ⟨f, rfl⟩
    | none =>
      -- Columns of earlier attempts would show in the select list that this one sends.
      refine .inl (Classical.byContradiction fun some => ?_)
      have unchanged : t.world.selected = s.selected :=
        selected_of_onFresh ranked (filters some) same
      exact withColumns_ne q s.selected some (selected.symm.trans unchanged)
  · rintro (none | ⟨f, fault⟩)
    · rw [show t.world.select? = s.select? from first none]
      rfl
    · exact (onFresh_of_fault fault _).trans (onFresh_of_fault fault _).symm

/-- The client refuses the filter of the first attempt, and the second one adds its column again. -/
theorem retry_after_refused_filter_adds_column_again :
    let q : Query := {
      index := .null, search := .text "", searchFields := [], limit := .null, offset := .int 0,
      sortField := .null, sortMode := .null, fieldWeights := [],
      filters := [⟨"a", [.int 1, .int 2], 0⟩], matchMode := .null }
    let boom : Failure := ⟨.ordinary "OSError", "boom"⟩
    let bs : Nat → Behaviour := fun i => {
      answer := fun
        | .setFilter _ _ => if i = 0 then .error (.failure boom) else .ok .null
        | .escapeString text => .ok text
        | .runQueries => .ok (.list [.map []])
        | _ => .ok .null
      tellsLastError := false }
    let s : State := ⟨some (.text "*"), []⟩
    let later : List Client.Call := [.setFilter (.text "_filter") [.int 1],
      .escapeString (.text ""), .addQuery (.text "") none, .runQueries]
    let before := (traceBefore (shared q bs) s 1).world.calls
    Fails (shared q bs) s 0 ∧
    (onFresh (bs 1) q s.select?).2.world.calls =
      .setSelect "*, (IN(a, 1, 2)) AS _filter" :: later ∧
    (attempt (shared q bs) s 1).2.world.calls = before ++
      .setSelect "*, (IN(a, 1, 2)) AS _filter, (IN(a, 1, 2)) AS _filter" :: later ∧
    (attempt (shared q bs) s 1).2.world.calls ≠
      before ++ (onFresh (bs 1) q s.select?).2.world.calls := by
  intro q boom bs s later before
  have fresh : (onFresh (bs 1) q s.select?).2.world.calls =
      .setSelect "*, (IN(a, 1, 2)) AS _filter" :: later := rfl
  have again : (attempt (shared q bs) s 1).2.world.calls = before ++
      .setSelect "*, (IN(a, 1, 2)) AS _filter, (IN(a, 1, 2)) AS _filter" :: later := rfl
  refine ⟨⟨_, rfl⟩, fresh, again, fun same => ?_⟩
  rw [again, fresh, List.append_cancel_left_eq, List.cons.injEq, Client.Call.setSelect.injEq] at same
  exact absurd same.1 (by decide)

end Fulltext.Search
