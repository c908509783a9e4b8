import Fulltext.Proofs.Client.Translation
import Fulltext.Proofs.Search.Column

namespace Fulltext.Client

variable {σ : Type}

/-- A backend that refuses what a client with the select list `select` refuses, with the same fault,
and gives its escaped texts and its response. -/
structure Mirrors (b : Behaviour) (select : String) (d : Backend σ) : Prop where
  fault : ∀ c w f, Plain c →
    ((d.perform c w).answer = .error f ↔ b.answer (rename select c) = .error f)
  escapes : ∀ text w, (d.perform (.escapeString text) w).answer = b.answer (.escapeString text)
  runs : ∀ w, (d.perform .runQueries w).answer = b.answer .runQueries

/-- Plain calls that the backend refuses as the client does, whose select list the calls before
extend. -/
def Alike (b : Behaviour) (d : Backend σ) : String → List Fulltext.Call → Prop
  | _, [] => True
  | select, c :: cs =>
    (Plain c ∧
      ∀ w f, (d.perform c w).answer = .error f ↔ b.answer (rename select c) = .error f) ∧
    Alike b d (selectAfter select c) cs

/-- The client is refused a call exactly when the backend is, so both stop at the same place. -/
theorem lockstep {b : Behaviour} (tells : b.Tells) {d : Backend σ} {cs : List Fulltext.Call}
    {s : State} (h : Alike b d s.selected cs) (w : σ) :
    (adapter b).made cs s = d.made cs w ∧ (adapter b).fault? cs s = d.fault? cs w ∧
      ((adapter b).worldAfter (d.made cs w) s).calls =
        s.calls ++ translation b s.selected (d.made cs w) := by
  induction cs generalizing s w with
  | nil => exact ⟨rfl, rfl, (List.append_nil _).symm⟩
  | cons c cs ih =>
    obtain ⟨⟨plain, alike⟩, rest⟩ := h
    have step := carries tells plain s
    cases hk : b.answer (rename s.selected c) with
    | error f =>
      have direct : (d.perform c w).answer = .error f := (alike w f).mpr hk
      have client : ((adapter b).perform c s).answer = .error f := by
        rw [step.answer, hk]
        rfl
      simp only [Backend.made, Backend.fault?, direct, client]
      refine ⟨trivial, trivial, ?_⟩
      rw [translation, translation, List.append_nil]
      exact step.calls
    | ok v =>
      have direct : ∃ u, (d.perform c w).answer = .ok u := by
        cases hd : (d.perform c w).answer with
        | ok u => exact ⟨u, rfl⟩
        | error f =>
          rw [(alike w f).mp hd] at hk
          cases hk
      obtain ⟨u, direct⟩ := direct
      have client : ((adapter b).perform c s).answer = .ok (reading c v) := by
        rw [step.answer, hk]
        rfl
      -- The rest is alike with the select list that the client holds after this call.
      rw [← step.selected v hk] at rest
      obtain ⟨made, fault, calls⟩ := ih rest (d.perform c w).world
      simp only [Backend.made, Backend.fault?, direct, client]
      refine ⟨congrArg (c :: ·) made, fault, ?_⟩
      rw [translation, ← step.selected v hk]
      refine calls.trans ?_
      rw [step.calls]
      simp

theorem rename_of_not_column {c : Fulltext.Call} (h : c.isColumn = false) (select select' : String) :
    rename select c = rename select' c := by
  cases c with
  | addComputedColumn => cases h
  | _ => rfl

theorem selectAfter_of_not_column {c : Fulltext.Call} (h : c.isColumn = false) (select : String) :
    selectAfter select c = select := by
  cases c with
  | addComputedColumn => cases h
  | _ => rfl

namespace Mirrors

variable {b : Behaviour} {select : String} {d : Backend σ} {cs : List Fulltext.Call}

theorem alike_of_no_column (h : Mirrors b select d) (plain : ∀ c ∈ cs, Plain c)
    (none : ∀ c ∈ cs, c.isColumn = false) (select' : String) : Alike b d select' cs := by
  induction cs with
  | nil => trivial
  | cons c cs ih =>
    rw [List.forall_mem_cons] at plain none
    rw [Alike, selectAfter_of_not_column none.1, rename_of_not_column none.1 select' select]
    exact ⟨⟨plain.1, fun w f => h.fault c w f plain.1⟩, ih plain.2 none.2⟩

theorem alike (h : Mirrors b select d) (plain : ∀ c ∈ cs, Plain c)
    (one : cs.countP Fulltext.Call.isColumn ≤ 1) : Alike b d select cs := by
  induction cs with
  | nil => trivial
  | cons c cs ih =>
    rw [List.forall_mem_cons] at plain
    refine ⟨⟨plain.1, fun w f => h.fault c w f plain.1⟩, ?_⟩
    cases hc : c.isColumn with
    | true =>
      rw [List.countP_cons_of_pos hc] at one
      have none : cs.countP Fulltext.Call.isColumn = 0 := by omega
      refine h.alike_of_no_column plain.2 (fun c hc => ?_) _
      simpa using List.countP_eq_zero.mp none c hc
    | false =>
      rw [List.countP_cons_of_neg (by simp [hc])] at one
      rw [selectAfter_of_not_column hc]
      exact ih plain.2 one

end Mirrors

open Search

theorem plain_of_mem_schedule {q : Query} (sort : q.sortMode = .null ∨ q.sortMode.IsWhole)
    (mode : q.matchMode = .null ∨ q.matchMode.IsWhole) (text : Value) :
    ∀ c ∈ schedule q text, Plain c := by
  have sent : (sortModeOf q).IsWhole := by
    rw [sortModeOf]
    cases hs : q.sortMode with
    | null => trivial
    | _ => simpa [hs] using sort
  have matched : hasMatchMode q = true → q.matchMode.IsWhole := by
    intro has
    rcases mode with null | whole
    · rw [hasMatchMode, null] at has
      cases has
    · exact whole
  simp only [schedule, opening, settings_eq, ranking, filtering, matching, List.forall_mem_append]
  refine ⟨⟨⟨⟨⟨⟨?sort, ?limits⟩, ?weights⟩, ?filters⟩, ?mode⟩, ?escape⟩, ?run⟩
  case sort => split <;> simp [Plain, sent]
  case limits => split <;> simp [Plain]
  case weights => split <;> simp [Plain]
  case filters => split <;> simp [Plain]
  case mode =>
    split
    · next has => simpa [Plain] using matched has
    · simp
  case escape => simp [Plain]
  case run => simp [Plain]

/-- At most one column is computed for a query. -/
theorem countP_isColumn_schedule (q : Query) (text : Value) :
    (schedule q text).countP Fulltext.Call.isColumn ≤ 1 := by
  have before : (ranking q).countP Fulltext.Call.isColumn = 0 :=
    List.countP_eq_zero.mpr fun c hc => by simp [isColumn_of_mem_ranking q c hc]
  have after : (matching q).countP Fulltext.Call.isColumn = 0 :=
    List.countP_eq_zero.mpr fun c hc => by simp [(filterFree_of_mem_matching q c hc).1]
  have column : (filtering q).countP Fulltext.Call.isColumn ≤ 1 := by
    rw [filtering]
    split
    · exact Nat.zero_le 1
    · exact Nat.le_refl 1
  have escape : [Fulltext.Call.escapeString q.search].countP Fulltext.Call.isColumn = 0 := rfl
  have run : [Fulltext.Call.addQuery text q.index, .runQueries].countP
      Fulltext.Call.isColumn = 0 := rfl
  simp only [schedule, opening, settings_eq, List.countP_append, before, after, escape, run]
  omega

/-- An answer that is handed on as it is does not depend on what was asked before. -/
theorem valueAfter_eq {b : Behaviour} (tells : b.Tells) {d : Backend σ} {c : Fulltext.Call}
    {k : Call} (plain : Plain c) (sent : ∀ select, rename select c = k) (read : reading c = id)
    (direct : ∀ w, (d.perform c w).answer = b.answer k) (cs : List Fulltext.Call) (s : State)
    (w : σ) :
    (adapter b).valueAfter cs c s = d.valueAfter cs c w := by
  have client := (carries tells plain ((adapter b).worldAfter cs s)).answer
  rw [sent, read] at client
  rw [Backend.valueAfter, Backend.valueAfter, Backend.answerAfter, Backend.answerAfter, client,
    direct]
  cases b.answer k <;> rfl

/-- An execution over a client makes, call by call, the translation of what it asks of a backend
that mirrors the client, and both come back with one outcome or fail with one fault. -/
theorem execute_adapter_simulates (q : Query) (fields : List String)
    (hf : q.searchFields = fields.map .text)
    (sort : q.sortMode = .null ∨ q.sortMode.IsWhole)
    (mode : q.matchMode = .null ∨ q.matchMode.IsWhole) (b : Behaviour) (tells : b.Tells)
    (s : State) (d : Backend σ) (w : σ) (mirrors : Mirrors b s.selected d) :
    let client := (execute (.opened (adapter b)) q).runFrom { world := s }
    let direct := (execute (.opened d) q).runFrom { world := w }
    client.2.world.calls = s.calls ++ translation b s.selected direct.2.calls ∧
      client.1 = direct.1 := by
  intro client direct
  -- Equal escaped texts make one schedule for both, and the schedule is followed in lockstep.
  have escapedEq : escaped (adapter b) q s = escaped d q w :=
    valueAfter_eq tells (c := .escapeString q.search) trivial (fun _ => rfl) rfl
      (mirrors.escapes q.search) _ s w
  have responseEq (text : Value) : response (adapter b) q text s = response d q text w :=
    valueAfter_eq tells (c := .runQueries) trivial (fun _ => rfl) rfl mirrors.runs _ s w
  have text : Query.text (escaped d q w) q.searchFields =
      .ok (Query.sentText fields (escaped d q w)) := by
    rw [hf, Query.text_map_text]
  let calls := schedule q (Query.sentText fields (escaped d q w))
  have asked : Session.Follows d (submit d q) { world := w } calls _ := submit_follows text
  have told : Session.Follows (adapter b) (submit (adapter b) q) { world := s } calls _ :=
    submit_follows (escapedEq ▸ text)
  have alike : Alike b d s.selected calls :=
    mirrors.alike (plain_of_mem_schedule sort mode _) (countP_isColumn_schedule q _)
  obtain ⟨made, fault, translated⟩ := lockstep tells alike w
  refine ⟨?_, ?_⟩
  · have world := told.world (submit_accounts (adapter b) q)
    rw [show client.2.world = _ from world, show direct.2.calls = _ from asked.calls, made]
    exact translated
  · cases hf : d.fault? calls w with
    | some f =>
      exact (told.stops f (fault.trans hf)).trans (asked.stops f hf).symm
    | none =>
      have ended := (asked.ends hf).1
      have closed := (told.ends (fault.trans hf)).1
      rw [responseEq] at closed
      exact closed.trans ended.symm

/-- A client without a select list that sets no match mode and answers a run with nothing. -/
theorem execute_adapter_simulates_unanswered_run :
    let q : Query := {
      index := .null, search := .text "war", searchFields := [.text "title"], limit := .int 5,
      offset := .int 0, sortField := .text "year", sortMode := .sortMode .attrAsc,
      fieldWeights := [], filters := [⟨"lang", [.int 1], 0⟩], matchMode := .null }
    let down : Failure := ⟨.ordinary "OSError", "down"⟩
    let b : Behaviour := {
      answer := fun
        | .setMatchMode _ => .error (.failure down)
        | .escapeString text => .ok text
        | .getLastError => .ok (.text "no daemon")
        | _ => .ok .null
      tellsLastError := true }
    let d : Backend Unit := ⟨fun c w => ⟨match c with
      | .setMatchMode _ => .error (.failure down)
      | .escapeString text => .ok text
      | _ => .ok .null, [], w⟩⟩
    let client := (execute (.opened (adapter b)) q).runFrom { world := ⟨none, []⟩ }
    q.searchFields = ["title"].map .text ∧ q.sortMode.IsWhole ∧ q.matchMode = .null ∧
    b.Tells ∧ Mirrors b "*" d ∧
    client.1 = .ok ⟨false, .null⟩ ∧
    client.2.world.calls = [.setSortMode 2 (.text "year"), .setLimits (.int 0) (.int 5),
      .setSelect ("*, " ++ Filter.expression q.filters ++ " AS _filter"),
      .setFilter (.text "_filter") [.int 1], .escapeString (.text "war"),
      .addQuery (.text "@(title) war") none, .runQueries, .getLastError] := by
  intro q down b d client
  have mirrors : Mirrors b "*" d := by
    refine ⟨fun c w f _ => ?_, fun _ _ => rfl, fun _ => rfl⟩
    cases c <;> simp [d, b, rename]
  have tells : b.Tells := fun _ => ⟨_, rfl⟩
  have simulated := execute_adapter_simulates q ["title"] rfl (.inr trivial) (.inl rfl) b tells
    ⟨none, []⟩ d () mirrors
  exact ⟨rfl, trivial, rfl, tells, mirrors, simulated.2.trans rfl, simulated.1.trans rfl⟩

end Fulltext.Client
