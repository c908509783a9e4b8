import Fulltext.Proofs.Client.Frame
import Fulltext.Proofs.Search.FirstResult

namespace Fulltext

namespace Log

def Warned (records : List Record) : Prop := ∃ r ∈ records, r.level = .warning

theorem warned_iff {records : List Record} : Warned records ↔ warnings records ≠ [] := by
  simp [Warned, warnings, List.filter_eq_nil_iff]

theorem warned_congr {rs ss : List Record} (h : warnings rs = warnings ss) :
    Warned rs ↔ Warned ss := by
  rw [warned_iff, warned_iff, h]

theorem not_warned_nil : ¬Warned [] := by simp [Warned]

theorem warned_append {rs ss : List Record} : Warned (rs ++ ss) ↔ Warned rs ∨ Warned ss := by
  simp only [Warned, List.mem_append, or_and_right, exists_or]

end Log

namespace Backend

variable {σ : Type}

def Silent (b : Backend σ) : Prop := ∀ c w, ¬Log.Warned (b.perform c w).log

/-- The backend warns of a run that it answers with nothing, and of nothing else. -/
structure WarnsOfNoAnswer (b : Backend σ) : Prop where
  run : ∀ w v, (b.perform .runQueries w).answer = .ok v →
    (Log.Warned (b.perform .runQueries w).log ↔ v = .null)
  others : ∀ c, c.method ≠ .runQueries → ∀ w, ¬Log.Warned (b.perform c w).log

theorem not_warned_logged {b : Backend σ} {cs : List Call}
    (h : ∀ c ∈ cs, ∀ w, ¬Log.Warned (b.perform c w).log) (w : σ) : ¬Log.Warned (b.logged cs w) := by
  induction cs generalizing w with
  | nil => exact Log.not_warned_nil
  | cons c cs ih =>
    rw [logged, Log.warned_append, not_or]
    exact ⟨h c List.mem_cons_self w, ih (fun c hc => h c (List.mem_cons_of_mem _ hc)) _⟩

end Backend

namespace Client

theorem tell_log (b : Behaviour) (c : Except Fault Call) (s : State) : (tell b c s).log = [] := by
  cases c <;> rfl

/-- Whether or not a client can tell what went wrong, its adapter warns of a run without an answer. -/
theorem adapter_warnsOfNoAnswer (b : Behaviour) : (adapter b).WarnsOfNoAnswer where
  run := by
    intro w v answered
    change (run b w).answer = .ok v at answered
    change Log.Warned (run b w).log ↔ v = .null
    simp only [run, ask_eq] at answered ⊢
    cases hr : b.answer .runQueries with
    | error f =>
      rw [hr] at answered
      cases answered
    | ok r =>
      rw [hr] at answered
      cases r with
      | null =>
        -- The client is asked what went wrong only if it can tell.
        cases ht : b.tellsLastError with
        | false =>
          simp [ht] at answered
          simp [Log.Warned, ← answered]
        | true =>
          cases he : b.answer .getLastError with
          | error f => simp [ht, he] at answered
          | ok e =>
            simp [ht, he] at answered
            simp [Log.Warned, ← answered]
      | _ =>
        obtain rfl := Except.ok.inj answered
        simp [Log.Warned]
  others := by
    intro c hc w
    cases c with
    | runQueries => exact absurd rfl hc
    | escapeString text => exact Log.not_warned_nil
    | _ =>
      simp only [adapter, tell_log]
      exact Log.not_warned_nil

end Client

namespace Outcome

/-- There is no response, or its first result set reports a status other than zero. -/
def Failed (o : Outcome) : Prop :=
  o.response = .null ∨ ∃ m, Shows o.response (some m) ∧ ¬Succeeded m

/-- The records warn of a failed outcome, and not of one with error code zero. -/
def Announced (o : Outcome) (records : List Log.Record) : Prop :=
  (o.Failed → Log.Warned records) ∧ (o.errorCode = .ok 0 → ¬Log.Warned records)

theorem errorCode_of_null {o : Outcome} (h : o.response = .null) : o.errorCode = .ok 1 := by
  have shows : Shows o.response none := h ▸ .nothing
  exact (answers_of_error (isError_of_nothing shows)).1

theorem announced_of_silence {o : Outcome} {records : List Log.Record}
    (silence : ¬Log.Warned records) : o.Announced records ↔ ¬o.Failed := by
  constructor
  · intro announced failed
    exact silence (announced.1 failed)
  · intro fine
    exact ⟨fun failed => absurd failed fine, fun _ => silence⟩

theorem announced_of_no_answer {o : Outcome} {records : List Log.Record}
    (warned : Log.Warned records ↔ o.response = .null) :
    o.Announced records ↔ (o.Failed → o.response = .null) := by
  constructor
  · intro announced failed
    exact warned.mp (announced.1 failed)
  · intro unanswered
    refine ⟨fun failed => warned.mpr (unanswered failed), fun zero records => ?_⟩
    have one := errorCode_of_null (warned.mp records)
    cases zero.symm.trans one

theorem announced_congr {o : Outcome} {rs ss : List Log.Record}
    (h : Log.warnings rs = Log.warnings ss) : o.Announced rs ↔ o.Announced ss := by
  rw [Announced, Announced, Log.warned_congr h]

theorem announced_failed (report : String) :
    failed.Announced [⟨.warning, "Search backend unavailable: " ++ report⟩] := by
  have warned : Log.Warned [⟨.warning, "Search backend unavailable: " ++ report⟩] :=
    ⟨_, List.mem_singleton_self _, rfl⟩
  exact (announced_of_no_answer (iff_of_true warned rfl)).mpr fun _ => rfl

end Outcome

namespace Search

variable {σ : Type}

theorem execute_refused_logs {f : Failure} (h : f.isFatal = false) (q : Query) (t : Trace σ) :
    ((execute (.refused f) q).runFrom t).2 =
      { t with log := t.log ++ [⟨.warning, "Search backend unavailable: " ++ f.report⟩] } := by
  simp only [execute, h]
  rfl

/-- What a submission that comes back logs. -/
theorem submit_logs {b : Backend σ} {q : Query} {t : Trace σ} {o : Outcome}
    (h : ((submit b q).runFrom t).1 = .ok o) :
    ∃ calls records,
      ((submit b q).runFrom t).2.calls = t.calls ++ calls ∧
      ((submit b q).runFrom t).2.log = t.log ++ records ∧
      Log.warnings records = Log.warnings (b.logged calls t.world) ∧
      (b.WarnsOfNoAnswer → (Log.Warned records ↔ o.response = .null)) := by
  obtain ⟨text, ht, answered, rfl⟩ := submit_returned h
  obtain ⟨calls, records, made, -, log, warnings⟩ := submit_relays b q t
  have all : calls = schedule q text := by
    have sent := (submit_follows ht).calls
    rw [Backend.made_of_answered answered] at sent
    exact List.append_cancel_left (made.symm.trans sent)
  refine ⟨calls, records, made, log, warnings, fun warns => ?_⟩
  have split : schedule q text = (opening q ++ [.addQuery text q.index]) ++ [.runQueries] := by
    simp [schedule]
  have before : ∀ c ∈ opening q ++ [.addQuery text q.index], c.method ≠ .runQueries := by
    rw [opening, List.append_assoc, List.forall_mem_append]
    exact ⟨fun c hc => (method_of_mem_settings q c hc).2.2, by simp [Call.method]⟩
  have quiet := Backend.not_warned_logged (fun c hc => warns.others c (before c hc)) t.world
  have last := warns.run _ _ (Backend.answerAfter_of_answered (split ▸ answered))
  rw [Log.warned_congr warnings, all, split, Backend.logged_append, Log.warned_append,
    or_iff_right quiet, Backend.logged, Backend.logged, List.append_nil]
  exact last

theorem after_of_outcome (p : Plan σ) (us : List Use) {s : Progress σ} {o : Outcome}
    (h : s.outcome? = some o) : after p us s = s := by
  cases s with
  | mk i o? t =>
    subst h
    induction us with
    | nil => rfl
    | cons u us ih =>
      rw [after, List.foldl_cons, (use_of_settled p u i o t).1]
      exact ih

/-- The use that settles a search makes the next attempt. -/
theorem settled_by_attempt {p : Plan σ} {u : Use} {s : Progress σ} {o : Outcome}
    (unsettled : s.outcome? = none) (settles : (use p u s).2.outcome? = some o) :
    (attemptFrom p s.connects s.trace).1 = .ok o ∧
      (use p u s).2.trace = (attemptFrom p s.connects s.trace).2 := by
  cases hu : u.touches with
  | false =>
    rw [use_of_not_touches hu, unsettled] at settles
    cases settles
  | true =>
    cases s with
    | mk i o? t =>
      obtain rfl : o? = none := unsettled
      rw [use_of_touches hu, touch_of_none] at settles ⊢
      refine ⟨?_, rfl⟩
      cases ha : (attemptFrom p i t).1 with
      | ok r =>
        rw [ha] at settles
        exact congrArg Except.ok (Option.some.inj settles)
      | error f =>
        rw [ha] at settles
        cases settles

/-- The use that settles a search warns of a refused connection. On an open one it logs the warnings
of the backend and no others, so that no failure is announced on a backend that never warns, and on
the adapter of a client those without a response and no others. Later uses log nothing. -/
theorem failure_announced_iff (p : Plan σ) (u : Use) (s : Progress σ) (o : Outcome)
    (unsettled : s.outcome? = none) (settles : (use p u s).2.outcome? = some o) :
    let s' := (use p u s).2
    (∀ us, after p us s' = s') ∧
    (∀ c : Client.Behaviour, (Client.adapter c).WarnsOfNoAnswer) ∧
    ∃ calls records, s'.trace.calls = s.trace.calls ++ calls ∧
      s'.trace.log = s.trace.log ++ records ∧
      (∀ f w, p.connect s.connects s.trace.world = (.refused f, w) →
        records = [⟨.warning, "Search backend unavailable: " ++ f.report⟩] ∧
          o.Announced records) ∧
      ∀ b w, p.connect s.connects s.trace.world = (.opened b, w) →
        Log.warnings records = Log.warnings (b.logged calls w) ∧
        (o.Announced records ↔ o.Announced (b.logged calls w)) ∧
        (b.Silent → (o.Announced records ↔ ¬o.Failed)) ∧
        (b.WarnsOfNoAnswer → (o.Announced records ↔ (o.Failed → o.response = .null))) := by
  intro s'
  refine ⟨fun us => after_of_outcome p us settles, Client.adapter_warnsOfNoAnswer, ?_⟩
  obtain ⟨returned, trace⟩ := settled_by_attempt unsettled settles
  change s'.trace = _ at trace
  rw [trace]
  cases hc : p.connect s.connects s.trace.world with
  | mk c w =>
    simp only [attemptFrom, hc] at returned ⊢
    cases c with
    | refused f =>
      cases hf : f.isFatal with
      | true =>
        rw [execute_refused_fatal hf] at returned
        cases returned
      | false =>
        rw [execute_refused_ordinary hf] at returned
        obtain rfl := Except.ok.inj returned
        rw [execute_refused_logs hf]
        refine ⟨[], _, (List.append_nil _).symm, rfl, ?_, ?_⟩
        · rintro f' w' refused
          cases refused
          exact ⟨rfl, Outcome.announced_failed f.report⟩
        · intro b w' opened
          cases opened
    | opened b =>
      obtain ⟨calls, records, made, log, warnings, warned⟩ := submit_logs returned
      refine ⟨calls, records, made, log, ?_, ?_⟩
      · intro f w' refused
        cases refused
      · intro b' w' opened
        cases opened
        refine ⟨warnings, Outcome.announced_congr warnings, fun silent => ?_, fun warns => ?_⟩
        · have silence : ¬Log.Warned records := by
            rw [Log.warned_congr warnings]
            exact Backend.not_warned_logged (fun c _ => silent c) w
          exact Outcome.announced_of_silence silence
        · exact Outcome.announced_of_no_answer (warned warns)

/-- A run that the daemon does not answer is warned of with what the client can tell. -/
theorem failure_announced_iff_unanswered :
    let q : Query := {
      index := .null, search := .text "war", searchFields := [], limit := .null, offset := .int 0,
      sortField := .null, sortMode := .null, fieldWeights := [], filters := [], matchMode := .null }
    let c : Client.Behaviour := {
      answer := fun
        | .escapeString text => .ok text
        | .getLastError => .ok (.text "timed out")
        | _ => .ok .null
      tellsLastError := true }
    let p : Plan Client.State := ⟨q, fun _ w => (.opened (Client.adapter c), w)⟩
    let s : Progress Client.State := start ⟨none, []⟩
    let o : Outcome := ⟨false, .null⟩
    s.outcome? = none ∧ (use p .errorCode s).2.outcome? = some o ∧ o.Failed ∧
      ∃ records, (use p .errorCode s).2.trace.log = s.trace.log ++ records ∧
        o.Announced records := by
  intro q c p s o
  have settles : (use p .errorCode s).2.outcome? = some o := rfl
  obtain ⟨-, adapters, calls, records, -, log, -, opened⟩ :=
    failure_announced_iff p .errorCode s o rfl settles
  have announced := (opened (Client.adapter c) ⟨none, []⟩ rfl).2.2.2 (adapters c)
  exact ⟨rfl, settles, .inl rfl, records, log, announced.mpr fun _ => rfl⟩

/-- An error that the daemon reports in its response is not warned of. -/
theorem reported_error_not_announced :
    let q : Query := {
      index := .null, search := .text "", searchFields := [], limit := .null, offset := .int 0,
      sortField := .null, sortMode := .null, fieldWeights := [], filters := [], matchMode := .null }
    let c : Client.Behaviour := {
      answer := fun
        | .escapeString text => .ok text
        | .runQueries => .ok (.list [.map [(.text "status", .int 1), (.text "total", .int 0),
            (.text "error", .text "unknown index")]])
        | .getLastError => .ok (.text "unknown index")
        | _ => .ok .null
      tellsLastError := true }
    let p : Plan Client.State := ⟨q, fun _ w => (.opened (Client.adapter c), w)⟩
    let s : Progress Client.State := start ⟨none, []⟩
    let s' := (use p .errorCode s).2
    ∃ o, s.outcome? = none ∧ s'.outcome? = some o ∧ o.Failed ∧ o.errorCode = .ok 1 ∧
      s'.trace.log = [⟨.debug, "Search query: index=None query=''"⟩,
        ⟨.debug, "Search run finished: success=True"⟩] ∧
      ¬o.Announced s'.trace.log := by
  intro q c p s s'
  have failed : ¬Outcome.Succeeded [(.text "status", .int 1), (.text "total", .int 0),
      (.text "error", .text "unknown index")] := by decide
  have log : s'.trace.log = [⟨.debug, "Search query: index=None query=''"⟩,
      ⟨.debug, "Search run finished: success=True"⟩] := by decide
  refine ⟨_, rfl, rfl, .inr ⟨_, .first _ [], failed⟩, rfl, log, ?_⟩
  rw [log]
  intro announced
  have warned := announced.1 (.inr ⟨_, .first _ [], failed⟩)
  simp [Log.Warned] at warned

end Search

end Fulltext
