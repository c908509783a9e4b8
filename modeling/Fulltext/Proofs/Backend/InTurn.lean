import Fulltext.Backend.Session

namespace Fulltext

namespace Log

def warnings (records : List Record) : List Record := records.filter (·.level = .warning)

theorem warnings_append (rs ss : List Record) :
    warnings (rs ++ ss) = warnings rs ++ warnings ss :=
  List.filter_append ..

end Log

namespace Backend

variable {σ : Type}

/-- The calls of a list that are made: all of them up to the first that is not answered, with it. -/
def made (b : Backend σ) : List Call → σ → List Call
  | [], _ => []
  | c :: cs, w =>
    match (b.perform c w).answer with
    | .ok _ => c :: made b cs (b.perform c w).world
    | .error _ => [c]

/-- The fault of the first call that is not answered. -/
def fault? (b : Backend σ) : List Call → σ → Option Fault
  | [], _ => none
  | c :: cs, w =>
    match (b.perform c w).answer with
    | .ok _ => fault? b cs (b.perform c w).world
    | .error f => some f

def worldAfter (b : Backend σ) (cs : List Call) (w : σ) : σ :=
  cs.foldl (fun w c => (b.perform c w).world) w

/-- The records that the backend logs for the calls of a list. -/
def logged (b : Backend σ) : List Call → σ → List Log.Record
  | [], _ => []
  | c :: cs, w => (b.perform c w).log ++ logged b cs (b.perform c w).world

/-- The answer to a call that is made after others. -/
def answerAfter (b : Backend σ) (cs : List Call) (c : Call) (w : σ) : Except Fault Value :=
  (b.perform c (b.worldAfter cs w)).answer

/-- The value of such an answer. It counts as null if there is none; nothing reads it then. -/
def valueAfter (b : Backend σ) (cs : List Call) (c : Call) (w : σ) : Value :=
  (b.answerAfter cs c w).toOption.getD .null

theorem worldAfter_append (b : Backend σ) (cs ds : List Call) (w : σ) :
    b.worldAfter (cs ++ ds) w = b.worldAfter ds (b.worldAfter cs w) := by
  rw [worldAfter, List.foldl_append]
  rfl

theorem logged_append (b : Backend σ) (cs ds : List Call) (w : σ) :
    b.logged (cs ++ ds) w = b.logged cs w ++ b.logged ds (b.worldAfter cs w) := by
  induction cs generalizing w with
  | nil => rfl
  | cons c cs ih =>
    simp only [List.cons_append, logged, ih, List.append_assoc]
    rfl

theorem fault?_append (b : Backend σ) (cs ds : List Call) (w : σ) :
    b.fault? (cs ++ ds) w = (b.fault? cs w).or (b.fault? ds (b.worldAfter cs w)) := by
  induction cs generalizing w with
  | nil => rfl
  | cons c cs ih =>
    cases h : (b.perform c w).answer with
    | ok v =>
      simp only [List.cons_append, fault?, h]
      exact ih _
    | error f => simp [fault?, h]

theorem answerAfter_of_answered {b : Backend σ} {cs : List Call} {c : Call} {w : σ}
    (h : b.fault? (cs ++ [c]) w = none) : b.answerAfter cs c w = .ok (b.valueAfter cs c w) := by
  rw [fault?_append, Option.or_eq_none_iff] at h
  have last : b.fault? [c] (b.worldAfter cs w) = none := h.2
  simp only [fault?] at last
  cases ha : b.answerAfter cs c w with
  | ok v => simp [valueAfter, ha, Except.toOption]
  | error f => simp [show (b.perform c (b.worldAfter cs w)).answer = .error f from ha] at last

theorem made_of_answered {b : Backend σ} {cs : List Call} {w : σ} (h : b.fault? cs w = none) :
    b.made cs w = cs := by
  induction cs generalizing w with
  | nil => rfl
  | cons c cs ih =>
    cases ha : (b.perform c w).answer with
    | ok v =>
      simp only [fault?, ha] at h
      simp only [made, ha, ih h]
    | error f => simp [fault?, ha] at h

theorem fault?_of_answers {b : Backend σ} (h : ∀ c w, ∃ v, (b.perform c w).answer = .ok v)
    (cs : List Call) (w : σ) : b.fault? cs w = none := by
  induction cs generalizing w with
  | nil => rfl
  | cons c cs ih =>
    obtain ⟨v, hv⟩ := h c w
    rw [fault?, hv]
    exact ih _

theorem made_append_of_answered {b : Backend σ} {cs : List Call} {w : σ}
    (h : b.fault? cs w = none) (ds : List Call) :
    b.made (cs ++ ds) w = cs ++ b.made ds (b.worldAfter cs w) := by
  induction cs generalizing w with
  | nil => rfl
  | cons c cs ih =>
    cases ha : (b.perform c w).answer with
    | ok v =>
      simp only [fault?, ha] at h
      simp only [List.cons_append, made, ha, ih h]
      rfl
    | error f => simp [fault?, ha] at h

theorem made_append_of_fault {b : Backend σ} {cs : List Call} {w : σ} {f : Fault}
    (h : b.fault? cs w = some f) (ds : List Call) : b.made (cs ++ ds) w = b.made cs w := by
  induction cs generalizing w with
  | nil => simp [fault?] at h
  | cons c cs ih =>
    cases ha : (b.perform c w).answer with
    | ok v =>
      simp only [fault?, ha] at h
      simp only [List.cons_append, made, ha, ih h]
    | error g => simp only [List.cons_append, made, ha]

/-- What is made is a first part of the list. -/
theorem made_prefix (b : Backend σ) (cs : List Call) (w : σ) : b.made cs w <+: cs := by
  induction cs generalizing w with
  | nil => exact List.prefix_rfl
  | cons c cs ih =>
    cases ha : (b.perform c w).answer with
    | ok v =>
      simp only [made, ha]
      exact List.cons_prefix_cons.mpr ⟨rfl, ih _⟩
    | error f =>
      simp only [made, ha]
      exact List.cons_prefix_cons.mpr ⟨rfl, List.nil_prefix⟩

theorem mem_of_mem_made {b : Backend σ} {cs : List Call} {w : σ} {c : Call}
    (h : c ∈ b.made cs w) : c ∈ cs :=
  (b.made_prefix cs w).subset h

end Backend

namespace Session

variable {σ α β : Type}

theorem runFrom_bind_ok {s : Session σ α} {k : α → Session σ β} {t u : Trace σ} {a : α}
    (h : s.runFrom t = (.ok a, u)) : (s >>= k).runFrom t = (k a).runFrom u := by
  rw [runFrom, ExceptT.run_bind, StateT.run_bind]
  rw [runFrom] at h
  rw [h]
  rfl

theorem runFrom_bind_error {s : Session σ α} {k : α → Session σ β} {t u : Trace σ} {f : Fault}
    (h : s.runFrom t = (.error f, u)) : (s >>= k).runFrom t = (.error f, u) := by
  rw [runFrom, ExceptT.run_bind, StateT.run_bind]
  rw [runFrom] at h
  rw [h]
  rfl

/-- The session makes the calls `cs` in turn, stops at the first that is not answered, and comes to
`r` if there is none. -/
structure Follows (b : Backend σ) (s : Session σ α) (t : Trace σ) (cs : List Call)
    (r : Except Fault α) : Prop where
  calls : (s.runFrom t).2.calls = t.calls ++ b.made cs t.world
  stops : ∀ f, b.fault? cs t.world = some f → (s.runFrom t).1 = .error f
  ends : b.fault? cs t.world = none →
    (s.runFrom t).1 = r ∧ (s.runFrom t).2.world = b.worldAfter cs t.world

namespace Follows

variable {b : Backend σ} {t : Trace σ}

theorem pure (a : α) : Follows b (Pure.pure a) t [] (.ok a) :=
  ⟨(List.append_nil _).symm, by simp [Backend.fault?], fun _ => ⟨rfl, rfl⟩⟩

theorem lift (e : Except Fault α) : Follows b (liftM (n := Session σ) e) t [] e :=
  ⟨(List.append_nil _).symm, by simp [Backend.fault?], fun _ => ⟨rfl, rfl⟩⟩

theorem note (level : Log.Level) (message : String) :
    Follows b (Session.note level message) t [] (.ok ()) :=
  ⟨(List.append_nil _).symm, by simp [Backend.fault?], fun _ => ⟨rfl, rfl⟩⟩

theorem call (c : Call) :
    Follows b (Session.call b c) t [c] (.ok (b.valueAfter [] c t.world)) := by
  have h : (Session.call b c).runFrom t = ((b.perform c t.world).answer,
      ⟨(b.perform c t.world).world, t.calls ++ [c], t.log ++ (b.perform c t.world).log⟩) := rfl
  cases ha : (b.perform c t.world).answer with
  | ok v =>
    rw [ha] at h
    refine ⟨by simp [h, Backend.made, ha], by simp [Backend.fault?, ha], fun _ => ?_⟩
    rw [h, Backend.valueAfter, show b.answerAfter [] c t.world = .ok v from ha]
    exact ⟨rfl, rfl⟩
  | error f =>
    rw [ha] at h
    exact ⟨by simp [h, Backend.made, ha], by simp [h, Backend.fault?, ha],
      by simp [Backend.fault?, ha]⟩

theorem bind {s : Session σ α} {k : α → Session σ β} {cs ds : List Call} {a : α}
    {r : Except Fault β} (hs : Follows b s t cs (.ok a))
    (hk : ∀ u : Trace σ, u.world = b.worldAfter cs t.world → Follows b (k a) u ds r) :
    Follows b (s >>= k) t (cs ++ ds) r := by
  cases hf : b.fault? cs t.world with
  | some f =>
    have run : (s >>= k).runFrom t = (.error f, (s.runFrom t).2) :=
      runFrom_bind_error (Prod.ext (hs.stops f hf) rfl)
    refine ⟨?_, ?_, ?_⟩
    · rw [run, Backend.made_append_of_fault hf]
      exact hs.calls
    · intro g hg
      rw [Backend.fault?_append, hf, Option.some_or, Option.some.injEq] at hg
      rw [run, hg]
    · intro hn
      simp [Backend.fault?_append, hf] at hn
  | none =>
    obtain ⟨ok, world⟩ := hs.ends hf
    have run : (s >>= k).runFrom t = (k a).runFrom (s.runFrom t).2 :=
      runFrom_bind_ok (Prod.ext ok rfl)
    have rest := hk _ world
    have fault : b.fault? (cs ++ ds) t.world = b.fault? ds (s.runFrom t).2.world := by
      rw [Backend.fault?_append, hf, Option.none_or, world]
    refine ⟨?_, ?_, ?_⟩
    · rw [run, rest.calls, hs.calls, Backend.made_of_answered hf,
        Backend.made_append_of_answered hf, world, List.append_assoc]
    · intro g hg
      rw [run]
      exact rest.stops g (fault ▸ hg)
    · intro hn
      rw [run, Backend.worldAfter_append, ← world]
      exact rest.ends (fault ▸ hn)

/-- A session goes no further than its own fault. -/
theorem bind_error {s : Session σ α} (k : α → Session σ β) {cs : List Call} {f : Fault}
    (hs : Follows b s t cs (.error f)) : Follows b (s >>= k) t cs (.error f) := by
  have run : ∃ g, (s.runFrom t).1 = .error g := by
    cases hf : b.fault? cs t.world with
    | some g => exact ⟨g, hs.stops g hf⟩
    | none => exact ⟨f, (hs.ends hf).1⟩
  obtain ⟨g, hg⟩ := run
  have run : (s >>= k).runFrom t = (.error g, (s.runFrom t).2) :=
    runFrom_bind_error (Prod.ext hg rfl)
  refine ⟨?_, ?_, ?_⟩
  · rw [run]
    exact hs.calls
  · intro e he
    rw [run, Except.error.inj (hg.symm.trans (hs.stops e he))]
  · intro hn
    have ended := hs.ends hn
    rw [hg] at ended
    rw [run]
    exact ⟨by rw [Except.error.inj ended.1], ended.2⟩

theorem discard {s : Session σ α} {cs : List Call} {a : α} (hs : Follows b s t cs (.ok a)) :
    Follows b (Functor.discard s) t cs (.ok ()) := by
  have h : Follows b (s >>= fun _ => Pure.pure ()) t (cs ++ []) (.ok ()) :=
    hs.bind fun _ _ => pure ()
  rw [List.append_nil] at h
  exact h

theorem callIf (due : Bool) (c : Call) :
    Follows b (Session.callIf due b c) t (if due then [c] else []) (.ok ()) := by
  cases due with
  | true => exact (call c).discard
  | false => exact pure ()

end Follows

/-- Wherever it stops, the session leaves the world that the calls on its trace leave. -/
def Accounts (b : Backend σ) (s : Session σ α) : Prop :=
  ∀ t : Trace σ, ∃ cs, (s.runFrom t).2.calls = t.calls ++ cs ∧
    (s.runFrom t).2.world = b.worldAfter cs t.world

theorem Follows.world {b : Backend σ} {s : Session σ α} {t : Trace σ} {cs : List Call}
    {r : Except Fault α} (h : Follows b s t cs r) (accounts : Accounts b s) :
    (s.runFrom t).2.world = b.worldAfter (b.made cs t.world) t.world := by
  obtain ⟨ds, calls, world⟩ := accounts t
  have same : ds = b.made cs t.world := List.append_cancel_left (calls.symm.trans h.calls)
  rw [world, same]

/-- The session warns of nothing by itself: wherever it stops, it leaves the world that the calls on
its trace leave, and the warnings that the backend logs for them. -/
def Relays (b : Backend σ) (s : Session σ α) : Prop :=
  ∀ t : Trace σ, ∃ cs records, (s.runFrom t).2.calls = t.calls ++ cs ∧
    (s.runFrom t).2.world = b.worldAfter cs t.world ∧
    (s.runFrom t).2.log = t.log ++ records ∧
    Log.warnings records = Log.warnings (b.logged cs t.world)

namespace Relays

variable {b : Backend σ}

theorem accounts {s : Session σ α} (h : Relays b s) : Accounts b s := by
  intro t
  obtain ⟨cs, _, calls, world, -⟩ := h t
  exact ⟨cs, calls, world⟩

theorem pure (a : α) : Relays b (Pure.pure a) :=
  fun _ => ⟨[], [], (List.append_nil _).symm, rfl, (List.append_nil _).symm, rfl⟩

theorem lift (e : Except Fault α) : Relays b (liftM (n := Session σ) e) :=
  fun _ => ⟨[], [], (List.append_nil _).symm, rfl, (List.append_nil _).symm, rfl⟩

theorem debug (message : String) : Relays b (Session.note .debug message) :=
  fun _ => ⟨[], [⟨.debug, message⟩], (List.append_nil _).symm, rfl, rfl, rfl⟩

theorem call (c : Call) : Relays b (Session.call b c) := by
  intro t
  have once : b.logged [c] t.world = (b.perform c t.world).log := List.append_nil _
  exact ⟨[c], (b.perform c t.world).log, rfl, rfl, rfl, by rw [once]⟩

theorem bind {s : Session σ α} {k : α → Session σ β} (hs : Relays b s)
    (hk : ∀ a, Relays b (k a)) : Relays b (s >>= k) := by
  intro t
  obtain ⟨cs, records, calls, world, log, warned⟩ := hs t
  cases hr : s.runFrom t with
  | mk r u =>
    rw [hr] at calls world log
    cases r with
    | error f =>
      rw [runFrom_bind_error hr]
      exact ⟨cs, records, calls, world, log, warned⟩
    | ok a =>
      obtain ⟨ds, later, calls', world', log', warned'⟩ := hk a u
      rw [runFrom_bind_ok hr]
      refine ⟨cs ++ ds, records ++ later, ?_, ?_, ?_, ?_⟩
      · rw [calls', calls, List.append_assoc]
      · rw [world', world, Backend.worldAfter_append]
      · rw [log', log, List.append_assoc]
      · rw [Log.warnings_append, warned, warned', world, Backend.logged_append, Log.warnings_append]

theorem discard {s : Session σ α} (hs : Relays b s) : Relays b (Functor.discard s) :=
  hs.bind fun _ => pure ()

theorem callIf (due : Bool) (c : Call) : Relays b (Session.callIf due b c) := by
  cases due with
  | true => exact (call c).discard
  | false => exact pure ()

end Relays

end Session

end Fulltext
