import Fulltext.Proofs.Search.Submission
import Fulltext.Search.Once

namespace Fulltext.Search

variable {σ : Type}

/-- A query comes back from a connection that is refused by no fatal failure, and from one that is
open if its text can be put together and every call of its schedule is answered. -/
def Connection.Returns (q : Query) (w : σ) : Connection σ → Prop
  | .refused f => f.isFatal = false
  | .opened b => ∃ text, Query.text (escaped b q w) q.searchFields = .ok text ∧
      b.fault? (schedule q text) w = none

theorem execute_refused_fatal {f : Failure} (h : f.isFatal = true) (q : Query) (t : Trace σ) :
    (execute (.refused f) q).runFrom t = (.error (.failure f), t) := by
  simp only [execute, h, if_true]
  rfl

theorem execute_refused_ordinary {f : Failure} (h : f.isFatal = false) (q : Query) (t : Trace σ) :
    ((execute (.refused f) q).runFrom t).1 = .ok .failed := by
  simp only [execute, h]
  rfl

theorem submit_returns_iff (b : Backend σ) (q : Query) (t : Trace σ) :
    (∃ o, ((submit b q).runFrom t).1 = .ok o) ↔ (Connection.opened b).Returns q t.world := by
  cases ht : Query.text (escaped b q t.world) q.searchFields with
  | ok text =>
    have sent := submit_follows ht
    constructor
    · rintro ⟨o, ho⟩
      refine ⟨text, ht, ?_⟩
      cases hf : b.fault? (schedule q text) t.world with
      | none => rfl
      | some f =>
        rw [sent.stops f hf] at ho
        cases ho
    · rintro ⟨text', ht', hf⟩
      rw [ht, Except.ok.injEq] at ht'
      subst text'
      exact ⟨_, (sent.ends hf).1⟩
  | error f =>
    have sent := submit_fails ht
    constructor
    · rintro ⟨o, ho⟩
      cases hf : b.fault? (opening q) t.world with
      | none =>
        rw [(sent.ends hf).1] at ho
        cases ho
      | some g =>
        rw [sent.stops g hf] at ho
        cases ho
    · rintro ⟨text, ht', -⟩
      rw [ht] at ht'
      cases ht'

/-- What comes back is the answer to the last call. -/
theorem submit_returned {b : Backend σ} {q : Query} {t : Trace σ} {o : Outcome}
    (h : ((submit b q).runFrom t).1 = .ok o) :
    ∃ text, Query.text (escaped b q t.world) q.searchFields = .ok text ∧
      b.fault? (schedule q text) t.world = none ∧
      o = ⟨hasResponse (response b q text t.world), response b q text t.world⟩ := by
  obtain ⟨text, ht, answered⟩ := (submit_returns_iff b q t).mp ⟨o, h⟩
  have ended := ((submit_follows ht).ends answered).1
  exact ⟨text, ht, answered, Except.ok.inj (h.symm.trans ended)⟩

theorem execute_returns_iff (c : Connection σ) (q : Query) (t : Trace σ) :
    (∃ o, ((execute c q).runFrom t).1 = .ok o) ↔ c.Returns q t.world := by
  cases c with
  | opened b => exact submit_returns_iff b q t
  | refused f =>
    cases h : f.isFatal with
    | true => simp [execute_refused_fatal h, Connection.Returns, h]
    | false => simp [execute_refused_ordinary h, Connection.Returns, h]

/-- The attempt with a number, made after the trace `t`. -/
def attemptFrom (p : Plan σ) (i : Nat) (t : Trace σ) : Except Fault Outcome × Trace σ :=
  let (c, world) := p.connect i t.world
  (execute c p.query).runFrom { t with world := world }

/-- The trace that the attempts before one leave. -/
def traceBefore (p : Plan σ) (w : σ) : Nat → Trace σ
  | 0 => { world := w }
  | i + 1 => (attemptFrom p i (traceBefore p w i)).2

def attempt (p : Plan σ) (w : σ) (i : Nat) : Except Fault Outcome × Trace σ :=
  attemptFrom p i (traceBefore p w i)

def Fails (p : Plan σ) (w : σ) (i : Nat) : Prop := ∃ f, (attempt p w i).1 = .error f

/-- Attempt `k` comes back with `o`, and none before it comes back. -/
structure ReturnsFirst (p : Plan σ) (w : σ) (k : Nat) (o : Outcome) : Prop where
  returns : (attempt p w k).1 = .ok o
  earlier : ∀ i < k, Fails p w i

theorem ReturnsFirst.not_fails {p : Plan σ} {w : σ} {k : Nat} {o : Outcome}
    (h : ReturnsFirst p w k o) : ¬Fails p w k := by
  rintro ⟨f, hf⟩
  rw [h.returns] at hf
  cases hf

theorem ReturnsFirst.unique {p : Plan σ} {w : σ} {j k : Nat} {o o' : Outcome}
    (hj : ReturnsFirst p w j o) (hk : ReturnsFirst p w k o') : j = k ∧ o = o' := by
  have before : ¬j < k := fun h => hj.not_fails (hk.earlier j h)
  have beyond : ¬k < j := fun h => hk.not_fails (hj.earlier k h)
  obtain rfl : j = k := by omega
  exact ⟨rfl, Except.ok.inj (hj.returns.symm.trans hk.returns)⟩

/-- A use that needs the outcome. -/
def Use.touches : Use → Bool
  | .hasResponse => false
  | .query => false
  | _ => true

def touches (us : List Use) : Nat := us.countP Use.touches

/-- The progress after uses in turn. -/
def after (p : Plan σ) (us : List Use) (s : Progress σ) : Progress σ :=
  us.foldl (fun s u => (use p u s).2) s

theorem touch_of_none (p : Plan σ) (i : Nat) (t : Trace σ) :
    touch p ⟨i, none, t⟩ = ((attemptFrom p i t).1,
      ⟨i + 1, (attemptFrom p i t).1.toOption, (attemptFrom p i t).2⟩) := by
  cases h : attemptFrom p i t with
  | mk r u =>
    simp only [attemptFrom] at h
    simp only [touch, h]
    cases r <;> rfl

theorem touch_of_some (p : Plan σ) (i : Nat) (o : Outcome) (t : Trace σ) :
    touch p ⟨i, some o, t⟩ = (.ok o, ⟨i, some o, t⟩) := rfl

theorem use_of_touches {u : Use} (h : u.touches = true) (p : Plan σ) (s : Progress σ) :
    use p u s = ((touch p s).1.bind u.read, (touch p s).2) := by
  cases ht : touch p s with
  | mk r s' =>
    cases u <;> cases r <;> simp_all [use, Use.touches, Except.bind]

theorem use_of_not_touches {u : Use} (h : u.touches = false) (p : Plan σ) (s : Progress σ) :
    (use p u s).2 = s := by
  cases u with
  | hasResponse => rfl
  | query => rfl
  | _ => cases h

theorem use_of_trying {u : Use} (hu : u.touches = true) (p : Plan σ) (w : σ) (t : Nat) :
    use p u ⟨t, none, traceBefore p w t⟩ = ((attempt p w t).1.bind u.read,
      ⟨t + 1, (attempt p w t).1.toOption, (attempt p w t).2⟩) := by
  rw [use_of_touches hu, touch_of_none]
  rfl

theorem use_of_settled (p : Plan σ) (u : Use) (i : Nat) (o : Outcome) (t : Trace σ) :
    (use p u ⟨i, some o, t⟩).2 = ⟨i, some o, t⟩ ∧
      (u.touches = true → (use p u ⟨i, some o, t⟩).1 = u.read o) := by
  cases hu : u.touches with
  | true =>
    rw [use_of_touches hu, touch_of_some]
    exact ⟨rfl, fun _ => rfl⟩
  | false => exact ⟨use_of_not_touches hu p _, fun h => absurd h Bool.false_ne_true⟩

/-- The progress of a search after `t` uses that need the outcome: every attempt so far has failed,
or the first to come back has settled the search. -/
inductive Reached (p : Plan σ) (w : σ) (t : Nat) : Progress σ → Prop
  | trying (h : ∀ i < t, Fails p w i) : Reached p w t ⟨t, none, traceBefore p w t⟩
  | settled {k : Nat} {o : Outcome} (hk : k < t) (h : ReturnsFirst p w k o) :
      Reached p w t ⟨k + 1, some o, (attempt p w k).2⟩

theorem Reached.touch {p : Plan σ} {w : σ} {t : Nat} {s : Progress σ} (h : Reached p w t s) :
    Reached p w (t + 1) (Search.touch p s).2 := by
  cases h with
  | trying fails =>
    rw [touch_of_none]
    cases ha : (attempt p w t).1 with
    | ok o =>
      rw [show (attemptFrom p t (traceBefore p w t)).1 = .ok o from ha]
      exact .settled (Nat.lt_succ_self t) ⟨ha, fails⟩
    | error f =>
      rw [show (attemptFrom p t (traceBefore p w t)).1 = .error f from ha]
      refine .trying fun i hi => ?_
      rcases Nat.lt_succ_iff_lt_or_eq.mp hi with h | rfl
      · exact fails i h
      · exact ⟨f, ha⟩
  | settled hk first => exact .settled (Nat.lt_succ_of_lt hk) first

theorem Reached.use {p : Plan σ} {w : σ} {t : Nat} {s : Progress σ} (h : Reached p w t s)
    (u : Use) : Reached p w (t + touches [u]) (Search.use p u s).2 := by
  cases hu : u.touches with
  | true =>
    rw [use_of_touches hu]
    simpa [touches, hu] using h.touch
  | false =>
    rw [use_of_not_touches hu]
    simpa [touches, hu] using h

theorem Reached.after {p : Plan σ} {w : σ} {t : Nat} {s : Progress σ} (h : Reached p w t s)
    (us : List Use) : Reached p w (t + touches us) (Search.after p us s) := by
  induction us generalizing t s with
  | nil => exact h
  | cons u us ih =>
    have count : t + touches (u :: us) = t + touches [u] + touches us := by
      simp only [touches, List.countP_cons, List.countP_nil]
      omega
    rw [count]
    exact ih (h.use u)

theorem after_reached (p : Plan σ) (w : σ) (us : List Use) :
    Reached p w (touches us) (after p us (start w)) := by
  have begun : Reached p w 0 (start w) := .trying fun i hi => absurd hi (Nat.not_lt_zero i)
  simpa using begun.after us

theorem Reached.of_fails {p : Plan σ} {w : σ} {t : Nat} {s : Progress σ} (h : Reached p w t s)
    (fails : ∀ i < t, Fails p w i) : s = ⟨t, none, traceBefore p w t⟩ := by
  cases h with
  | trying => rfl
  | settled hk first => exact absurd (fails _ hk) first.not_fails

theorem Reached.of_returned {p : Plan σ} {w : σ} {t k : Nat} {o : Outcome} {s : Progress σ}
    (h : Reached p w t s) (hk : k < t) (first : ReturnsFirst p w k o) :
    s = ⟨k + 1, some o, (attempt p w k).2⟩ := by
  cases h with
  | trying fails => exact absurd (fails k hk) first.not_fails
  | settled _ first' =>
    obtain ⟨rfl, rfl⟩ := first.unique first'
    rfl

/-- The counter of connections stops at the attempt that settles the search. -/
theorem Reached.counts {p : Plan σ} {w : σ} {t k : Nat} {o : Outcome} {s : Progress σ}
    (h : Reached p w t s) (first : ReturnsFirst p w k o) :
    s.connects = min t (k + 1) ∧ s.outcome?.isSome = decide (k < t) := by
  by_cases hk : k < t
  · rw [h.of_returned hk first]
    have least : k + 1 = min t (k + 1) := by omega
    exact ⟨least, (decide_eq_true hk).symm⟩
  · rw [h.of_fails fun i hi => first.earlier i (by omega)]
    have least : t = min t (k + 1) := by omega
    exact ⟨least, (decide_eq_false hk).symm⟩

/-- The uses of a search make its attempts one by one until the first that comes back. Every failed
one is raised and forgotten; the outcome of the first that comes back is kept, and all uses after it
read it and leave connections, calls and log as they are. -/
theorem search_settles_at_first_return (p : Plan σ) (w : σ) (us : List Use) :
    let s := after p us (start w)
    let t := touches us
    (∀ i, (∃ o, (attempt p w i).1 = .ok o) ↔
      let (c, world) := p.connect i (traceBefore p w i).world
      c.Returns p.query world) ∧
    (∀ u : Use, u.touches = false → (use p u s).2 = s) ∧
    ((∀ i < t, Fails p w i) →
      s = ⟨t, none, traceBefore p w t⟩ ∧
      ∀ u : Use, u.touches = true →
        (∀ f, (attempt p w t).1 = .error f →
          (use p u s).1 = .error f ∧ (use p u s).2.outcome? = none) ∧
        (∀ o, (attempt p w t).1 = .ok o →
          (use p u s).1 = u.read o ∧ (use p u s).2.outcome? = some o)) ∧
    ∀ k o, ReturnsFirst p w k o →
      s.connects = min t (k + 1) ∧
      (use p .hasResponse s).1 = .ok (.flag (decide (k < t))) ∧
      (k < t → s = ⟨k + 1, some o, (attempt p w k).2⟩ ∧
        ∀ u : Use, (use p u s).2 = s ∧ (u.touches = true → (use p u s).1 = u.read o)) := by
  intro s t
  have reached : Reached p w t s := after_reached p w us
  clear_value s t
  refine ⟨fun i => ?_, fun u hu => use_of_not_touches hu p s, fun fails => ?_, fun k o first => ?_⟩
  · exact execute_returns_iff _ _ _
  · refine ⟨reached.of_fails fails, fun u hu => ?_⟩
    rw [reached.of_fails fails, use_of_trying hu]
    refine ⟨fun f hf => ?_, fun o ho => ?_⟩
    · rw [hf]
      exact ⟨rfl, rfl⟩
    · rw [ho]
      exact ⟨rfl, rfl⟩
  · obtain ⟨connects, settled⟩ := reached.counts first
    refine ⟨connects, congrArg (fun b => Except.ok (Answer.flag b)) settled, fun hk => ?_⟩
    rw [reached.of_returned hk first]
    exact ⟨rfl, fun u => use_of_settled p u _ o _⟩

/-- The run of the first attempt fails; the second comes back and is the last. -/
theorem search_settles_at_second_attempt :
    let q : Query := {
      index := .null, search := .text "war", searchFields := [.int 1], limit := .null,
      offset := .int 0, sortField := .null, sortMode := .null, fieldWeights := [], filters := [],
      matchMode := .null }
    let down : Failure := ⟨.ordinary "OSError", "down"⟩
    let refuse : Backend Unit := ⟨fun c w =>
      ⟨match c with | .runQueries => .error (.failure down) | _ => .ok .null, [], w⟩⟩
    let answer : Backend Unit := ⟨fun c w =>
      ⟨match c with | .runQueries => .ok (.list [.map []]) | _ => .ok .null, [], w⟩⟩
    let p : Plan Unit := ⟨q, fun i w => (.opened (if i = 0 then refuse else answer), w)⟩
    let s := after p [.count, .hasResponse, .countTotal, .execute] (start ())
    ReturnsFirst p () 1 ⟨true, .list [.map []]⟩ ∧ s.connects = 2 ∧
      (use p .countTotal s).1 = .error (.operand .noSuchEntry) ∧ (use p .countTotal s).2 = s := by
  intro q down refuse answer p s
  have first : ReturnsFirst p () 1 ⟨true, .list [.map []]⟩ := by
    refine ⟨rfl, fun i hi => ?_⟩
    obtain rfl : i = 0 := by omega
    exact ⟨_, rfl⟩
  have settled := (search_settles_at_first_return p () [.count, .hasResponse, .countTotal,
    .execute]).2.2.2 1 _ first
  have later := (settled.2.2 (by decide)).2 .countTotal
  exact ⟨first, settled.1, (later.2 rfl).trans rfl, later.1⟩

end Fulltext.Search
