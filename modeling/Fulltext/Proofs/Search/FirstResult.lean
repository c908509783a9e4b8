import Fulltext.Proofs.Search.Attempt
import Fulltext.Proofs.Value.Same

namespace Fulltext

namespace Value

/-- Only a number can equal zero. -/
theorem same_zero_iff (v : Value) :
    v.same (.int 0) = true ↔ v.magnitude? = some (.exact 0) := by
  have zero : (Value.int 0).key? = some (.number (.exact 0)) := rfl
  have found : v.same (.int 0) = true ↔ v.key? = some (.number (.exact 0)) := by
    rw [same.eq_3 v (.int 0) (by simp) (by simp), zero]
    cases v.key? <;> simp
  rw [found]
  cases v <;> simp [key?, magnitude?]

/-- Lists, texts, bytes and mappings have a length. -/
inductive HasLength : Value → Nat → Prop
  | list (xs : List Value) : HasLength (.list xs) xs.length
  | text (s : String) : HasLength (.text s) s.length
  | bytes (bs : List UInt8) : HasLength (.foreign (.bytes bs)) bs.length
  | map (es : Entries) : HasLength (.map es) es.length

theorem size_eq_ok_iff {v : Value} {n : Nat} : v.size = .ok n ↔ v.HasLength n := by
  constructor
  · intro h
    cases v with
    | list xs =>
      obtain rfl := Except.ok.inj h
      exact .list xs
    | text s =>
      obtain rfl := Except.ok.inj h
      exact .text s
    | foreign x =>
      cases x with
      | bytes bs =>
        obtain rfl := Except.ok.inj h
        exact .bytes bs
      | time _ => cases h
    | map es =>
      obtain rfl := Except.ok.inj h
      exact .map es
    | _ => cases h
  · intro h
    cases h <;> rfl

theorem size_eq_error_iff {v : Value} {f : Fault} :
    v.size = .error f ↔ f = .operand .notSized ∧ ∀ n, ¬v.HasLength n := by
  simp only [← size_eq_ok_iff]
  cases v with
  | foreign x => cases x <;> simp [size, eq_comm]
  | _ => simp [size, eq_comm]

end Value

namespace Outcome

/-- The first result set of a response, if there is one. -/
inductive Shows : Value → Option Entries → Prop
  | nothing : Shows .null none
  | empty : Shows (.list []) none
  | first (m : Entries) (others : List Value) : Shows (.list (.map m :: others)) (some m)

/-- The daemon reports no status other than zero. -/
def Succeeded (m : Entries) : Prop :=
  ((m.named? "status").getD (.int 0)).magnitude? = some (.exact 0)

instance (m : Entries) : Decidable (Succeeded m) := inferInstanceAs (Decidable (_ = _))

section

variable {o : Outcome} {m : Entries}

theorem isSet_of_first (h : Shows o.response (some m)) : o.response.isSet = true := by
  cases hr : o.response <;> rw [hr] at h <;> cases h
  rfl

theorem field?_of_first (h : Shows o.response (some m)) (name : String) :
    o.field? name = .ok (m.named? name) := by
  cases hr : o.response <;> rw [hr] at h <;> cases h
  rw [field?, first, hr]
  rfl

theorem isError_of_first (h : Shows o.response (some m)) :
    o.isError = .ok (!decide (Succeeded m)) := by
  have status : o.isError =
      .ok ((m.named? "status").elim false fun status => !status.same (.int 0)) := by
    rw [isError, isSet_of_first h, field?_of_first h]
    cases m.named? "status" <;> rfl
  rw [status]
  cases hs : m.named? "status" with
  | none => simp [Succeeded, hs, Value.magnitude?]
  | some v =>
    have zero : v.same (.int 0) = decide (Succeeded m) := by
      rw [Bool.eq_iff_iff, Value.same_zero_iff, decide_eq_true_eq, Succeeded, hs, Option.getD_some]
    exact congrArg (fun b => Except.ok !b) zero

theorem isError_of_nothing (h : Shows o.response none) : o.isError = .ok true := by
  have unset : o.response.isSet = false := by
    cases hr : o.response <;> rw [hr] at h <;> cases h <;> rfl
  rw [isError, unset]
  rfl

/-- All that an outcome answers under error. -/
theorem answers_of_error (h : o.isError = .ok true) :
    o.errorCode = .ok 1 ∧ o.countTotal = .ok .null ∧ o.count = .ok .null := by
  rw [errorCode, countTotal, count, h]
  exact ⟨rfl, rfl, rfl⟩

/-- All that an outcome answers for a result set without error. -/
theorem answers_of_succeeded (h : Shows o.response (some m)) (succeeded : Succeeded m) :
    o.errorCode = .ok 0 ∧
      o.countTotal = (m.named? "total").elim (.error (.operand .noSuchEntry)) .ok ∧
      o.count = match m.named? "matches" with
        | none | some .null => .ok (.int 0)
        | some ms => ms.size.map fun n => .int n := by
  have fine : o.isError = .ok false := by
    rw [isError_of_first h, decide_eq_true succeeded]
    rfl
  refine ⟨?_, ?_, ?_⟩
  · rw [errorCode, fine]
    rfl
  · rw [countTotal, fine, field?_of_first h]
    cases m.named? "total" <;> rfl
  · rw [count, fine, field?_of_first h]
    cases m.named? "matches" with
    | none => rfl
    | some ms =>
      cases ms with
      | foreign x => cases x <;> rfl
      | _ => rfl

theorem countTotal_cases (h : Shows o.response (some m)) (succeeded : Succeeded m) :
    (∀ total, o.countTotal = .ok total ↔ m.named? "total" = some total) ∧
    ∀ f, o.countTotal = .error f ↔ f = .operand .noSuchEntry ∧ m.named? "total" = none := by
  rw [(answers_of_succeeded h succeeded).2.1]
  cases m.named? "total" <;> simp [eq_comm]

theorem count_of_no_matches (h : Shows o.response (some m)) (succeeded : Succeeded m)
    (none : (m.named? "matches").getD .null = .null) : o.count = .ok (.int 0) := by
  rw [(answers_of_succeeded h succeeded).2.2]
  cases hm : m.named? "matches" with
  | none => rfl
  | some ms =>
    rw [hm, Option.getD_some] at none
    rw [none]

theorem count_cases (h : Shows o.response (some m)) (succeeded : Succeeded m) {ms : Value}
    (given : m.named? "matches" = some ms) (some : ms ≠ .null) :
    (∀ v, o.count = .ok v ↔ ∃ n : Nat, v = .int n ∧ ms.HasLength n) ∧
    ∀ f, o.count = .error f ↔ f = .operand .notSized ∧ ∀ n, ¬ms.HasLength n := by
  have size : o.count = ms.size.map fun n => .int n := by
    rw [(answers_of_succeeded h succeeded).2.2, given]
    cases ms with
    | null => exact absurd rfl some
    | foreign x => cases x <;> rfl
    | _ => rfl
  rw [size]
  constructor
  · intro v
    simp only [← Value.size_eq_ok_iff]
    cases ms.size <;> simp [Except.map, eq_comm]
  · intro f
    rw [← Value.size_eq_error_iff]
    cases ms.size <;> simp [Except.map]

/-- Outcomes of one first result set answer alike. -/
theorem answers_alike {o' : Outcome} {first? : Option Entries} (h : Shows o.response first?)
    (h' : Shows o'.response first?) :
    o'.isError = o.isError ∧ o'.errorCode = o.errorCode ∧ o'.countTotal = o.countTotal ∧
      o'.count = o.count := by
  cases first? with
  | none =>
    have here := isError_of_nothing h
    have there := isError_of_nothing h'
    simp only [answers_of_error here, answers_of_error there, here, there, and_self]
  | some m =>
    have same : o'.isError = o.isError :=
      (isError_of_first h').trans (isError_of_first h).symm
    have field : ∀ name, o'.field? name = o.field? name :=
      fun name => (field?_of_first h' name).trans (field?_of_first h name).symm
    simp only [errorCode, countTotal, count, same, field, and_self]

end

end Outcome

namespace Search

variable {σ : Type}

/-- A search has succeeded if the daemon has answered anything. -/
theorem success_execute {c : Connection σ} {q : Query} {t : Trace σ} {o : Outcome}
    (h : ((execute c q).runFrom t).1 = .ok o) : o.success = hasResponse o.response := by
  cases c with
  | refused f =>
    cases hf : f.isFatal with
    | true =>
      rw [execute_refused_fatal hf] at h
      cases h
    | false =>
      rw [execute_refused_ordinary hf] at h
      rw [← Except.ok.inj h]
      rfl
  | opened b =>
    obtain ⟨text, -, -, rfl⟩ := submit_returned h
    rfl

end Search

namespace Outcome

/-- An outcome answers with error code one and no counts exactly if there is no result set or the
first one reports a status other than zero, and otherwise with what the first one holds. Nothing else
of an outcome counts, and one of an execution without success has error code one. -/
theorem accessors_read_first_result (o : Outcome) (first? : Option Entries)
    (shows : Shows o.response first?) :
    let error := ∀ m, first? = some m → ¬Succeeded m
    (o.errorCode = .ok 1 ↔ error) ∧
    (error → o.countTotal = .ok .null ∧ o.count = .ok .null) ∧
    (¬error → o.errorCode = .ok 0) ∧
    (∀ m, first? = some m → Succeeded m →
      (∀ total, o.countTotal = .ok total ↔ m.named? "total" = some total) ∧
      (∀ f, o.countTotal = .error f ↔ f = .operand .noSuchEntry ∧ m.named? "total" = none) ∧
      ((m.named? "matches").getD .null = .null → o.count = .ok (.int 0)) ∧
      ∀ ms, m.named? "matches" = some ms → ms ≠ .null →
        (∀ v, o.count = .ok v ↔ ∃ n : Nat, v = .int n ∧ ms.HasLength n) ∧
        ∀ f, o.count = .error f ↔ f = .operand .notSized ∧ ∀ n, ¬ms.HasLength n) ∧
    o.lastId = .null ∧
    (∀ o' : Outcome, Shows o'.response first? →
      o'.isError = o.isError ∧ o'.errorCode = o.errorCode ∧ o'.countTotal = o.countTotal ∧
        o'.count = o.count ∧ o'.lastId = o.lastId) ∧
    ∀ {σ : Type} (c : Search.Connection σ) (q : Query) (t : Trace σ),
      ((Search.execute c q).runFrom t).1 = .ok o →
      (o.success = false → o.errorCode = .ok 1) ∧ (o.errorCode = .ok 0 → o.success = true) := by
  intro error
  have bad : error → o.isError = .ok true := by
    intro e
    cases first? with
    | none => exact isError_of_nothing shows
    | some m =>
      rw [isError_of_first shows, decide_eq_false (e m rfl)]
      rfl
  have fine : ∀ m, first? = some m → Succeeded m → o.errorCode = .ok 0 := by
    rintro m rfl succeeded
    exact (answers_of_succeeded shows succeeded).1
  have code : o.errorCode = .ok 1 ↔ error := by
    constructor
    · intro one m hm succeeded
      cases one.symm.trans (fine m hm succeeded)
    · intro e
      exact (answers_of_error (bad e)).1
  refine ⟨code, fun e => (answers_of_error (bad e)).2, ?zero, ?read, rfl, ?alike, ?executed⟩
  case zero =>
    intro no
    simp only [error, not_forall, not_not] at no
    obtain ⟨m, hm, succeeded⟩ := no
    exact fine m hm succeeded
  case read =>
    rintro m rfl succeeded
    obtain ⟨total, missing⟩ := countTotal_cases shows succeeded
    exact ⟨total, missing, count_of_no_matches shows succeeded,
      fun ms given some => count_cases shows succeeded given some⟩
  case alike =>
    intro o' shows'
    obtain ⟨isError, errorCode, countTotal, count⟩ := answers_alike shows shows'
    exact ⟨isError, errorCode, countTotal, count, rfl⟩
  case executed =>
    intro σ c q t returned
    have success := Search.success_execute returned
    have failed : o.success = false → o.errorCode = .ok 1 := by
      intro unsuccessful
      have nothing : o.response = .null := by
        cases hr : o.response <;> simp_all [Search.hasResponse]
      have none : Shows o.response none := nothing ▸ .nothing
      exact (answers_of_error (isError_of_nothing none)).1
    refine ⟨failed, fun zero => ?_⟩
    cases hs : o.success with
    | true => rfl
    | false => cases zero.symm.trans (failed hs)

/-- A status of false equals zero, and a text never does. A total is missing, and what the later
result set holds does not count. -/
theorem accessors_read_first_result_false_status :
    let m : Entries := [(.text "status", .bool false), (.text "matches", .map [(.int 7, .null)])]
    let bad : Entries := [(.text "status", .text "0"), (.text "total", .int 3)]
    let o : Outcome := ⟨false, .list [.map m, .map bad]⟩
    let o' : Outcome := ⟨true, .list [.map bad, .map m]⟩
    Shows o.response (some m) ∧ Succeeded m ∧ o.errorCode = .ok 0 ∧ o.count = .ok (.int 1) ∧
      o.countTotal = .error (.operand .noSuchEntry) ∧ Shows o'.response (some bad) ∧
      o'.errorCode = .ok 1 ∧ o'.countTotal = .ok .null := by
  intro m bad o o'
  have shows : Shows o.response (some m) := .first m [.map bad]
  have shows' : Shows o'.response (some bad) := .first bad [.map m]
  have succeeded : Succeeded m := by decide
  have failed : ∀ n, some bad = some n → ¬Succeeded n := by
    rintro n ⟨⟩
    decide
  obtain ⟨-, -, zero, read, -⟩ := accessors_read_first_result o (some m) shows
  obtain ⟨one, counts, -⟩ := accessors_read_first_result o' (some bad) shows'
  obtain ⟨-, missing, -, sized⟩ := read m rfl succeeded
  have count := (sized (.map [(.int 7, .null)]) rfl nofun).1 (.int 1)
  exact ⟨shows, succeeded, zero fun error => error m rfl succeeded,
    count.mpr ⟨1, rfl, .map _⟩, (missing _).mpr ⟨rfl, rfl⟩, shows', one.mpr failed,
    (counts failed).1⟩

end Outcome

end Fulltext
