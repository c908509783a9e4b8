import Fulltext.Proofs.Filter.Distinct
import Fulltext.Proofs.Query.History
import Fulltext.Proofs.Search.Submission
import Mathlib.Algebra.Order.Ring.Unbundled.Rat

namespace Fulltext

/-- Below zero by the order of numbers; what is no number is below nothing. -/
def Magnitude.BelowZero : Magnitude → Prop
  | exact v => v < 0
  | infinite negative => negative = true
  | nan _ => False

theorem Binary64.isNegative_eq_false_iff (x : Binary64) :
    x.isNegative = false ↔ ¬x.magnitude.BelowZero := by
  cases x with
  | infinite s => simp [isNegative, magnitude, Magnitude.BelowZero]
  | nan i => simp [isNegative, magnitude, Magnitude.BelowZero]
  | finite s m e =>
    have powers : Nat.pow 2 (-e).toNat ≠ 0 := (Nat.pow_pos Nat.two_pos).ne'
    have positive : 0 < mkRat (m * Nat.pow 2 e.toNat : Nat) (Nat.pow 2 (-e).toNat) ↔ 0 < m := by
      rw [Rat.mkRat_pos_iff _ powers, Int.natCast_pos]
      exact Nat.mul_pos_iff_of_pos_right (Nat.pow_pos Nat.two_pos)
    have fromZero : 0 ≤ mkRat (m * Nat.pow 2 e.toNat : Nat) (Nat.pow 2 (-e).toNat) :=
      Rat.mkRat_nonneg (Int.natCast_nonneg _) _
    simp only [isNegative, magnitude, Magnitude.BelowZero]
    generalize mkRat (m * Nat.pow 2 e.toNat : Nat) (Nat.pow 2 (-e).toNat) = v at positive fromZero
    cases s with
    | false => simpa using fromZero
    | true => simp [positive, Nat.pos_iff_ne_zero]

namespace Value

/-- A number that is not below zero. -/
def FromZero (v : Value) : Prop := ∃ m, v.magnitude? = some m ∧ ¬m.BelowZero

theorem fromZero_iff {v : Value} {m : Magnitude} (h : v.magnitude? = some m) :
    v.FromZero ↔ ¬m.BelowZero := by
  simp [FromZero, h]

theorem not_fromZero_of_no_number {v : Value} (h : v.magnitude? = none) : ¬v.FromZero := by
  simp [FromZero, h]

theorem fromZero_of_whole {v : Value} {n : Int} (h : v.magnitude? = some (.exact n)) :
    v.FromZero ↔ 0 ≤ n := by
  rw [fromZero_iff h, Magnitude.BelowZero, not_lt, Rat.intCast_nonneg]

/-- What the check of a page lets pass is a number that is not below zero. -/
theorem isNegative_eq_false_iff {v : Value} : v.isNegative = .ok false ↔ v.FromZero := by
  cases v with
  | bool b => exact iff_of_true rfl ((fromZero_of_whole rfl).mpr (by cases b <;> decide))
  | int n => rw [fromZero_of_whole rfl, isNegative, Except.ok.injEq, decide_eq_false_iff_not, not_lt]
  | float x => rw [fromZero_iff rfl, isNegative, Except.ok.injEq, x.isNegative_eq_false_iff]
  | matchMode m => exact iff_of_true rfl ((fromZero_of_whole rfl).mpr (Int.natCast_nonneg _))
  | sortMode m => exact iff_of_true rfl ((fromZero_of_whole rfl).mpr (Int.natCast_nonneg _))
  | _ => exact iff_of_false nofun (not_fromZero_of_no_number rfl)

theorem fromZero_of_checkPage {limit offset : Value}
    (h : Builder.checkPage limit offset = .ok ()) : limit.FromZero ∧ offset.FromZero := by
  rw [Builder.checkPage, bind_eq_ok_iff] at h
  obtain ⟨l, hl, h⟩ := h
  cases l with
  | true => cases h
  | false =>
    obtain ⟨o, ho, h⟩ := bind_eq_ok_iff.mp h
    cases o with
    | true => cases h
    | false => exact ⟨isNegative_eq_false_iff.mp hl, isNegative_eq_false_iff.mp ho⟩

end Value

namespace Query

/-- What holds of every query that a builder gives. -/
structure Sound (q : Query) : Prop where
  limit : q.limit = .null ∨ q.limit.FromZero
  offset : q.offset.FromZero
  order : q.sortField ≠ .null → ∃ m, q.sortMode = .sortMode m
  filters : ∀ g ∈ q.filters, g.Sound
  names : q.fieldWeights.Distinct

/-- The parts that a query is made of once more. -/
def parts (q : Query) : Parts where
  index := q.index
  search := q.search
  searchFields := .list q.searchFields
  limit := q.limit
  offset := q.offset
  sortField := q.sortField
  sortMode := q.sortMode
  fieldWeights := .list (q.fieldWeights.map fun e => .list [e.1, e.2])
  filters := q.filters
  matchMode := q.matchMode

end Query

/-- The setting adds a filter on the subject of the group. -/
def Setting.FiltersOn (s : Setting) (g : Filter.Group) : Prop :=
  ∃ values flags, s = .filter g.subject.value values flags

namespace Builder

theorem mem_filters_set {b : Builder} {s : Setting} {g : Filter.Group}
    (h : g ∈ (b.set s).1.filters) : g ∈ b.filters ∨ s.FiltersOn g := by
  cases s with
  | search text fields =>
    rw [set] at h
    cases hf : fields.items <;> rw [hf] at h <;> exact .inl h
  | limit limit offset =>
    rw [set] at h
    cases hc : checkPage limit offset <;> rw [hc] at h <;> exact .inl h
  | fieldWeight name weight =>
    rw [set] at h
    split at h <;> exact .inl h
  | filter attr values flags =>
    rw [set] at h
    cases made : Filter.Group.of attr values flags with
    | error f =>
      rw [made] at h
      exact .inl h
    | ok k =>
      rw [made] at h
      rcases List.mem_append.mp h with before | new
      · exact .inl before
      · obtain rfl := List.mem_singleton.mp new
        obtain rfl := Filter.Group.value_subject_of made
        exact .inr ⟨values, flags, rfl⟩
  | _ => exact .inl h

theorem mem_filters_setAll {b : Builder} {ss : List Setting} {g : Filter.Group}
    (h : g ∈ (b.setAll ss).filters) : g ∈ b.filters ∨ ∃ s ∈ ss, s.FiltersOn g := by
  induction ss generalizing b with
  | nil => exact .inl h
  | cons s ss ih =>
    rcases ih (b := (b.set s).1) h with before | ⟨s', after, on⟩
    · rcases mem_filters_set before with before | on
      · exact .inl before
      · exact .inr ⟨s, List.mem_cons_self, on⟩
    · exact .inr ⟨s', List.mem_cons_of_mem s after, on⟩

theorem Seed.filters {b : Builder} (h : b.Seed) : b.filters = [] := by
  rcases h with rfl | ⟨d, hd⟩
  · rfl
  · rw [ofDefaults, setEach_eq_ok_iff] at hd
    rw [List.eq_nil_iff_forall_not_mem, ← hd.2]
    intro g hg
    rcases mem_filters_setAll hg with before | ⟨s, hs, values, flags, rfl⟩
    · cases before
    · simp only [Defaults.settings, List.mem_append, List.mem_map] at hs
      rcases hs with ((index | page) | ⟨e, -, weight⟩) | mode
      · split at index <;> simp at index
      · split at page <;> simp at page
      · cases weight
      · split at mode <;> simp at mode

theorem sound_new : ({} : Builder).snapshot.Sound where
  limit := .inl rfl
  offset := (Value.fromZero_of_whole rfl).mpr le_rfl
  order := fun h => absurd rfl h
  filters := nofun
  names := by simp [snapshot, Entries.Distinct, Entries.keys, Entries.names]

/-- A setting that is refused half-way has put its search text in place and nothing else. -/
theorem sound_set {b : Builder} (h : b.snapshot.Sound) (s : Setting) :
    (b.set s).1.snapshot.Sound := by
  have names := set_distinct (b := b) h.names s
  cases s with
  | index name => exact ⟨h.limit, h.offset, h.order, h.filters, names⟩
  | search text fields =>
    rw [set]
    cases fields.items <;> exact ⟨h.limit, h.offset, h.order, h.filters, h.names⟩
  | limit limit offset =>
    rw [set]
    cases checked : checkPage limit offset with
    | ok _ =>
      obtain ⟨hl, ho⟩ := Value.fromZero_of_checkPage checked
      exact ⟨.inr hl, ho, h.order, h.filters, h.names⟩
    | error f => exact h
  | order attr descending => exact ⟨h.limit, h.offset, fun _ => ⟨_, rfl⟩, h.filters, names⟩
  | orderExpr expr => exact ⟨h.limit, h.offset, fun _ => ⟨_, rfl⟩, h.filters, names⟩
  | fieldWeight name weight =>
    rw [set] at names ⊢
    split
    · next hashable =>
      rw [if_pos hashable] at names
      exact ⟨h.limit, h.offset, h.order, h.filters, names⟩
    · exact h
  | filter attr values flags =>
    rw [set]
    cases made : Filter.Group.of attr values flags with
    | ok g =>
      have sound : g.Sound := Filter.Group.Made.sound ⟨_, _, _, .inr made⟩
      have all := List.forall_mem_append.mpr ⟨h.filters, List.forall_mem_singleton.mpr sound⟩
      exact ⟨h.limit, h.offset, h.order, all, h.names⟩
    | error f => exact h
  | matchMode mode => exact ⟨h.limit, h.offset, h.order, h.filters, names⟩

theorem sound_setAll {b : Builder} (h : b.snapshot.Sound) (ss : List Setting) :
    (b.setAll ss).snapshot.Sound := by
  induction ss generalizing b with
  | nil => exact h
  | cons s ss ih => exact ih (sound_set h s)

theorem Seed.sound {b : Builder} (h : b.Seed) : b.snapshot.Sound := by
  rcases h with rfl | ⟨d, hd⟩
  · exact sound_new
  · rw [ofDefaults, setEach_eq_ok_iff] at hd
    rw [← hd.2]
    exact sound_setAll sound_new _

end Builder

namespace Search

variable {σ : Type}

end Search

namespace Builder

end Builder

end Fulltext
