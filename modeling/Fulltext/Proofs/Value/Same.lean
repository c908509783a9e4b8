import Fulltext.Value.Basic
import Mathlib.Algebra.Order.Ring.Unbundled.Rat
import Mathlib.Data.List.Forall2

namespace Fulltext

theorem Binary64.isZero_iff (x : Binary64) : x.isZero = true ↔ x.magnitude = .exact 0 := by
  cases x with
  | infinite s => simp [isZero, magnitude]
  | nan i => simp [isZero, magnitude]
  | finite s m e =>
    have powers : Nat.pow 2 (-e).toNat ≠ 0 := (Nat.pow_pos Nat.two_pos).ne'
    have up : Nat.pow 2 e.toNat ≠ 0 := (Nat.pow_pos Nat.two_pos).ne'
    have zero : mkRat (m * Nat.pow 2 e.toNat : Nat) (Nat.pow 2 (-e).toNat) = 0 ↔ m = 0 := by
      rw [Rat.mkRat_eq_zero powers, Int.natCast_eq_zero, Nat.mul_eq_zero]
      exact or_iff_left up
    simp only [isZero, magnitude, beq_iff_eq, Magnitude.exact.injEq, ← zero]
    cases s with
    | false => simp
    | true => simp

/-- Whether the values that are found by a key are set. -/
def Key.isSet : Key → Bool
  | null => false
  | number m => m != .exact 0
  | text s => s != ""
  | foreign x => x.isSet

namespace Value

theorem isSet_of_key? {v : Value} {k : Key} (h : v.key? = some k) : v.isSet = k.isSet := by
  cases v with
  | list items => cases h
  | map entries => cases h
  | null =>
    obtain rfl := Option.some.inj h
    rfl
  | text s =>
    obtain rfl := Option.some.inj h
    rfl
  | foreign x =>
    obtain rfl := Option.some.inj h
    rfl
  | bool b =>
    obtain rfl := Option.some.inj h
    cases b <;> rfl
  | int n =>
    obtain rfl := Option.some.inj h
    simp [isSet, Key.isSet, bne]
  | matchMode m =>
    obtain rfl := Option.some.inj h
    simp [isSet, Key.isSet, bne]
  | sortMode m =>
    obtain rfl := Option.some.inj h
    simp [isSet, Key.isSet, bne]
  | float x =>
    obtain rfl := Option.some.inj h
    have zero : x.isZero = (x.magnitude == .exact 0) := by
      rw [Bool.eq_iff_iff, beq_iff_eq]
      exact x.isZero_iff
    rw [isSet, zero]
    rfl

/-- Equal values are two lists, two mappings, or found by one key. -/
theorem same_cases {a b : Value} (h : a.same b = true) :
    (∃ xs ys, a = .list xs ∧ b = .list ys ∧ sameItems xs ys = true) ∨
    (∃ es fs, a = .map es ∧ b = .map fs ∧ es.length = fs.length) ∨
    ∃ k, a.key? = some k ∧ b.key? = some k := by
  fun_cases same a b with
  | case1 xs ys =>
    rw [same] at h
    exact .inl ⟨xs, ys, rfl, rfl, h⟩
  | case2 es fs =>
    rw [same, Bool.and_eq_true, beq_iff_eq] at h
    exact .inr (.inl ⟨es, fs, rfl, rfl, h.1⟩)
  | case3 a b notLists notMaps j k hb ha =>
    rw [same.eq_3 a b notLists notMaps, ha, hb] at h
    obtain rfl : j = k := by simpa using h
    exact .inr (.inr ⟨j, ha, hb⟩)
  | case4 a b notLists notMaps none =>
    rw [same.eq_3 a b notLists notMaps] at h
    split at h
    · next j k ha hb => exact absurd hb (none j k ha)
    · cases h

theorem forall₂_of_sameItems {xs ys : List Value} (h : sameItems xs ys = true) :
    List.Forall₂ (fun a b => a.same b = true) xs ys := by
  induction xs generalizing ys with
  | nil =>
    cases ys with
    | nil => exact .nil
    | cons y ys => cases h
  | cons x xs ih =>
    cases ys with
    | nil => cases h
    | cons y ys =>
      rw [sameItems, Bool.and_eq_true] at h
      exact .cons h.1 (ih h.2)

theorem isEmpty_of_length_eq {α β : Type} {xs : List α} {ys : List β} (h : xs.length = ys.length) :
    xs.isEmpty = ys.isEmpty := by
  rw [Bool.eq_iff_iff, List.isEmpty_iff_length_eq_zero, List.isEmpty_iff_length_eq_zero, h]

section

variable {a b : Value} (h : a.same b = true)

include h

theorem isSet_of_same : a.isSet = b.isSet := by
  rcases same_cases h with ⟨xs, ys, rfl, rfl, items⟩ | ⟨es, fs, rfl, rfl, length⟩ | ⟨k, ha, hb⟩
  · rw [isSet, isSet, isEmpty_of_length_eq (forall₂_of_sameItems items).length_eq]
  · rw [isSet, isSet, isEmpty_of_length_eq length]
  · rw [isSet_of_key? ha, isSet_of_key? hb]

theorem eq_null_iff_of_same : a = .null ↔ b = .null := by
  have unique : ∀ v : Value, v = .null ↔ v.key? = some .null := by
    intro v
    cases v <;> simp [key?, magnitude?]
  rcases same_cases h with ⟨xs, ys, rfl, rfl, -⟩ | ⟨es, fs, rfl, rfl, -⟩ | ⟨k, ha, hb⟩
  · exact iff_of_false nofun nofun
  · exact iff_of_false nofun nofun
  · rw [unique a, unique b, ha, hb]

theorem eq_text_iff_of_same (s : String) : a = .text s ↔ b = .text s := by
  have unique : ∀ v : Value, v = .text s ↔ v.key? = some (.text s) := by
    intro v
    cases v <;> simp [key?, magnitude?]
  rcases same_cases h with ⟨xs, ys, rfl, rfl, -⟩ | ⟨es, fs, rfl, rfl, -⟩ | ⟨k, ha, hb⟩
  · exact iff_of_false nofun nofun
  · exact iff_of_false nofun nofun
  · rw [unique a, unique b, ha, hb]

end

end Value

end Fulltext
