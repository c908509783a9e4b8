import Fulltext.Filter.Group

namespace Fulltext.Filter

theorem lt_two_pow_bitLength (n : Nat) : n < Nat.pow 2 (bitLength n) := by
  rw [bitLength]
  split
  · next zero => simp [zero]
  · exact Nat.lt_log2_self

theorem bitLength_le {n k : Nat} (h : n < Nat.pow 2 k) : bitLength n ≤ k := by
  rw [bitLength]
  split
  · exact Nat.zero_le k
  · next positive => exact (Nat.log2_lt positive).mpr h

theorem normalFlags_of_nonneg {n : Int} (h : 0 ≤ n) : normalFlags n = n := by
  have kept : keepBits n = n := by
    rw [keepBits]
    split
    · rfl
    · exact if_neg (by omega)
  rw [normalFlags, kept, if_neg (by omega)]

/-- Three bits and a sign hold the number, so it counts down from eight. -/
theorem normalFlags_of_short {n : Int} (least : -8 ≤ n) (below : n < 0) : normalFlags n = 8 + n := by
  have kept : keepBits n = n := if_pos ⟨least, by omega⟩
  rw [normalFlags, kept, if_pos below]

theorem eight_dvd_two_pow_bitLength {n : Nat} (h : 8 ≤ n) : 8 ∣ Nat.pow 2 (bitLength n) := by
  have exceeded := lt_two_pow_bitLength n
  have digits : 3 ≤ bitLength n := by
    refine Nat.le_of_not_lt fun few => ?_
    have small : Nat.pow 2 (bitLength n) ≤ Nat.pow 2 3 :=
      Nat.pow_le_pow_right Nat.two_pos (Nat.le_of_lt few)
    have eight : Nat.pow 2 3 = 8 := rfl
    omega
  exact Nat.pow_dvd_pow 2 digits

/-- A longer number counts down from the power of two that exceeds its magnitude, so it does not come
below zero. -/
theorem normalFlags_of_long {n : Int} (h : n < -8) :
    normalFlags n = (Nat.pow 2 (bitLength n.natAbs) : Nat) + n := by
  have exceeded := lt_two_pow_bitLength n.natAbs
  have divides := eight_dvd_two_pow_bitLength (n := n.natAbs) (by omega)
  have most : max 8 (Nat.pow 2 (bitLength n.natAbs)) = Nat.pow 2 (bitLength n.natAbs) :=
    Nat.max_eq_right (Nat.le_of_dvd (by omega) divides)
  have kept : keepBits n = (Nat.pow 2 (bitLength n.natAbs) : Nat) + n := by
    rw [keepBits, if_neg (by omega), if_pos (by omega), most]
  rw [normalFlags, kept]
  exact if_neg (by omega)

theorem normalFlags_cases (n : Int) :
    (0 ≤ n ∧ normalFlags n = n) ∨ (-8 ≤ n ∧ n < 0 ∧ normalFlags n = 8 + n) ∨
      (n < -8 ∧ normalFlags n = (Nat.pow 2 (bitLength n.natAbs) : Nat) + n) := by
  by_cases fromZero : 0 ≤ n
  · exact .inl ⟨fromZero, normalFlags_of_nonneg fromZero⟩
  · have below : n < 0 := Int.not_le.mp fromZero
    by_cases least : -8 ≤ n
    · exact .inr (.inl ⟨least, below, normalFlags_of_short least below⟩)
    · have long : n < -8 := Int.not_le.mp least
      exact .inr (.inr ⟨long, normalFlags_of_long long⟩)

theorem normalFlags_nonneg (n : Int) : 0 ≤ normalFlags n := by
  have exceeded := lt_two_pow_bitLength n.natAbs
  rcases normalFlags_cases n with ⟨fromZero, kept⟩ | ⟨least, -, short⟩ | ⟨-, long⟩
  · rwa [kept]
  · rw [short]
    omega
  · rw [long]
    omega

theorem flagsOf_int (n : Int) : flagsOf (.int n) = .ok (normalFlags n) := by
  have number : (Value.orElse (.int n) (.int 0)).toInt = .ok n := by
    rw [Value.orElse]
    split
    · rfl
    · next unset =>
      have zero : n = 0 := by simpa [Value.isSet] using unset
      rw [zero]
      rfl
  rw [flagsOf, number]
  rfl

theorem flagsOf_of_nonneg {n : Int} (h : 0 ≤ n) : flagsOf (.int n) = .ok n := by
  rw [flagsOf_int, normalFlags_of_nonneg h]

theorem nonneg_of_flagsOf {v : Value} {n : Int} (h : flagsOf v = .ok n) : 0 ≤ n := by
  obtain ⟨k, -, hk⟩ := bind_eq_ok_iff.mp h
  cases hk
  exact normalFlags_nonneg k

theorem Attribute.checked_eq_ok_iff {a b : Attribute} :
    b.checked = .ok a ↔ b = a ∧ a.isBlank = false := by
  rw [checked]
  cases blank : b.isBlank with
  | true =>
    refine iff_of_false nofun ?_
    rintro ⟨rfl, solid⟩
    rw [blank] at solid
    cases solid
  | false =>
    constructor
    · intro h
      cases h
      exact ⟨rfl, blank⟩
    · rintro ⟨rfl, -⟩
      rfl

/-- What is unset is blank as well. -/
theorem attributeOf_value (a : Attribute) : attributeOf a.value = a.checked := by
  cases a with
  | text name =>
    by_cases empty : name = ""
    · rw [empty]
      rfl
    · exact if_pos (by simpa [Attribute.value, Value.isSet] using empty)
  | bytes content => cases content <;> rfl

theorem value_of_attributeOf {v : Value} {a : Attribute} (h : attributeOf v = .ok a) :
    ∃ b : Attribute, v = b.value := by
  cases v with
  | text name => exact ⟨.text name, rfl⟩
  | foreign x =>
    cases x with
    | bytes content => exact ⟨.bytes content, rfl⟩
    | time _ => cases h
  | _ =>
    simp only [attributeOf] at h
    split at h <;> cases h

theorem attributeOf_eq_ok_iff {v : Value} {a : Attribute} :
    attributeOf v = .ok a ↔ v = a.value ∧ a.isBlank = false := by
  constructor
  · intro h
    obtain ⟨b, rfl⟩ := value_of_attributeOf h
    rw [attributeOf_value, Attribute.checked_eq_ok_iff] at h
    exact ⟨congrArg _ h.1, h.2⟩
  · rintro ⟨rfl, solid⟩
    rw [attributeOf_value, Attribute.checked_eq_ok_iff]
    exact ⟨rfl, solid⟩

namespace Group

theorem make_eq_ok_iff {attr values flags : Value} {g : Group} :
    make attr values flags = .ok g ↔
      attributeOf attr = .ok g.subject ∧ values.items = .ok g.values ∧ g.values ≠ [] ∧
        flagsOf flags = .ok g.flags := by
  rw [make, bind_eq_ok_iff]
  constructor
  · rintro ⟨name, hname, h⟩
    obtain ⟨vs, hvs, h⟩ := bind_eq_ok_iff.mp h
    cases vs with
    | nil => cases h
    | cons v vs =>
      obtain ⟨n, hn, hg⟩ := bind_eq_ok_iff.mp h
      obtain rfl : (⟨name, v :: vs, n⟩ : Group) = g := Except.ok.inj hg
      exact ⟨hname, hvs, List.cons_ne_nil v vs, hn⟩
  · rintro ⟨hname, hvs, hne, hn⟩
    refine ⟨_, hname, bind_eq_ok_iff.mpr ⟨_, hvs, ?_⟩⟩
    rw [if_neg (by simpa using hne)]
    exact bind_eq_ok_iff.mpr ⟨_, hn, rfl⟩

theorem of_eq_ok_iff {attr values flags : Value} {g : Group} :
    of attr values flags = .ok g ↔
      ∃ vs n, values.items = .ok vs ∧ flagsOf flags = .ok n ∧
        make attr (.list vs) (.int n) = .ok g := by
  simp only [of, bind_eq_ok_iff]
  constructor
  · rintro ⟨vs, hvs, n, hn, hg⟩
    exact ⟨vs, n, hvs, hn, hg⟩
  · rintro ⟨vs, n, hvs, hn, hg⟩
    exact ⟨vs, hvs, n, hn, hg⟩

theorem value_subject_of {attr values flags : Value} {g : Group} (h : of attr values flags = .ok g) :
    attr = g.subject.value := by
  obtain ⟨vs, n, -, -, made⟩ := of_eq_ok_iff.mp h
  exact (attributeOf_eq_ok_iff.mp (make_eq_ok_iff.mp made).1).1

/-- The group is one that can be built. -/
def Made (g : Group) : Prop :=
  ∃ attr values flags, make attr values flags = .ok g ∨ of attr values flags = .ok g

theorem Made.values_ne_nil {g : Group} (h : g.Made) : g.values ≠ [] := by
  obtain ⟨attr, values, flags, hm | ho⟩ := h
  · exact (make_eq_ok_iff.mp hm).2.2.1
  · obtain ⟨vs, n, -, -, hm⟩ := of_eq_ok_iff.mp ho
    exact (make_eq_ok_iff.mp hm).2.2.1

/-- What a group is used for relies on this. -/
structure Sound (g : Group) : Prop where
  subject : g.subject.isBlank = false
  values : g.values ≠ []
  flags : 0 ≤ g.flags
  remade : make g.subject.value (.list g.values) (.int g.flags) = .ok g

theorem sound_of_make {attr values flags : Value} {g : Group}
    (h : make attr values flags = .ok g) : g.Sound := by
  obtain ⟨hattr, -, full, hflags⟩ := make_eq_ok_iff.mp h
  have solid := (attributeOf_eq_ok_iff.mp hattr).2
  have fromZero := nonneg_of_flagsOf hflags
  have named : attributeOf g.subject.value = .ok g.subject :=
    attributeOf_eq_ok_iff.mpr ⟨rfl, solid⟩
  exact ⟨solid, full, fromZero,
    make_eq_ok_iff.mpr ⟨named, rfl, full, flagsOf_of_nonneg fromZero⟩⟩

theorem Made.sound {g : Group} (h : g.Made) : g.Sound := by
  obtain ⟨attr, values, flags, hm | ho⟩ := h
  · exact sound_of_make hm
  · obtain ⟨vs, n, -, -, hm⟩ := of_eq_ok_iff.mp ho
    exact sound_of_make hm

end Group

end Fulltext.Filter
