import Fulltext.Proofs.Filter.Distinct
import Mathlib.Data.Int.Bitwise
import Mathlib.Tactic.IntervalCases

namespace Fulltext.Filter

theorem bit_eq_testBit (n : Int) (i : Nat) : bit n i = n.testBit i := by
  cases n with
  | ofNat n =>
    have shifted : (Int.ofNat n) >>> i = ((n >>> i : Nat) : Int) := rfl
    rw [bit, shifted, Int.testBit, Nat.testBit_eq_decide_div_mod_eq, Nat.shiftRight_eq_div_pow,
      Bool.eq_iff_iff, beq_iff_eq, decide_eq_true_iff]
    omega
  | negSucc m =>
    have shifted : (Int.negSucc m) >>> i = Int.negSucc (m >>> i) := rfl
    rw [bit, shifted, Int.testBit, Nat.testBit_eq_decide_div_mod_eq, Nat.shiftRight_eq_div_pow,
      Bool.eq_iff_iff, beq_iff_eq, Bool.not_eq_true', decide_eq_false_iff_not]
    omega

theorem normalFlags_emod (n : Int) : normalFlags n % 8 = n % 8 := by
  rcases normalFlags_cases n with ⟨-, kept⟩ | ⟨-, -, short⟩ | ⟨below, long⟩
  · rw [kept]
  · rw [short]
    omega
  · have divides := eight_dvd_two_pow_bitLength (n := n.natAbs) (by omega)
    rw [long]
    generalize Nat.pow 2 (bitLength n.natAbs) = power at divides
    omega

/-- Counting down from a power of two that exceeds the magnitude, and from eight if that is more,
agrees with the flags at every number but the least that three bits and a sign hold. -/
theorem normalFlags_eq (n : Int) : normalFlags n =
    if 0 ≤ n then n else if n = -8 then 0
    else (max 8 (Nat.pow 2 (bitLength n.natAbs)) : Nat) + n := by
  rcases normalFlags_cases n with ⟨fromZero, kept⟩ | ⟨least, below, short⟩ | ⟨below, long⟩
  · rw [if_pos fromZero, kept]
  · rw [if_neg (by omega), short]
    split
    · next lowest => omega
    · next higher =>
      have digits : bitLength n.natAbs ≤ 3 := bitLength_le (show n.natAbs < 8 by omega)
      have power : Nat.pow 2 (bitLength n.natAbs) ≤ 8 := Nat.pow_le_pow_right Nat.two_pos digits
      rw [Nat.max_eq_left power]
      rfl
  · have divides := eight_dvd_two_pow_bitLength (n := n.natAbs) (by omega)
    have positive : 0 < Nat.pow 2 (bitLength n.natAbs) := Nat.pow_pos Nat.two_pos
    rw [if_neg (by omega), if_neg (by omega),
      Nat.max_eq_right (Nat.le_of_dvd positive divides), long]

/-- Numbers that agree modulo eight agree in the three lowest bits. -/
theorem bit_of_emod {n k : Int} (h : n % 8 = k % 8) {i : Nat} (low : i < 3) : bit n i = bit k i := by
  have parity : n >>> i % 2 = k >>> i % 2 := by
    rw [Int.shiftRight_eq_div_pow, Int.shiftRight_eq_div_pow]
    interval_cases i <;> omega
  rw [bit, bit, parity]

theorem bit_normalFlags (n : Int) {i : Nat} (low : i < 3) : bit (normalFlags n) i = n.testBit i := by
  rw [bit_of_emod (normalFlags_emod n) low, bit_eq_testBit]

namespace Group

/-- Reading the values and the flags first makes no other group. -/
theorem of_eq_ok_iff_make {attr values flags : Value} {g : Group} :
    of attr values flags = .ok g ↔ make attr values flags = .ok g := by
  rw [of_eq_ok_iff, make_eq_ok_iff]
  constructor
  · rintro ⟨vs, n, listed, number, made⟩
    obtain ⟨named, same, full, again⟩ := make_eq_ok_iff.mp made
    rw [flagsOf_of_nonneg (nonneg_of_flagsOf number)] at again
    obtain rfl := Except.ok.inj same
    obtain rfl := Except.ok.inj again
    exact ⟨named, listed, full, number⟩
  · rintro ⟨named, listed, full, number⟩
    have made : make attr (.list g.values) (.int g.flags) = .ok g :=
      make_eq_ok_iff.mpr ⟨named, rfl, full, flagsOf_of_nonneg (nonneg_of_flagsOf number)⟩
    exact ⟨g.values, g.flags, listed, number, made⟩

theorem make_numbered {a : Attribute} (named : a.isBlank = false) {values : Value}
    {vs : List Value} (listed : values.items = .ok vs) (full : vs ≠ []) (n : Int) :
    make a.value values (.int n) = .ok ⟨a, vs, normalFlags n⟩ :=
  make_eq_ok_iff.mpr ⟨attributeOf_eq_ok_iff.mpr ⟨rfl, named⟩, listed, full, flagsOf_int n⟩

/-- What a group shows of its flags are the three lowest bits. -/
theorem shown_of_emod {n k : Int} (h : n % 8 = k % 8) (a : Attribute) (vs : List Value) :
    shown ⟨a, vs, normalFlags n⟩ = shown ⟨a, vs, normalFlags k⟩ := by
  have same : normalFlags n % 8 = normalFlags k % 8 := by
    rw [normalFlags_emod, normalFlags_emod, h]
  simp only [shown, factor, attr, exclude, everyValue, alternative,
    bit_of_emod same (i := 0) (by decide), bit_of_emod same (i := 1) (by decide),
    bit_of_emod same (i := 2) (by decide)]

end Group

/-- A number given as flags is kept if it is not below zero and else counts down from a power of two
that exceeds it, except that eight below zero stands for no flags. Its three lowest bits say all that
the group means and shows, and both ways to build a group give the same one. -/
theorem numbered_flags_keep_low_bits (a : Attribute) (named : a.isBlank = false) (values : Value)
    (vs : List Value) (listed : values.items = .ok vs) (full : vs ≠ []) :
    (∀ n : Int, ∃ g : Group, Group.of a.value values (.int n) = .ok g ∧
      Group.make a.value values (.int n) = .ok g ∧ g.subject = a ∧ g.values = vs ∧ 0 ≤ g.flags ∧
      g.flags = (if 0 ≤ n then n else if n = -8 then 0
        else (max 8 (Nat.pow 2 (bitLength n.natAbs)) : Nat) + n) ∧
      flagsOf (.int g.flags) = .ok g.flags ∧ g.exclude = n.testBit 0 ∧
      g.everyValue = n.testBit 1 ∧ g.alternative = n.testBit 2) ∧
    (∀ (n k : Int) (g h : Group), n % 8 = k % 8 →
      Group.of a.value values (.int n) = .ok g → Group.of a.value values (.int k) = .ok h →
      ∀ before after, expression (before ++ g :: after) = expression (before ++ h :: after)) ∧
    ∀ (attr values flags : Value) (g : Group),
      Group.of attr values flags = .ok g ↔ Group.make attr values flags = .ok g := by
  have built : ∀ n : Int, Group.of a.value values (.int n) = .ok ⟨a, vs, normalFlags n⟩ :=
    fun n => Group.of_eq_ok_iff_make.mpr (Group.make_numbered named listed full n)
  refine ⟨fun n => ?flags, ?text, fun _ _ _ _ => Group.of_eq_ok_iff_make⟩
  case flags =>
    have fromZero := normalFlags_nonneg n
    exact ⟨_, built n, Group.make_numbered named listed full n, rfl, rfl, fromZero,
      normalFlags_eq n, flagsOf_of_nonneg fromZero, bit_normalFlags n (by decide),
      bit_normalFlags n (by decide), bit_normalFlags n (by decide)⟩
  case text =>
    intro n k g h same hg hh before after
    obtain rfl := Except.ok.inj ((built n).symm.trans hg)
    obtain rfl := Except.ok.inj ((built k).symm.trans hh)
    apply expression_of_shown
    rw [List.map_append, List.map_append, List.map_cons, List.map_cons,
      Group.shown_of_emod same a vs]

/-- Three below zero counts down from eight, and thirteen, which agrees with it modulo eight, has the
unknown bit eight as well. -/
theorem numbered_flags_keep_low_bits_below_zero :
    let values : Value := .list [.int 1, .int 2]
    let g : Group := ⟨"lang", [.int 1, .int 2], 5⟩
    let h : Group := ⟨"lang", [.int 1, .int 2], 13⟩
    Attribute.isBlank "lang" = false ∧ values.items = .ok [.int 1, .int 2] ∧
    Group.of (.text "lang") values (.int (-3)) = .ok g ∧ g.exclude = true ∧
      g.everyValue = false ∧ g.alternative = true ∧
    Group.of (.text "lang") values (.int 13) = .ok h ∧
    expression [⟨"tag", [.text "a"], 0⟩, g] = expression [⟨"tag", [.text "a"], 0⟩, h] := by
  intro values g h
  have named : Attribute.isBlank "lang" = false := by decide
  obtain ⟨flags, text, -⟩ :=
    numbered_flags_keep_low_bits "lang" named values [.int 1, .int 2] rfl (List.cons_ne_nil _ _)
  have below : Group.of (.text "lang") values (.int (-3)) = .ok g := rfl
  have above : Group.of (.text "lang") values (.int 13) = .ok h := rfl
  obtain ⟨g', built, -, -, -, -, -, -, exclude, every, alternative⟩ := flags (-3)
  obtain rfl := Except.ok.inj (below.symm.trans built)
  exact ⟨named, rfl, below, exclude.trans rfl, every.trans rfl, alternative.trans rfl, above,
    text (-3) 13 g h (by decide) below above [⟨"tag", [.text "a"], 0⟩] []⟩

/-- Eight below zero is the least number that three bits and a sign hold, so it counts down from
eight, not from sixteen. -/
theorem flags_of_eight_below_zero : ∃ g : Group,
    Group.of (.text "lang") (.list [.int 1]) (.int (-8)) = .ok g ∧ g.flags = 0 ∧
      g.flags ≠ (max 8 (Nat.pow 2 (bitLength (Int.natAbs (-8)))) : Nat) + -8 :=
  ⟨⟨"lang", [.int 1], 0⟩, rfl, rfl, by decide⟩

end Fulltext.Filter
