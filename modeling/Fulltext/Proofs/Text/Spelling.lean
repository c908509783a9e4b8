import Fulltext.Text.Blank
import Fulltext.Text.Upper
import Mathlib.Data.List.DropRight

namespace Fulltext.Text

variable {p : Char → Bool}

/-- Nothing goes from the front a second time. -/
theorem dropWhile_of_prefix {cs ds : List Char} (h : ds <+: cs.dropWhile p) :
    ds.dropWhile p = ds := by
  induction cs with
  | nil =>
    rw [List.prefix_nil.mp h]
    rfl
  | cons c cs ih =>
    by_cases hc : p c = true
    · rw [List.dropWhile_cons_of_pos hc] at h
      exact ih h
    · rw [List.dropWhile_cons_of_neg hc] at h
      cases ds with
      | nil => rfl
      | cons d ds =>
        obtain ⟨rfl, -⟩ := List.cons_prefix_cons.mp h
        exact List.dropWhile_cons_of_neg hc

theorem stripChars_stripChars (cs : List Char) :
    stripChars p (stripChars p cs) = stripChars p cs := by
  have front : (stripChars p cs).dropWhile p = stripChars p cs :=
    dropWhile_of_prefix (List.rdropWhile_prefix ..)
  have back : List.rdropWhile p (stripChars p cs) = stripChars p cs :=
    List.rdropWhile_idempotent ..
  calc stripChars p (stripChars p cs)
      = List.rdropWhile p ((stripChars p cs).dropWhile p) := rfl
    _ = stripChars p cs := by rw [front, back]

theorem trim_trim (s : String) : trim (trim s) = trim s := by
  rw [trim, trim, String.toList_ofList, stripChars_stripChars]

theorem dropWhile_of_none {cs : List Char} (h : ∀ c ∈ cs, p c = false) : cs.dropWhile p = cs := by
  cases cs with
  | nil => rfl
  | cons c cs =>
    have stays : ¬p c = true := by simp [h c List.mem_cons_self]
    exact List.dropWhile_cons_of_neg stays

/-- Of a text between characters that go, the text is left if it has no such character. -/
theorem stripChars_between {before cs after : List Char} (blank : ∀ c ∈ before ++ after, p c = true)
    (solid : ∀ c ∈ cs, p c = false) : stripChars p (before ++ cs ++ after) = cs := by
  obtain ⟨hb, ha⟩ := List.forall_mem_append.mp blank
  rw [stripChars, List.append_assoc, List.dropWhile_append_of_pos hb]
  cases cs with
  | nil =>
    have gone : after.dropWhile p = [] := (dropWhile_eq_nil_iff p after).mpr ha
    rw [List.nil_append, gone]
    rfl
  | cons c cs =>
    have first : ¬p c = true := by simp [solid c List.mem_cons_self]
    have back : ∀ d ∈ after.reverse, p d = true := fun d hd => ha d (List.mem_reverse.mp hd)
    have kept : ∀ d ∈ (c :: cs).reverse, p d = false :=
      fun d hd => solid d (List.mem_reverse.mp hd)
    rw [List.cons_append, List.dropWhile_cons_of_neg first, ← List.cons_append, List.reverse_append,
      List.dropWhile_append_of_pos back, dropWhile_of_none kept, List.reverse_reverse]

theorem ascii_of_toUpper {c : Char} (h : c.toUpper.toNat < 128) : c.toNat < 128 := by
  by_cases lower : 'a'.val ≤ c.val ∧ c.val ≤ 'z'.val
  · have below : c.toNat ≤ 'z'.toNat := lower.2
    exact Nat.lt_of_le_of_lt below (by decide)
  · have kept : c.toUpper = c := dif_neg lower
    rwa [kept] at h

theorem upperChar_of_ascii {c : Char} (h : c.toNat < 128) : upperChar c = [c.toUpper] := by
  have each : ∀ n : Fin 128, upperChar (Char.ofNat n) = [(Char.ofNat n).toUpper] := by decide
  simpa using each ⟨c.toNat, h⟩

theorem isBlank_of_toUpper {c : Char} (h : c.toNat < 128) (solid : isBlank c.toUpper = false) :
    isBlank c = false := by
  have each : ∀ n : Fin 128, isBlank (Char.ofNat n).toUpper = false →
      isBlank (Char.ofNat n) = false := by decide
  simpa using each ⟨c.toNat, h⟩ (by simpa using solid)

/-- A name of ASCII characters without blanks is read from letters of either case between blanks. -/
theorem upper_trim_of_letters {before letters after : List Char} {name : String}
    (blank : ∀ c ∈ before ++ after, isBlank c = true)
    (spelled : letters.map Char.toUpper = name.toList)
    (plain : ∀ c ∈ name.toList, c.toNat < 128 ∧ isBlank c = false) :
    upper (trim (String.ofList (before ++ letters ++ after))) = name := by
  have raised : ∀ c ∈ letters, c.toUpper.toNat < 128 ∧ isBlank c.toUpper = false := by
    intro c hc
    exact plain _ (spelled ▸ List.mem_map_of_mem hc)
  have ascii : ∀ c ∈ letters, c.toNat < 128 := fun c hc => ascii_of_toUpper (raised c hc).1
  have solid : ∀ c ∈ letters, isBlank c = false :=
    fun c hc => isBlank_of_toUpper (ascii c hc) (raised c hc).2
  have each : letters.flatMap upperChar = letters.map Char.toUpper := by
    rw [List.map_eq_flatMap]
    exact List.flatMap_congr fun c hc => upperChar_of_ascii (ascii c hc)
  rw [trim, String.toList_ofList, stripChars_between blank solid, upper, String.toList_ofList, each,
    spelled, String.ofList_toList]

end Fulltext.Text
