import Fulltext.Path

namespace Fulltext.Path

/-- An ending without a slash goes to the last part. -/
theorem split_append {ending : List Char} (h : '/' ∉ ending) (part cs : List Char) :
    ∃ front last, split part cs = front ++ [last] ∧
      split part (cs ++ ending) = front ++ [last ++ ending] := by
  have alone : ∀ (es part : List Char), '/' ∉ es → split part es = [part.reverse ++ es] := by
    intro es
    induction es with
    | nil =>
      intro part _
      rw [split, List.append_nil]
    | cons e es ih =>
      intro part h
      rw [List.mem_cons, not_or] at h
      rw [split, if_neg (Ne.symm h.1), ih _ h.2, List.reverse_cons, List.append_assoc]
      rfl
  induction cs generalizing part with
  | nil => exact ⟨[], part.reverse, by rw [split]; rfl, alone ending part h⟩
  | cons c cs ih =>
    by_cases slash : c = '/'
    · obtain ⟨front, last, short, long⟩ := ih []
      refine ⟨part.reverse :: front, last, ?_, ?_⟩
      · rw [split, if_pos slash, short]
        rfl
      · rw [List.cons_append, split, if_pos slash, long]
        rfl
    · obtain ⟨front, last, short, long⟩ := ih (c :: part)
      refine ⟨front, last, ?_, ?_⟩
      · rw [split, if_neg slash, short]
      · rw [List.cons_append, split, if_neg slash, long]

/-- A part that counts. -/
def isNamed (part : String) : Bool := part != "" && part != "."

theorem parts_ofText (s : String) :
    (ofText s).parts = ((split [] s.toList).map String.ofList).filter isNamed := rfl

theorem isNamed_of_long {part : String} (h : 2 ≤ part.length) : isNamed part = true := by
  have other : ∀ short : String, short.length < 2 → part ≠ short := by
    rintro short hs rfl
    omega
  simp [isNamed, other "" (by decide), other "." (by decide)]

theorem parts_append (s : String) {ending : String} (h : '/' ∉ ending.toList)
    (long : 2 ≤ ending.length) :
    ∃ front last, (ofText s).parts = front ++ (if isNamed last then [last] else []) ∧
      (ofText (s ++ ending)).parts = front ++ [last ++ ending] := by
  obtain ⟨front, last, short, whole⟩ := split_append h [] s.toList
  have named : isNamed (String.ofList last ++ ending) = true := by
    refine isNamed_of_long ?_
    rw [String.length_append]
    omega
  refine ⟨(front.map String.ofList).filter isNamed, String.ofList last, ?_, ?_⟩
  · rw [parts_ofText, short, List.map_append, List.filter_append, List.map_singleton,
      List.filter_cons, List.filter_nil]
  · rw [parts_ofText, String.toList_append, whole, List.map_append, List.filter_append,
      List.map_singleton, String.ofList_append, String.ofList_toList,
      List.filter_cons_of_pos named]
    rfl

theorem rootSlashes_eq_zero_iff (cs : List Char) : rootSlashes cs = 0 ↔ cs.head? ≠ some '/' := by
  unfold rootSlashes
  split
  · simp
  · simp
  · simp
  · next other =>
    refine iff_of_true rfl fun first => ?_
    obtain ⟨rest, rfl⟩ := List.head?_eq_some_iff.mp first
    exact other rest rfl

theorem slashes_append {s ending : String} (hs : (ofText s).slashes = 0)
    (h : '/' ∉ ending.toList) : (ofText (s ++ ending)).slashes = 0 := by
  rw [ofText, rootSlashes_eq_zero_iff] at hs ⊢
  rw [String.toList_append]
  cases hcs : s.toList with
  | nil =>
    rw [List.nil_append]
    exact fun first => h (List.mem_of_mem_head? first)
  | cons c cs => simpa [hcs] using hs

theorem slash_not_mem_split (part cs : List Char) (h : '/' ∉ part) :
    ∀ p ∈ split part cs, '/' ∉ p := by
  induction cs generalizing part with
  | nil => simpa [split] using h
  | cons c cs ih =>
    rw [split]
    split
    · rw [List.forall_mem_cons]
      exact ⟨by simpa using h, ih [] nofun⟩
    · next other => exact ih _ (by simp [h, Ne.symm other])

theorem slash_not_mem_part {s part : String} (h : part ∈ (ofText s).parts) :
    '/' ∉ part.toList := by
  rw [parts_ofText, List.mem_filter, List.mem_map] at h
  obtain ⟨⟨cs, hcs, rfl⟩, -⟩ := h
  rw [String.toList_ofList]
  exact slash_not_mem_split [] _ nofun cs hcs

theorem intercalate_append (sep : String) {ps : List String} (h : ps ≠ []) (qs : List String) :
    ∃ rest, sep.intercalate (ps ++ qs) = sep.intercalate ps ++ rest := by
  induction ps with
  | nil => exact absurd rfl h
  | cons p ps ih =>
    cases ps with
    | nil =>
      cases qs with
      | nil => exact ⟨"", by simp⟩
      | cons q qs => exact ⟨sep ++ sep.intercalate (q :: qs), by
          rw [List.singleton_append, String.intercalate_cons_cons, String.intercalate_singleton,
            String.append_assoc]⟩
    | cons p' ps =>
      obtain ⟨rest, hrest⟩ := ih (List.cons_ne_nil p' ps)
      refine ⟨rest, ?_⟩
      rw [List.cons_append] at hrest
      rw [List.cons_append, List.cons_append, String.intercalate_cons_cons, hrest,
        String.intercalate_cons_cons, String.append_assoc, String.append_assoc, String.append_assoc]

/-- The text of a relative path goes on where one that it begins with ends. -/
theorem text_append {ps : List String} (h : ps ≠ []) (qs : List String) :
    ∃ rest, (⟨0, ps ++ qs⟩ : Path).text = (⟨0, ps⟩ : Path).text ++ rest := by
  obtain ⟨rest, hrest⟩ := intercalate_append "/" h qs
  refine ⟨rest, ?_⟩
  rw [text, text, if_neg (by simp [h]), if_neg (by simp [h]), hrest, String.append_assoc]

end Fulltext.Path
