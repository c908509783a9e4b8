import Fulltext.Log.FileTree

namespace Fulltext.Log.FileTree

/-- Only the file that has been opened may be new, and then it is empty. -/
def Opened (l? : Option Location) (t t' : FileTree) : Prop :=
  ∀ l, t'.contents? l = if l? = some l then some ((t.contents? l).getD "") else t.contents? l

theorem Opened.of_files {t t' : FileTree} (h : t'.files = t.files) : Opened none t t' := by
  intro l
  simp [contents?, h]

theorem Opened.after {l? : Option Location} {t t' t'' : FileTree} (h : t'.files = t.files)
    (opened : Opened l? t' t'') : Opened l? t t'' := by
  intro l
  rw [opened l, contents?, contents?, h]

theorem contents?_append (t : FileTree) (l l' : Location) (text : String) :
    (t.append l text).contents? l' =
      if l' = l then (t.contents? l').map (· ++ text) else t.contents? l' := by
  obtain ⟨dirs, files⟩ := t
  simp only [append, contents?]
  induction files with
  | nil => simp
  | cons f files ih =>
    obtain ⟨l'', s⟩ := f
    by_cases hl : l'' = l'
    · subst hl
      by_cases h : l'' = l
      · simp [h]
      · simp [h]
    · have hu : (if l'' = l then (l'', s ++ text) else (l'', s)).1 = l'' := by split <;> rfl
      simpa [List.find?_cons, hl, hu] using ih

theorem isFile_iff (t : FileTree) (l : Location) : t.isFile l = (t.contents? l).isSome := by
  rw [isFile, contents?, Option.isSome_map, List.isSome_find?]

theorem Opened.of_isFile {t : FileTree} {l : Location} (h : t.isFile l = true) :
    Opened (some l) t t := by
  intro l'
  by_cases hl : some l = some l'
  · obtain rfl := Option.some.inj hl
    obtain ⟨text, there⟩ := Option.isSome_iff_exists.mp (isFile_iff t l ▸ h)
    rw [if_pos rfl, there, Option.getD_some]
  · rw [if_neg hl]

theorem Opened.of_new {t : FileTree} {l : Location} (h : ¬t.isFile l = true) :
    Opened (some l) t { t with files := t.files ++ [(l, "")] } := by
  intro l'
  have new : contents? { t with files := t.files ++ [(l, "")] } l' =
      (t.contents? l').or (if l = l' then some "" else none) := by
    simp only [contents?, List.find?_append, List.find?_singleton, beq_iff_eq, Option.map_or]
    split <;> rfl
  rw [new]
  by_cases hl : some l = some l'
  · obtain rfl := Option.some.inj hl
    have missing : t.contents? l = none := by simpa [isFile_iff] using h
    simp [missing]
  · rw [if_neg hl, if_neg fun e => hl (congrArg some e), Option.or_none]

theorem files_of_makeDir {t t' : FileTree} {p : Path} (h : t.makeDir p = .ok t') :
    t'.files = t.files := by
  simp only [makeDir, throw_unless_eq_ok_iff] at h
  obtain ⟨-, -, h⟩ := h
  split at h
  · cases h
  · simp only [bind_eq_ok_iff, throw_unless_eq_ok_iff] at h
    obtain ⟨_, -, -, -, -, h⟩ := h
    rw [← Except.ok.inj h]

theorem files_of_makeDirOrKeep {t t' : FileTree} {p : Path} (h : t.makeDirOrKeep p = .ok t') :
    t'.files = t.files := by
  unfold makeDirOrKeep at h
  split at h
  · cases h
  · split at h
    · rw [Except.ok.inj h]
    · cases h
  · next made =>
    rw [← Except.ok.inj h]
    exact files_of_makeDir made

theorem files_makeDirs (t : FileTree) (slashes : Nat) (names : List String) :
    (t.makeDirs slashes names).2.files = t.files := by
  induction names with
  | nil =>
    unfold makeDirs
    split
    · next made => exact files_of_makeDirOrKeep made
    · rfl
  | cons name above ih =>
    rcases hbelow : t.makeDirs slashes above with ⟨r, below⟩
    rw [hbelow] at ih
    simp only [makeDirs, hbelow]
    split
    · cases r with
      | ok _ =>
        simp only
        split
        · next made => exact (files_of_makeDirOrKeep made).trans ih
        · exact ih
      | error f => exact ih
    · split
      · next made => exact files_of_makeDirOrKeep made
      · rfl

theorem openFile_eq_ok {t t' : FileTree} {p : Path} {l : Location}
    (h : t.openFile p = .ok (l, t')) : l = Location.ofPath p ∧ Opened (some l) t t' := by
  simp only [openFile, throw_unless_eq_ok_iff] at h
  obtain ⟨-, -, h⟩ := h
  split at h
  · cases h
  · simp only [bind_eq_ok_iff, throw_unless_eq_ok_iff] at h
    obtain ⟨_, -, -, -, h⟩ := h
    split at h
    · next there =>
      obtain ⟨rfl, rfl⟩ := Prod.mk.inj (Except.ok.inj h)
      exact ⟨rfl, .of_isFile there⟩
    · next missing =>
      obtain ⟨rfl, rfl⟩ := Prod.mk.inj (Except.ok.inj h)
      exact ⟨rfl, .of_new missing⟩

end Fulltext.Log.FileTree
