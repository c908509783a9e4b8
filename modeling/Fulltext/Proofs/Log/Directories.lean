import Fulltext.Log.FileTree
import Fulltext.Proofs.Log.Paths
import Mathlib.Data.List.Induction

namespace Fulltext.Log

/-- A path that the file system takes. -/
structure Taken (p : Path) : Prop where
  noNul : '\x00' ∉ p.text.toList
  short : p.text.utf8ByteSize ≤ pathLimit
  names : ∀ name ∈ p.parts, name.utf8ByteSize ≤ nameLimit

theorem Taken.of_append {ps qs : List String} (h : Taken ⟨0, ps ++ qs⟩) : Taken ⟨0, ps⟩ := by
  refine ⟨?_, ?_, fun name hn => h.names name (List.mem_append_left qs hn)⟩
  · by_cases none : ps = []
    · rw [none]
      decide
    · obtain ⟨rest, hrest⟩ := Path.text_append none qs
      have noNul := h.noNul
      rw [hrest, String.toList_append, List.mem_append, not_or] at noNul
      exact noNul.1
  · by_cases none : ps = []
    · rw [none]
      decide
    · obtain ⟨rest, hrest⟩ := Path.text_append none qs
      have short := h.short
      rw [hrest, String.utf8ByteSize_append] at short
      omega

namespace Location

theorem ofPath_append (ps qs : List String) :
    ofPath ⟨0, ps ++ qs⟩ = qs.foldl down (ofPath ⟨0, ps⟩) := by
  simp only [ofPath, List.foldl_append]

/-- Without a step up every name goes one down. -/
theorem foldl_down {ps : List String} (h : ".." ∉ ps) (l : Location) : ps.foldl down l = l ++ ps := by
  induction ps generalizing l with
  | nil => exact (List.append_nil l).symm
  | cons p ps ih =>
    rw [List.mem_cons, not_or] at h
    rw [List.foldl_cons, ih h.2, down, if_neg (Ne.symm h.1), List.append_assoc]
    rfl

theorem length_down_le (l : Location) (part : String) : (l.down part).length ≤ l.length + 1 := by
  rw [down]
  split
  · rw [up]
    split
    · simp
    · simp
    · omega
    · rw [List.length_dropLast]
      omega
  · simp

theorem length_foldl_down_le (l : Location) (ps : List String) :
    (ps.foldl down l).length ≤ l.length + ps.length := by
  induction ps generalizing l with
  | nil => exact Nat.le_refl _
  | cons p ps ih =>
    have first := length_down_le l p
    have rest := ih (l.down p)
    rw [List.foldl_cons, List.length_cons]
    omega

end Location

namespace FileTree

theorem enter_eq_ok {t : FileTree} {l m : Location} {part : String} (h : t.enter l part = .ok m) :
    m = l.down part ∧ part.utf8ByteSize ≤ nameLimit ∧ (part ≠ ".." → t.isDir m = true) := by
  simp only [enter] at h
  split at h
  · next step =>
    obtain rfl := Except.ok.inj h
    exact ⟨rfl, by rw [step]; decide, fun other => absurd step other⟩
  · split at h
    · cases h
    · next short =>
      split at h
      · next there =>
        obtain rfl := Except.ok.inj h
        exact ⟨rfl, by omega, fun _ => there⟩
      · split at h <;> cases h

theorem enterAll_append (t : FileTree) (l : Location) (ps qs : List String) :
    t.enterAll l (ps ++ qs) = t.enterAll l ps >>= fun m => t.enterAll m qs := by
  induction ps generalizing l with
  | nil => rfl
  | cons p ps ih =>
    rw [List.cons_append, enterAll, enterAll]
    cases t.enter l p with
    | error f => rfl
    | ok m => exact ih m

theorem enterAll_concat (t : FileTree) (l : Location) (ps : List String) (p : String) :
    t.enterAll l (ps ++ [p]) = t.enterAll l ps >>= fun m => t.enter m p := by
  rw [enterAll_append]
  refine bind_congr fun m => ?_
  rw [enterAll]
  cases t.enter m p <;> rfl

theorem enterAll_eq_ok {t : FileTree} {l m : Location} {ps : List String}
    (h : t.enterAll l ps = .ok m) :
    m = ps.foldl Location.down l ∧ ∀ p ∈ ps, p.utf8ByteSize ≤ nameLimit := by
  induction ps generalizing l with
  | nil => exact ⟨(Except.ok.inj h).symm, nofun⟩
  | cons p ps ih =>
    rw [enterAll, bind_eq_ok_iff] at h
    obtain ⟨m', first, rest⟩ := h
    obtain ⟨rfl, short, -⟩ := enter_eq_ok first
    obtain ⟨rfl, others⟩ := ih rest
    exact ⟨rfl, List.forall_mem_cons.mpr ⟨short, others⟩⟩

/-- In a tree without files a short name is there or missing. -/
theorem enter_cases {t : FileTree} (h : t.files = []) (l : Location) {part : String}
    (short : part.utf8ByteSize ≤ nameLimit) :
    t.enter l part = .ok (l.down part) ∨ t.enter l part = .error .missing := by
  have noFile : t.isFile (l.down part) = false := by simp [isFile, h]
  simp only [enter, noFile]
  split
  · exact .inl rfl
  · rw [if_neg (by omega)]
    split
    · exact .inl rfl
    · exact .inr rfl

theorem enterAll_cases {t : FileTree} (h : t.files = []) (l : Location) {ps : List String}
    (short : ∀ p ∈ ps, p.utf8ByteSize ≤ nameLimit) :
    t.enterAll l ps = .ok (ps.foldl Location.down l) ∨ t.enterAll l ps = .error .missing := by
  induction ps generalizing l with
  | nil => exact .inl rfl
  | cons p ps ih =>
    rw [List.forall_mem_cons] at short
    rw [enterAll]
    rcases enter_cases h l short.1 with there | missing
    · rw [there]
      exact ih _ short.2
    · rw [missing]
      exact .inr rfl

/-- A tree of directories alone, each in one that is there. -/
structure Grown (t : FileTree) : Prop where
  noFiles : t.files = []
  above : ∀ l name, l ++ [name] ∈ t.dirs →
    name ≠ ".." ∧ name.utf8ByteSize ≤ nameLimit ∧ t.isDir l = true

theorem grown_empty : Grown {} := ⟨rfl, nofun⟩

theorem isDir_iff {t : FileTree} {l : Location} :
    t.isDir l = true ↔ l = ["/"] ∨ (∀ p ∈ l, p = "..") ∨ l ∈ t.dirs := by
  simp [isDir, or_assoc]

/-- Above a directory there is another; the root is above itself. -/
theorem isDir_up {t : FileTree} (grown : t.Grown) {l : Location} (h : t.isDir l = true) :
    t.isDir l.up = true := by
  rw [Location.up]
  split
  · rfl
  · next last =>
    obtain ⟨above, rfl⟩ := List.getLast?_eq_some_iff.mp last
    rcases isDir_iff.mp h with root | steps | made
    · exact absurd (congrArg List.getLast? root) (by simp)
    · refine isDir_iff.mpr (.inr (.inl ?_))
      exact List.forall_mem_append.mpr ⟨steps, List.forall_mem_singleton.mpr rfl⟩
    · exact absurd rfl (grown.above above _ made).1
  · exact h
  · next name notStep notRoot last =>
    obtain ⟨above, rfl⟩ := List.getLast?_eq_some_iff.mp last
    rw [List.dropLast_concat]
    rcases isDir_iff.mp h with root | steps | made
    · exact absurd (Option.some.inj (by simpa using congrArg List.getLast? root)) notRoot
    · exact absurd (steps name (by simp)) notStep
    · exact (grown.above above _ made).2.2

theorem isDir_of_enterAll {t : FileTree} (grown : t.Grown) {l m : Location} {ps : List String}
    (hl : t.isDir l = true) (h : t.enterAll l ps = .ok m) : t.isDir m = true := by
  induction ps generalizing l with
  | nil => exact Except.ok.inj h ▸ hl
  | cons p ps ih =>
    rw [enterAll, bind_eq_ok_iff] at h
    obtain ⟨m', first, rest⟩ := h
    refine ih ?_ rest
    obtain ⟨rfl, -, there⟩ := enter_eq_ok first
    by_cases step : p = ".."
    · rw [Location.down, if_pos step]
      exact isDir_up grown hl
    · exact there step

theorem isDir_of_dirs {t t' : FileTree} (h : t.dirs ⊆ t'.dirs) {l : Location}
    (there : t.isDir l = true) : t'.isDir l = true :=
  isDir_iff.mpr ((isDir_iff.mp there).imp_right (.imp_right fun made => h made))

theorem enterAll_of_dirs {t t' : FileTree} (h : t.dirs ⊆ t'.dirs) {l m : Location}
    {ps : List String} (there : t.enterAll l ps = .ok m) : t'.enterAll l ps = .ok m := by
  induction ps generalizing l with
  | nil => exact there
  | cons p ps ih =>
    rw [enterAll, bind_eq_ok_iff] at there ⊢
    obtain ⟨m', first, rest⟩ := there
    refine ⟨m', ?_, ih rest⟩
    obtain ⟨rfl, short, dir⟩ := enter_eq_ok first
    rw [enter]
    split
    · rfl
    · next other => rw [if_neg (by omega), if_pos (isDir_of_dirs h (dir other))]

/-- A path that is taken fails or not by the place of its last name alone. -/
theorem makeDir_of_taken (t : FileTree) {ps : List String} {name : String}
    (taken : Taken ⟨0, ps ++ [name]⟩) :
    t.makeDir ⟨0, ps ++ [name]⟩ = t.enterAll [] ps >>= fun l =>
      if name = ".." ∨ t.isDir (l.down name) ∨ t.isFile (l.down name) then .error .occupied
      else .ok { t with dirs := t.dirs ++ [l.down name] } := by
  have nul : ¬(⟨0, ps ++ [name]⟩ : Path).text.toList.contains '\x00' = true := by
    simpa using taken.noNul
  have long : ¬pathLimit < (⟨0, ps ++ [name]⟩ : Path).text.utf8ByteSize := Nat.not_lt.mpr taken.short
  have nameLong : ¬nameLimit < name.utf8ByteSize := Nat.not_lt.mpr (taken.names name (by simp))
  rw [makeDir]
  dsimp only
  rw [if_neg nul, if_neg long, List.getLast?_concat]
  dsimp only
  rw [List.dropLast_concat]
  refine bind_congr fun l => ?_
  rw [if_neg nameLong]
  by_cases step : name = ".."
  · rw [if_pos step, if_pos (Or.inl step)]
    rfl
  · rw [if_neg step]
    by_cases there : (t.isDir (l.down name) || t.isFile (l.down name)) = true
    · rw [if_pos there, if_pos (Or.inr (Bool.or_eq_true _ _ ▸ there))]
      rfl
    · rw [if_neg there, if_neg (by simpa [step] using there)]
      rfl

theorem enter_of_isDir {t : FileTree} {l : Location} {part : String}
    (short : part.utf8ByteSize ≤ nameLimit) (h : part = ".." ∨ t.isDir (l.down part) = true) :
    t.enter l part = .ok (l.down part) := by
  rw [enter]
  split
  · rfl
  · next other => rw [if_neg (by omega), if_pos (h.resolve_left other)]

theorem Grown.push {t : FileTree} (grown : t.Grown) {l : Location} (dir : t.isDir l = true)
    {name : String} (other : name ≠ "..") (short : name.utf8ByteSize ≤ nameLimit) :
    Grown { t with dirs := t.dirs ++ [l ++ [name]] } := by
  have kept : t.dirs ⊆ t.dirs ++ [l ++ [name]] := List.subset_append_left _ _
  refine ⟨grown.noFiles, fun l' name' made => ?_⟩
  rcases List.mem_append.mp made with old | new
  · obtain ⟨other', short', above⟩ := grown.above l' name' old
    exact ⟨other', short', isDir_of_dirs kept above⟩
  · obtain ⟨rfl, e⟩ := List.append_inj' (List.mem_singleton.mp new) rfl
    obtain rfl := List.singleton_inj.mp e
    exact ⟨other, short, isDir_of_dirs kept dir⟩

/-- What the tree is like once a path has been made in it. -/
structure Made (t t' : FileTree) (ps : List String) : Prop where
  grown : t'.Grown
  kept : t.dirs ⊆ t'.dirs
  shallow : ∀ l ∈ t'.dirs, l ∈ t.dirs ∨ l.length ≤ ps.length
  there : t'.enterAll [] ps = .ok (Location.ofPath ⟨0, ps⟩)

theorem makeDirOrKeep_of_parent {t : FileTree} (grown : t.Grown) {ps : List String} {name : String}
    (taken : Taken ⟨0, ps ++ [name]⟩) {l : Location} (above : t.enterAll [] ps = .ok l) :
    ∃ t', t.makeDirOrKeep ⟨0, ps ++ [name]⟩ = .ok t' ∧ Made t t' (ps ++ [name]) := by
  obtain rfl : l = Location.ofPath ⟨0, ps⟩ := (enterAll_eq_ok above).1
  have place : Location.ofPath ⟨0, ps ++ [name]⟩ = (Location.ofPath ⟨0, ps⟩).down name :=
    Location.ofPath_append ps [name]
  have short := taken.names name (by simp)
  have noFile : t.isFile ((Location.ofPath ⟨0, ps⟩).down name) = false := by
    simp [isFile, grown.noFiles]
  have made : t.makeDir ⟨0, ps ++ [name]⟩ =
      if name = ".." ∨ t.isDir ((Location.ofPath ⟨0, ps⟩).down name) = true then .error .occupied
      else .ok { t with dirs := t.dirs ++ [(Location.ofPath ⟨0, ps⟩).down name] } := by
    rw [makeDir_of_taken t taken, above]
    simp only [noFile, Bool.false_eq_true, or_false, bind, Except.bind]
  by_cases there : name = ".." ∨ t.isDir ((Location.ofPath ⟨0, ps⟩).down name) = true
  · have reached : t.enterAll [] (ps ++ [name]) = .ok (Location.ofPath ⟨0, ps ++ [name]⟩) := by
      rw [enterAll_concat, above, place]
      exact enter_of_isDir short there
    refine ⟨t, ?_, grown, List.Subset.refl _, fun l hl => .inl hl, reached⟩
    rw [if_pos there] at made
    rw [makeDirOrKeep, made]
    dsimp only
    rw [show start ⟨0, ps ++ [name]⟩ = [] from rfl, reached]
  · obtain ⟨other, new⟩ := not_or.mp there
    have down : (Location.ofPath ⟨0, ps⟩).down name = Location.ofPath ⟨0, ps⟩ ++ [name] :=
      if_neg other
    rw [if_neg there, down] at made
    have dir : t.isDir (Location.ofPath ⟨0, ps⟩) = true := isDir_of_enterAll grown rfl above
    refine ⟨_, by rw [makeDirOrKeep, made], grown.push dir other short,
      List.subset_append_left _ _, fun l hl => ?_, ?_⟩
    · rcases List.mem_append.mp hl with old | new
      · exact .inl old
      · have bound := Location.length_foldl_down_le [] ps
        rw [List.mem_singleton.mp new]
        refine .inr ?_
        rw [List.length_append, List.length_append]
        simpa [Location.ofPath] using bound
    · rw [enterAll_concat, enterAll_of_dirs (List.subset_append_left _ _) above, place]
      refine enter_of_isDir short (.inr ?_)
      rw [down]
      exact isDir_iff.mpr (.inr (.inr (by simp)))

/-- Every directory on a path that is taken can be made. The induction goes up the path. -/
theorem makeDirs_of_taken {t : FileTree} (grown : t.Grown) {ps : List String}
    (taken : Taken ⟨0, ps⟩) :
    ∃ t', t.makeDirs 0 ps.reverse = (.ok (), t') ∧ Made t t' ps := by
  induction ps using List.reverseRecOn generalizing t with
  | nil => exact ⟨t, rfl, grown, List.Subset.refl _, fun l hl => .inl hl, rfl⟩
  | append_singleton ps name ih =>
    have names := taken.of_append.names
    have made := makeDir_of_taken t taken
    rw [List.reverse_concat, makeDirs, ← List.reverse_concat, List.reverse_reverse]
    dsimp only
    rcases enterAll_cases grown.noFiles [] names with there | missing
    · obtain ⟨t', kept, made'⟩ := makeDirOrKeep_of_parent grown taken there
      refine ⟨t', ?_, made'⟩
      split
      · next missing =>
        rw [missing, there] at made
        simp only [bind, Except.bind] at made
        split at made <;> cases made
      · rw [kept]
    · rw [missing] at made
      obtain ⟨t₁, above, made₁⟩ := ih grown taken.of_append
      obtain ⟨t', kept, made'⟩ := makeDirOrKeep_of_parent made₁.grown taken made₁.there
      have shallow : ∀ l ∈ t'.dirs, l ∈ t.dirs ∨ l.length ≤ (ps ++ [name]).length := by
        intro l hl
        rcases made'.shallow l hl with before | bound
        · rw [List.length_append]
          exact (made₁.shallow l before).imp_right fun bound => by omega
        · exact .inr bound
      refine ⟨t', ?_, made'.grown, fun _ hl => made'.kept (made₁.kept hl), shallow, made'.there⟩
      rw [made]
      simp only [bind, Except.bind, above, kept]

/-- A directory that has been made, or was there, has names that are taken. -/
theorem names_of_makeDirOrKeep {t t' : FileTree} {ps : List String}
    (h : t.makeDirOrKeep ⟨0, ps⟩ = .ok t') : ∀ name ∈ ps, name.utf8ByteSize ≤ nameLimit := by
  rw [makeDirOrKeep] at h
  split at h
  · cases h
  · split at h
    · next there => exact (enterAll_eq_ok there).2
    · cases h
  · next made =>
    rw [makeDir] at made
    simp only [throw_unless_eq_ok_iff] at made
    obtain ⟨-, -, made⟩ := made
    split at made
    · cases made
    · next name last =>
      simp only [bind_eq_ok_iff, throw_unless_eq_ok_iff] at made
      obtain ⟨l, above, -, short, -⟩ := made
      obtain ⟨qs, rfl⟩ := List.getLast?_eq_some_iff.mp last
      rw [List.dropLast_concat] at above
      exact List.forall_mem_append.mpr ⟨(enterAll_eq_ok above).2,
        List.forall_mem_singleton.mpr (Nat.not_lt.mp short)⟩

theorem names_of_makeDirs {t : FileTree} {ps : List String}
    (h : (t.makeDirs 0 ps.reverse).1 = .ok ()) : ∀ name ∈ ps, name.utf8ByteSize ≤ nameLimit := by
  rcases List.eq_nil_or_concat ps with rfl | ⟨qs, name, rfl⟩
  · exact nofun
  · rw [List.concat_eq_append] at h ⊢
    rw [List.reverse_concat, makeDirs, ← List.reverse_concat, List.reverse_reverse] at h
    dsimp only at h
    split at h
    · split at h
      · split at h
        · next kept => exact names_of_makeDirOrKeep kept
        · cases h
      · cases h
    · split at h
      · next kept => exact names_of_makeDirOrKeep kept
      · cases h

/-- In a tree without files a file can be opened in a directory, under a name that is no directory. -/
theorem openFile_eq_ok_iff {t : FileTree} (noFiles : t.files = []) {p : Path} (relative : p.slashes = 0)
    {above : Location} {name : String} (place : Location.ofPath p = above ++ [name])
    {r : Location × FileTree} :
    t.openFile p = .ok r ↔
      '\x00' ∉ p.text.toList ∧ p.text.utf8ByteSize ≤ pathLimit ∧ (∃ m, t.enterAll [] above = .ok m) ∧
        name.utf8ByteSize ≤ nameLimit ∧ t.isDir (above ++ [name]) = false ∧
        r = (above ++ [name], { t with files := [(above ++ [name], "")] }) := by
  have start_eq : start p = [] := if_pos relative
  have noFile : t.isFile (above ++ [name]) = false := by simp [isFile, noFiles]
  rw [openFile]
  dsimp only
  rw [place, start_eq]
  simp only [throw_unless_eq_ok_iff, List.getLast?_concat, List.dropLast_concat, List.length_nil,
    List.drop_zero, bind_eq_ok_iff, noFile, Bool.false_eq_true, if_false, noFiles, List.nil_append,
    Nat.not_lt, List.contains_iff_mem, Bool.not_eq_true]
  constructor
  · rintro ⟨nul, short, l, hl, nameShort, new, made⟩
    exact ⟨nul, short, ⟨l, hl⟩, nameShort, new, (Except.ok.inj made).symm⟩
  · rintro ⟨nul, short, ⟨l, hl⟩, nameShort, new, rfl⟩
    exact ⟨nul, short, l, hl, nameShort, new, rfl⟩

end FileTree

end Fulltext.Log
