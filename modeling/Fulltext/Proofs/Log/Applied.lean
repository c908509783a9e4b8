import Fulltext.Proofs.Config.NormalForm
import Fulltext.Proofs.Log.Directories
import Fulltext.Proofs.Log.Mirror

namespace Fulltext.Log

/-- What follows the action in the name of a log file. -/
def ending (m : Moment) : String := "_" ++ m.digits ++ ".log"

theorem digit_of_mem_twoDigits {n : Nat} {c : Char} (h : c ∈ (twoDigits n).toList) :
    c.isDigit = true := by
  have number : ∀ c ∈ (toString n).toList, c.isDigit = true := fun c hc =>
    Nat.isDigit_of_mem_toDigits (by decide) (by decide) (Nat.toList_repr ▸ hc)
  rw [twoDigits] at h
  split at h
  · rw [String.toList_append, List.mem_append] at h
    rcases h with zero | digit
    · obtain rfl : c = '0' := List.mem_singleton.mp zero
      rfl
    · exact number c digit
  · exact number c h

theorem digit_of_mem_digits {m : Moment} {c : Char} (h : c ∈ m.digits.toList) :
    c.isDigit = true := by
  simp only [Moment.digits, String.toList_append, List.mem_append] at h
  rcases h with (((h | h) | h) | h) | h <;> exact digit_of_mem_twoDigits h

theorem slash_not_mem_ending (m : Moment) : '/' ∉ (ending m).toList := by
  intro h
  simp only [ending, String.toList_append, List.mem_append] at h
  rcases h with (h | h) | h
  · exact absurd h (by decide)
  · exact absurd (digit_of_mem_digits h) (by decide)
  · exact absurd h (by decide)

theorem length_ending (m : Moment) : 5 ≤ (ending m).length := by
  rw [ending, String.length_append, String.length_append]
  have front : "_".length = 1 := rfl
  have back : ".log".length = 4 := rfl
  omega

/-- Where the log file of a configuration is. -/
def logPath (m : Moment) (r : Runtime) : Path :=
  ((Path.ofText r.dir).join (.ofText r.action)).join (.ofText (r.action ++ ending m))

theorem logPaths_eq (m : Moment) {r : Runtime} (h : r.dir ≠ "") :
    logPaths m (.text r.dir) (.text r.action) =
      .ok ((Path.ofText r.dir).join (.ofText r.action), logPath m r) := by
  have dir : Value.orElse (.text r.dir) (.text "log") = .text r.dir :=
    Value.orElse_of_isSet (by simpa [Value.isSet] using h)
  have file : r.action ++ "_" ++ m.digits ++ ".log" = r.action ++ ending m := by
    simp only [ending, String.append_assoc]
  rw [logPaths, dir, logPath, ← file]
  rfl

/-- The log file gets a single name, and the file system takes its path. -/
structure Fits (m : Moment) (r : Runtime) : Prop where
  single : ∃ name, (Path.ofText (r.action ++ ending m)).parts = [name] ∧
    name.utf8ByteSize ≤ nameLimit
  noNul : '\x00' ∉ (logPath m r).text.toList
  short : (logPath m r).text.utf8ByteSize ≤ pathLimit

/-- The directory and the action lead down only, once the directory has left the working directory. -/
structure Descends (r : Runtime) : Prop where
  relative : (Path.ofText r.dir).slashes = 0 ∧ (Path.ofText r.action).slashes = 0
  dir : Location.ofPath (.ofText r.dir) = (Path.ofText r.dir).parts
  action : ".." ∉ (Path.ofText r.action).parts

section

variable {m : Moment} {r : Runtime}

theorem Descends.logPath_eq (h : Descends r) : logPath m r =
    ⟨0, (Path.ofText r.dir).parts ++ (Path.ofText r.action).parts ++
      (Path.ofText (r.action ++ ending m)).parts⟩ := by
  have file := Path.slashes_append h.relative.2 (slash_not_mem_ending m)
  rw [logPath, Path.join, Path.join, if_pos h.relative.2, if_pos file, h.relative.1]

theorem Descends.place (h : Descends r) :
    Location.ofPath ⟨0, (Path.ofText r.dir).parts ++ (Path.ofText r.action).parts⟩ =
      (Path.ofText r.dir).parts ++ (Path.ofText r.action).parts := by
  have dir : Location.ofPath ⟨0, (Path.ofText r.dir).parts⟩ = (Path.ofText r.dir).parts := by
    have dir := h.dir
    rwa [← h.relative.1]
  rw [Location.ofPath_append, dir, Location.foldl_down h.action]

/-- How the file's name goes on from the action. -/
theorem name_of_ending (m : Moment) (action : String) :
    ∃ front last, (Path.ofText action).parts = front ++ (if Path.isNamed last then [last] else []) ∧
      (Path.ofText (action ++ ending m)).parts = front ++ [last ++ ending m] ∧
      last ++ ending m ≠ ".." ∧ last ++ ending m ≠ "/" := by
  have long := length_ending m
  obtain ⟨front, last, short, whole⟩ :=
    Path.parts_append action (slash_not_mem_ending m) (by omega)
  have other : ∀ s : String, s.length < 5 → last ++ ending m ≠ s := by
    rintro s hs rfl
    rw [String.length_append] at hs
    omega
  exact ⟨front, last, short, whole, other ".." (by decide), other "/" (by decide)⟩

/-- The names of the directory of a log file. -/
def dirNames (r : Runtime) : List String := (Path.ofText r.dir).parts ++ (Path.ofText r.action).parts

/-- A place right below the directory is none of the directories made for it. -/
theorem not_isDir_below {t : FileTree} {ps qs : List String} {name : String}
    (made : FileTree.Made {} t ps) (deeper : ps.length ≤ qs.length) (notStep : name ≠ "..")
    (notRoot : name ≠ "/") : ¬t.isDir (qs ++ [name]) = true := by
  intro there
  rcases FileTree.isDir_iff.mp there with root | steps | dir
  · exact notRoot (Option.some.inj (by simpa using congrArg List.getLast? root))
  · exact notStep (steps name (by simp))
  · rcases made.shallow _ dir with none | bound
    · cases none
    · rw [List.length_append, List.length_singleton] at bound
      omega

theorem openFile_of_fits (h : Descends r)
    (made : (({} : FileTree).makeDirs 0 (Path.ofText r.dir).parts.reverse).1 = .ok ())
    (fits : Fits m r) :
    ∃ t o, ({} : FileTree).makeDirs 0 (dirNames r).reverse = (.ok (), t) ∧
      t.openFile (logPath m r) = .ok o := by
  obtain ⟨front, last, action, file, notStep, notRoot⟩ := name_of_ending m r.action
  obtain ⟨name, single, short⟩ := fits.single
  obtain ⟨rfl, last_eq⟩ : front = [] ∧ [last ++ ending m] = [name] :=
    List.append_inj' (file.symm.trans single) rfl
  obtain rfl := List.singleton_inj.mp last_eq
  have path : logPath m r = ⟨0, dirNames r ++ [last ++ ending m]⟩ := by
    rw [h.logPath_eq, single, dirNames]
  have place : Location.ofPath (logPath m r) = dirNames r ++ [last ++ ending m] := by
    rw [path, Location.ofPath_append, dirNames, h.place]
    exact if_neg notStep
  have actionNames : ∀ name ∈ (Path.ofText r.action).parts, name.utf8ByteSize ≤ nameLimit := by
    rw [String.utf8ByteSize_append] at short
    rw [action, List.nil_append]
    split
    · exact List.forall_mem_singleton.mpr (by omega)
    · exact nofun
  have taken : Taken ⟨0, dirNames r ++ [last ++ ending m]⟩ :=
    ⟨path ▸ fits.noNul, path ▸ fits.short, List.forall_mem_append.mpr
      ⟨List.forall_mem_append.mpr ⟨FileTree.names_of_makeDirs made, actionNames⟩,
        List.forall_mem_singleton.mpr short⟩⟩
  obtain ⟨t, dirs, there⟩ := FileTree.makeDirs_of_taken FileTree.grown_empty taken.of_append
  have new := not_isDir_below there (Nat.le_refl _) notStep notRoot
  exact ⟨t, _, dirs, (FileTree.openFile_eq_ok_iff there.grown.noFiles (by rw [path]) place).mpr
    ⟨fits.noNul, fits.short, ⟨_, there.there⟩, short, by simpa using new, rfl⟩⟩

/-- A name before the last slash of the action would lead to a directory that nobody makes. -/
theorem fits_of_openFile (h : Descends r) {t : FileTree}
    (dirs : ({} : FileTree).makeDirs 0 (dirNames r).reverse = (.ok (), t))
    {o : Location × FileTree} (opened : t.openFile (logPath m r) = .ok o) : Fits m r := by
  obtain ⟨front, last, action, file, notStep, -⟩ := name_of_ending m r.action
  have noFiles : t.files = [] := by
    have files := FileTree.files_makeDirs {} 0 (dirNames r).reverse
    rwa [dirs] at files
  have path : logPath m r = ⟨0, dirNames r ++ front ++ [last ++ ending m]⟩ := by
    rw [h.logPath_eq, file, dirNames, List.append_assoc _ front]
  have frontSteps : ".." ∉ front := fun step => h.action (by simp [action, step])
  have placeAbove : Location.ofPath ⟨0, dirNames r ++ front⟩ = dirNames r ++ front := by
    rw [Location.ofPath_append, dirNames, h.place, Location.foldl_down frontSteps]
  have place : Location.ofPath (logPath m r) = dirNames r ++ front ++ [last ++ ending m] := by
    rw [path, Location.ofPath_append, placeAbove]
    exact if_neg notStep
  obtain ⟨noNul, short, ⟨l, above⟩, nameShort, -⟩ :=
    (FileTree.openFile_eq_ok_iff noFiles (by rw [path]) place).mp opened
  refine ⟨⟨last ++ ending m, ?_, nameShort⟩, noNul, short⟩
  have names := List.forall_mem_append.mpr
    ⟨(FileTree.enterAll_eq_ok above).2, List.forall_mem_singleton.mpr nameShort⟩
  have taken : Taken ⟨0, dirNames r ++ front ++ [last ++ ending m]⟩ :=
    ⟨path ▸ noNul, path ▸ short, names⟩
  obtain ⟨t', dirs', made⟩ :=
    FileTree.makeDirs_of_taken FileTree.grown_empty taken.of_append.of_append
  obtain rfl : t = t' := congrArg Prod.snd (dirs.symm.trans dirs')
  rcases List.eq_nil_or_concat front with rfl | ⟨upper, name, rfl⟩
  · exact file
  · rw [List.concat_eq_append] at action frontSteps placeAbove above
    have notStep : name ≠ ".." := fun step => frontSteps (by simp [step])
    have notRoot : name ≠ "/" := fun root =>
      Path.slash_not_mem_part (show name ∈ (Path.ofText r.action).parts by simp [action])
        (root ▸ by decide)
    obtain rfl : l = dirNames r ++ (upper ++ [name]) :=
      (FileTree.enterAll_eq_ok above).1.trans placeAbove
    rw [← List.append_assoc, FileTree.enterAll_concat, bind_eq_ok_iff] at above
    obtain ⟨l', -, last⟩ := above
    have there := (FileTree.enter_eq_ok last).2.2 notStep
    exact absurd there (not_isDir_below made (by simp) notStep notRoot)

theorem openLogFile_of_no_file (m : Moment) (h : r.toFile = false) (t : FileTree) :
    openLogFile m (.ofRuntime r) t = (.ok none, t) := by
  rw [openLogFile, Setup.ofRuntime, h]
  rfl

theorem asks_for_file (toFile : r.toFile = true) (action : r.action ≠ "") :
    ((Setup.ofRuntime r).toFile.isSet && (Setup.ofRuntime r).action.isSet) = true := by
  simpa [Setup.ofRuntime, Value.isSet, toFile] using action

theorem openLogFile_iff (toFile : r.toFile = true) (dir : r.dir ≠ "") (action : r.action ≠ "")
    (h : Descends r)
    (made : (({} : FileTree).makeDirs 0 (Path.ofText r.dir).parts.reverse).1 = .ok ()) :
    (∃ o t, openLogFile m (.ofRuntime r) {} = (.ok o, t)) ↔ Fits m r := by
  have below : (Path.ofText r.dir).join (.ofText r.action) = ⟨0, dirNames r⟩ := by
    rw [Path.join, if_pos h.relative.2, h.relative.1, dirNames]
  rw [openLogFile, if_pos (asks_for_file toFile action), Setup.ofRuntime, logPaths_eq m dir, below]
  dsimp only
  constructor
  · rintro ⟨o, t, opened⟩
    split at opened
    · cases opened
    · next dirs =>
      split at opened
      · cases opened
      · next file => exact fits_of_openFile h dirs file
  · intro fits
    obtain ⟨t, ⟨l, t'⟩, dirs, file⟩ := openFile_of_fits h made fits
    rw [dirs]
    dsimp only
    rw [file]
    exact ⟨_, _, rfl⟩

theorem openLogFile_eq_ok (toFile : r.toFile = true) (dir : r.dir ≠ "") (action : r.action ≠ "")
    {t t' : FileTree} {o : Option (Path × Location)}
    (h : openLogFile m (.ofRuntime r) t = (.ok o, t')) :
    o = some (logPath m r, Location.ofPath (logPath m r)) ∧
      FileTree.Opened (some (Location.ofPath (logPath m r))) t t' := by
  have path : o.map (·.1) = some (logPath m r) := by
    rw [openLogFile, if_pos (asks_for_file toFile action), Setup.ofRuntime, logPaths_eq m dir] at h
    dsimp only at h
    split at h
    · cases h
    · split at h
      · cases h
      · cases h
        rfl
  rcases openLogFile_cases m (.ofRuntime r) t with ⟨f, t₁, failed, -⟩ | ⟨path?, t₁, opened, files⟩
  · rw [failed] at h
    cases h
  · rw [opened] at h
    cases h
    rw [Option.map_map] at path
    obtain rfl : path? = some (logPath m r) := by simpa [Function.comp_def] using path
    exact ⟨rfl, files⟩

end

theorem levelOf_name (l : Level) : levelOf (.text l.name) = .ok l.number := by cases l <;> rfl

theorem place_of_parse {raw : Value} {c : Config} (h : Config.parse raw = .ok c)
    (toFile : c.runtime.toFile = true) : c.runtime.dir ≠ "" ∧ c.runtime.action ≠ "" := by
  simp only [Config.parse, bind_eq_ok_iff] at h
  obtain ⟨d, -, q, -, r, checked, -, -, made⟩ := h
  cases made
  obtain ⟨level, same⟩ := Config.runtime_of_checkRuntime checked
  rw [Config.checkRuntime_of_level level] at checked
  rw [same] at toFile ⊢
  split at checked
  · cases checked
  · next notBlank =>
    split at checked
    · cases checked
    · next notEmpty =>
      refine ⟨fun none => notBlank ⟨toFile, ?_⟩, fun none => notEmpty ⟨toFile, none⟩⟩
      rw [show d.dir = "" from none]
      rfl

def Handler.isFile : Handler → Bool
  | stream _ => false
  | file _ _ => true

/-- Without a file an accepted configuration is always applied. With one it leaves nothing but the
log file as a mirror, which is there and empty, and it is applied exactly if the file fits. -/
theorem accepted_applies_iff_fits (raw : Value) (c : Config) (parsed : Config.parse raw = .ok c)
    (m : Moment) (j : Journal) (empty : j.files = {})
    (made : (({} : FileTree).makeDirs 0 (Path.ofText c.runtime.dir).parts.reverse).1 = .ok ()) :
    let r := configure m (.ofRuntime c.runtime) j
    let path := logPath m c.runtime
    (c.runtime.toFile = false →
      r.1 = .ok none ∧ r.2.logger.handlers.filter Handler.isFile = []) ∧
    (c.runtime.toFile = true →
      (∀ p?, r.1 = .ok p? → p? = some path ∧ r.2.files.contents? (.ofPath path) = some "" ∧
        r.2.logger.handlers.filter Handler.isFile = [.file Level.debug.number (.ofPath path)]) ∧
      (Descends c.runtime → ((∃ p?, r.1 = .ok p?) ↔ Fits m c.runtime))) := by
  intro r path
  have level : levelOf (Setup.ofRuntime c.runtime).level = .ok c.runtime.level.number :=
    levelOf_name _
  have run : r = configure m (.ofRuntime c.runtime) j := rfl
  rw [configure, level, empty] at run
  dsimp only at run
  refine ⟨fun noFile => ?_, fun toFile => ?_⟩
  · rw [openLogFile_of_no_file m noFile] at run
    rw [run]
    exact ⟨rfl, rfl⟩
  · obtain ⟨dir, action⟩ := place_of_parse parsed toFile
    cases opened : openLogFile m (.ofRuntime c.runtime) {} with
    | mk o t =>
    rw [opened] at run
    have fits := fun h : Descends c.runtime => openLogFile_iff (m := m) toFile dir action h made
    rw [opened] at fits
    cases o with
    | error f =>
      rw [run]
      refine ⟨nofun, fun h => ?_⟩
      rw [← fits h]
      exact iff_of_false nofun nofun
    | ok o =>
      obtain ⟨rfl, files⟩ := openLogFile_eq_ok toFile dir action opened
      have content := files (Location.ofPath path)
      rw [if_pos rfl] at content
      rw [run]
      refine ⟨fun p? h => ⟨(Except.ok.inj h).symm, content, rfl⟩, fun h => ?_⟩
      rw [← fits h]
      exact iff_of_true ⟨_, rfl⟩ ⟨_, _, rfl⟩

/-- A logger that had a mirror elsewhere gets one below two directories. -/
theorem accepted_applies_iff_fits_in_new_directories :
    let raw : Value := .map [(.text "log", .map [(.text "to_file", .bool true),
      (.text "dir", .text "logs/site"), (.text "action", .text " nightly ")])]
    let m : Moment := ⟨2, 3, 4, 5, 6⟩
    let j : Journal := { logger := ⟨50, true, [.file 0 ["old.log"]]⟩, errors := "old" }
    let l : Location := ["logs", "site", "nightly", "nightly_0203040506.log"]
    ∃ c, Config.parse raw = .ok c ∧
      (({} : FileTree).makeDirs 0 (Path.ofText c.runtime.dir).parts.reverse).1 = .ok () ∧
      let r := configure m (.ofRuntime c.runtime) j
      r.1 = .ok (some ⟨0, l⟩) ∧ r.2.files.contents? l = some "" ∧
        r.2.logger.handlers.filter Handler.isFile = [.file 10 l] := by
  intro raw m j l
  let c : Config := ⟨⟨.info, true, "logs/site", "nightly"⟩, ⟨none, none, .int 0, none, []⟩⟩
  have parsed : Config.parse raw = .ok c := rfl
  have made : (({} : FileTree).makeDirs 0 (Path.ofText c.runtime.dir).parts.reverse).1 = .ok () := by
    decide
  have descends : Descends c.runtime := ⟨by decide, by decide, by decide⟩
  have fits : Fits m c.runtime :=
    ⟨⟨"nightly_0203040506.log", by decide, by decide⟩, by decide, by decide⟩
  have path : logPath m c.runtime = ⟨0, l⟩ := by decide
  have place : Location.ofPath (logPath m c.runtime) = l := by decide
  obtain ⟨mirrored, iff⟩ := (accepted_applies_iff_fits raw c parsed m j rfl made).2 rfl
  obtain ⟨p?, applied⟩ := (iff descends).mpr fits
  obtain ⟨rfl, content, handlers⟩ := mirrored p? applied
  rw [place] at content handlers
  rw [path] at applied
  exact ⟨c, parsed, made, applied, content, handlers⟩

/-- A slash puts the log file in a directory below the one that is made for it. -/
theorem accepted_action_with_slash_not_applied :
    let raw : Value := .map [(.text "log",
      .map [(.text "to_file", .bool true), (.text "action", .text "a/b")])]
    let m : Moment := ⟨2, 3, 4, 5, 6⟩
    ∃ c, Config.parse raw = .ok c ∧ Path.ofText c.runtime.dir = ⟨0, ["log"]⟩ ∧
      (({} : FileTree).makeDirs 0 ["log"]).1 = .ok () ∧
      configure m (.ofRuntime c.runtime) {} =
        (.error (.file .missing), { files := { dirs := [["log"], ["log", "a"], ["log", "a", "b"]] } }) ∧
      logPath m c.runtime = ⟨0, ["log", "a", "b", "a", "b_0203040506.log"]⟩ := by
  intro raw m
  let c : Config := ⟨⟨.info, true, "log", "a/b"⟩, ⟨none, none, .int 0, none, []⟩⟩
  refine ⟨c, rfl, by decide, by decide, ?_, by decide⟩
  decide

end Fulltext.Log
