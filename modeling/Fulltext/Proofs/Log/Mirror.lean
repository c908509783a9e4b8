import Fulltext.Log.Logger
import Fulltext.Proofs.Log.FileTree

namespace Fulltext.Log

theorem levelName?_level {s : String} {n : Int} (h : levelName? s = some (.level n)) :
    n = 0 ∨ 10 ≤ n := by
  unfold levelName? at h
  split at h <;> cases h <;> decide

theorem levelOf_eq_ok {v : Value} {n : Int} (h : levelOf v = .ok n) : n = 0 ∨ 10 ≤ n := by
  unfold levelOf at h
  split at h
  · split at h
    · next named =>
      obtain rfl := Except.ok.inj h
      exact levelName?_level named
    · cases h
    · cases h
    · obtain rfl := Except.ok.inj h
      decide
  · cases h
  · cases h

theorem openLogFile_cases (m : Moment) (s : Setup) (t : FileTree) :
    (∃ f t', openLogFile m s t = (.error f, t') ∧ FileTree.Opened none t t') ∨
    ∃ (path? : Option Path) (t' : FileTree),
      openLogFile m s t = (.ok (path?.map fun p => (p, Location.ofPath p)), t') ∧
      FileTree.Opened (path?.map Location.ofPath) t t' := by
  unfold openLogFile
  split
  · split
    · exact .inl ⟨_, _, rfl, .of_files rfl⟩
    · next dir path _ =>
      have made := FileTree.files_makeDirs t dir.slashes dir.parts.reverse
      split
      · next below =>
        rw [below] at made
        exact .inl ⟨_, _, rfl, .of_files made⟩
      · next below =>
        rw [below] at made
        split
        · exact .inl ⟨_, _, rfl, .of_files made⟩
        · next opened =>
          obtain ⟨rfl, opened⟩ := FileTree.openFile_eq_ok opened
          exact .inr ⟨some path, _, rfl, opened.after made⟩
  · exact .inr ⟨none, t, rfl, .of_files rfl⟩

/-- All that a set-up can do. -/
theorem configure_cases (m : Moment) (s : Setup) (j : Journal) :
    (∃ f t', configure m s j = (.error f, { j with files := t' }) ∧
      FileTree.Opened none j.files t') ∨
    ∃ level path? t', levelOf s.level = .ok level ∧
      configure m s j =
        (.ok path?, ⟨loggerFor level (path?.map Location.ofPath), t', j.errors⟩) ∧
      FileTree.Opened (path?.map Location.ofPath) j.files t' := by
  unfold configure
  cases level : levelOf s.level with
  | error f => exact .inl ⟨f, j.files, rfl, .of_files rfl⟩
  | ok n =>
    rcases openLogFile_cases m s j.files with ⟨f, t', h, opened⟩ | ⟨path?, t', h, opened⟩
    · exact .inl ⟨f, t', by simp only [h], opened⟩
    · refine .inr ⟨n, path?, t', rfl, ?_, opened⟩
      simp [h, Function.comp_def]

theorem write_stream (m : Moment) (n : Int) (message : String) (j : Journal) (level : Int) :
    write m n message j (.stream level) =
      { j with errors := j.errors ++ (if level ≤ n then line m n message else "") } := by
  by_cases h : level ≤ n
  · simp [write, Handler.level, h, Int.not_lt.mpr h]
  · simp [write, Handler.level, h, Int.not_le.mp h]

theorem write_file (m : Moment) (n : Int) (message : String) (j : Journal) (level : Int)
    (l : Location) :
    write m n message j (.file level l) =
      if level ≤ n then { j with files := j.files.append l (line m n message) } else j := by
  by_cases h : level ≤ n
  · simp [write, Handler.level, h, Int.not_lt.mpr h]
  · simp [write, Handler.level, h, Int.not_le.mp h]

theorem enabled_of_level {logger : Logger} (positive : 10 ≤ logger.level) (n : Int) :
    logger.enabled n = decide (logger.level ≤ n) := by
  have own : logger.effectiveLevel = logger.level := by
    rw [Logger.effectiveLevel, if_neg (by omega)]
  rw [Logger.enabled, own, Bool.eq_iff_iff, Bool.and_eq_true]
  simp only [decide_eq_true_eq]
  omega

theorem emit_unmirrored {level : Int} (positive : 10 ≤ level) (m : Moment) (n : Int)
    (message : String) (t : FileTree) (errors : String) :
    emit m n message ⟨loggerFor level none, t, errors⟩ =
      ⟨loggerFor level none, t, errors ++ (if level ≤ n then line m n message else "")⟩ := by
  have enabled : (loggerFor level none).enabled n = decide (level ≤ n) :=
    enabled_of_level positive n
  simp only [emit, enabled]
  by_cases h : level ≤ n
  · simp [h, loggerFor, write_stream]
  · simp [h]

theorem emit_mirrored {level : Int} (positive : 10 ≤ level) (m : Moment) (n : Int)
    (message : String) (l : Location) (t : FileTree) (errors : String) :
    emit m n message ⟨loggerFor level (some l), t, errors⟩ =
      ⟨loggerFor level (some l),
        if Level.debug.number ≤ n then t.append l (line m n message) else t,
        errors ++ (if level ≤ n then line m n message else "")⟩ := by
  have lowest : (loggerFor level (some l)).level = 10 := Int.min_eq_left positive
  have enabled : (loggerFor level (some l)).enabled n = decide (10 ≤ n) := by
    rw [enabled_of_level (Int.le_of_eq lowest.symm), lowest]
  simp only [emit, enabled, Level.number]
  by_cases h : 10 ≤ n
  · simp [h, loggerFor, write_stream, write_file, Level.number]
  · have below : ¬level ≤ n := by omega
    simp [h, below]

/-- The level and the mirror file of a set-up that succeeded. -/
structure InForce where
  level : Int
  mirror? : Option Location
  deriving DecidableEq, Repr

structure InForce.Governs (c : InForce) (j : Journal) : Prop where
  level : 10 ≤ c.level
  logger : j.logger = loggerFor c.level c.mirror?
  mirror : ∀ l, c.mirror? = some l → (j.files.contents? l).isSome

/-- Where a record goes under a set-up. -/
theorem InForce.Governs.emit_eq {c : InForce} {j : Journal} (governs : c.Governs j) (m : Moment)
    (n : Int) (message : String) :
    (emit m n message j).logger = j.logger ∧
    (emit m n message j).errors = j.errors ++ (if c.level ≤ n then line m n message else "") ∧
    ∀ l, (emit m n message j).files.contents? l =
      if c.mirror? = some l ∧ Level.debug.number ≤ n then
        (j.files.contents? l).map (· ++ line m n message)
      else j.files.contents? l := by
  obtain ⟨logger, t, errors⟩ := j
  obtain ⟨level, mirror?⟩ := c
  obtain rfl : logger = loggerFor level mirror? := governs.logger
  cases mirror? with
  | none =>
    rw [emit_unmirrored governs.level]
    exact ⟨rfl, rfl, fun l => by simp⟩
  | some l' =>
    rw [emit_mirrored governs.level]
    refine ⟨rfl, rfl, fun l => ?_⟩
    by_cases h : Level.debug.number ≤ n
    · simp only [h, if_true, FileTree.contents?_append, and_true, Option.some.injEq, eq_comm]
    · simp [h]

theorem InForce.Governs.emit {c : InForce} {j : Journal} (governs : c.Governs j) (m : Moment)
    (n : Int) (message : String) : c.Governs (emit m n message j) := by
  obtain ⟨logger, -, files⟩ := governs.emit_eq m n message
  refine ⟨governs.level, logger.trans governs.logger, fun l hl => ?_⟩
  rw [files l]
  split
  · rw [Option.isSome_map]
    exact governs.mirror l hl
  · exact governs.mirror l hl

theorem write_of_no_files {j : Journal} (noFiles : ∀ l, j.files.contents? l = none) (m : Moment)
    (n : Int) (message : String) (h : Handler) (l : Location) :
    (write m n message j h).files.contents? l = none := by
  cases h with
  | stream level =>
    rw [write_stream]
    exact noFiles l
  | file level l' =>
    rw [write_file]
    split
    · rw [FileTree.contents?_append, noFiles l]
      split <;> rfl
    · exact noFiles l

theorem emit_of_no_files {j : Journal} (noFiles : ∀ l, j.files.contents? l = none) (m : Moment)
    (n : Int) (message : String) (l : Location) :
    (emit m n message j).files.contents? l = none := by
  -- A handler that came with the logger may name a file; with no such file nothing is appended.
  have each (hs : List Handler) : ∀ j : Journal, (∀ l, j.files.contents? l = none) →
      ∀ l, (hs.foldl (write m n message) j).files.contents? l = none := by
    induction hs with
    | nil => exact fun _ noFiles => noFiles
    | cons h hs ih => exact fun _ noFiles => ih _ (write_of_no_files noFiles m n message h)
  unfold emit
  split
  · exact noFiles l
  · split
    · split <;> exact noFiles l
    · exact each _ _ noFiles l

/-- A step of a run: a set-up, which may fail, or a record. -/
inductive Act where
  | configure (m : Moment) (s : Setup)
  | emit (m : Moment) (level : Int) (message : String)

namespace Act

def on (j : Journal) : Act → Journal
  | configure m s => (Log.configure m s j).2
  | emit m n message => Log.emit m n message j

/-- What an act brings into force. -/
def inForce? (j : Journal) : Act → Option InForce
  | configure m s =>
    match levelOf s.level, (Log.configure m s j).1 with
    | .ok level, .ok path? => some ⟨level, path?.map Location.ofPath⟩
    | _, _ => none
  | emit _ _ _ => none

/-- The lines that an act owes to a file. -/
def linesIn (c? : Option InForce) (l : Location) : Act → List String
  | configure _ _ => []
  | emit m n message =>
    if c?.bind InForce.mirror? = some l ∧ Level.debug.number ≤ n then [line m n message] else []

end Act

/-- A journal with what its run has been: the set-up in force, and for each file the lines of the
records that were made while it was the mirror. -/
structure History where
  journal : Journal
  inForce? : Option InForce := none
  lines : Location → List String := fun _ => []

namespace History

def next (h : History) (a : Act) : History where
  journal := a.on h.journal
  inForce? := (a.inForce? h.journal).or h.inForce?
  lines := fun l => h.lines l ++ a.linesIn h.inForce? l

def after (h : History) (as : List Act) : History := as.foldl next h

/-- Before a set-up has succeeded there are no files, so nothing is lost whatever handlers the logger
came with. -/
structure Kept (h : History) : Prop where
  noFiles : h.inForce? = none → ∀ l, h.journal.files.contents? l = none
  governed : ∀ c, h.inForce? = some c → c.Governs h.journal
  content : ∀ l, (h.journal.files.contents? l).getD "" = String.join (h.lines l)

theorem Kept.refuse {h : History} (kept : Kept h) {m : Moment} {s : Setup} {f : Fault}
    {t : FileTree} (refused : Log.configure m s h.journal = (.error f, { h.journal with files := t }))
    (opened : FileTree.Opened none h.journal.files t) : Kept (h.next (.configure m s)) := by
  have same (l : Location) : t.contents? l = h.journal.files.contents? l := by simpa using opened l
  have after : h.next (.configure m s) = ⟨{ h.journal with files := t }, h.inForce?, h.lines⟩ := by
    cases hl : levelOf s.level <;> simp [next, Act.on, Act.inForce?, Act.linesIn, refused, hl]
  rw [after]
  refine ⟨fun none l => (same l).trans (kept.noFiles none l), fun c hc => ?_, fun l => ?_⟩
  · obtain ⟨level, logger, mirror⟩ := kept.governed c hc
    exact ⟨level, logger, fun l hl => by rw [same l]; exact mirror l hl⟩
  · rw [same l]
    exact kept.content l

theorem Kept.accept {h : History} (kept : Kept h) {m : Moment} {s : Setup} {level : Int}
    {path? : Option Path} {t : FileTree} (hl : levelOf s.level = .ok level) (positive : 10 ≤ level)
    (accepted : Log.configure m s h.journal =
      (.ok path?, ⟨loggerFor level (path?.map Location.ofPath), t, h.journal.errors⟩))
    (opened : FileTree.Opened (path?.map Location.ofPath) h.journal.files t) :
    Kept (h.next (.configure m s)) := by
  have after : h.next (.configure m s) =
      ⟨⟨loggerFor level (path?.map Location.ofPath), t, h.journal.errors⟩,
        some ⟨level, path?.map Location.ofPath⟩, h.lines⟩ := by
    simp [next, Act.on, Act.inForce?, Act.linesIn, accepted, hl]
  rw [after]
  refine ⟨(nomatch ·), ?_, fun l => ?_⟩
  · intro c hc
    obtain rfl := Option.some.inj hc
    refine ⟨positive, rfl, fun l there => ?_⟩
    rw [opened l, if_pos there]
    rfl
  · rw [← kept.content l, opened l]
    split <;> rfl

theorem Kept.configure {h : History} (kept : Kept h) (m : Moment) (s : Setup)
    (named : levelOf s.level ≠ .ok 0) : Kept (h.next (.configure m s)) := by
  rcases configure_cases m s h.journal with
    ⟨f, t, refused, opened⟩ | ⟨level, path?, t, hl, accepted, opened⟩
  · exact kept.refuse refused opened
  · have positive : 10 ≤ level := by
      rcases levelOf_eq_ok hl with rfl | positive
      · exact absurd hl named
      · exact positive
    exact kept.accept hl positive accepted opened

theorem Kept.emit {h : History} (kept : Kept h) (m : Moment) (n : Int) (message : String) :
    Kept (h.next (.emit m n message)) := by
  have after : h.next (.emit m n message) = ⟨Log.emit m n message h.journal, h.inForce?,
      fun l => h.lines l ++ Act.linesIn h.inForce? l (.emit m n message)⟩ := rfl
  rw [after]
  cases hc : h.inForce? with
  | none =>
    have noFiles := emit_of_no_files (kept.noFiles hc) m n message
    refine ⟨fun _ => noFiles, fun _ hc => (Option.some_ne_none _ hc.symm).elim, fun l => ?_⟩
    simp [noFiles l, Act.linesIn, ← kept.content l, kept.noFiles hc l]
  | some c =>
    have governs := kept.governed c hc
    refine ⟨(nomatch ·), ?_, fun l => ?_⟩
    · intro c' hc'
      obtain rfl := Option.some.inj hc'
      exact governs.emit m n message
    · simp only [(governs.emit_eq m n message).2.2 l, Act.linesIn, Option.bind_some,
        String.join_append, ← kept.content l]
      split
      · next due =>
        obtain ⟨text, there⟩ := Option.isSome_iff_exists.mp (governs.mirror l due.1)
        simp [there]
      · simp

theorem Kept.after {h : History} (kept : Kept h) {as : List Act}
    (named : ∀ m s, .configure m s ∈ as → levelOf s.level ≠ .ok 0) : Kept (h.after as) := by
  induction as generalizing h with
  | nil => exact kept
  | cons a as ih =>
    have first : Kept (h.next a) := by
      cases a with
      | configure m s => exact kept.configure m s (named m s List.mem_cons_self)
      | emit m n message => exact kept.emit m n message
    exact ih first fun m s hs => named m s (List.mem_cons_of_mem _ hs)

end History

theorem contents?_configure (m : Moment) (s : Setup) (j : Journal) (l : Location) :
    (configure m s j).2.files.contents? l = j.files.contents? l ∨
    j.files.contents? l = none ∧ (configure m s j).2.files.contents? l = some "" := by
  rcases configure_cases m s j with ⟨f, t, conf, opened⟩ | ⟨level, path?, t, -, conf, opened⟩
  · rw [conf]
    exact .inl (by simpa using opened l)
  · rw [conf]
    simp only [opened l]
    split
    · cases j.files.contents? l with
      | none => exact .inr ⟨rfl, rfl⟩
      | some text => exact .inl rfl
    · exact .inl rfl

/-- After any run a record goes to the error stream from the level in force on and to the mirror from
DEBUG on. So each file holds the lines that it mirrored, and no set-up changes one. -/
theorem mirrors_keep_every_line (logger : Logger) (errors : String) (as : List Act)
    (named : ∀ m s, .configure m s ∈ as → levelOf s.level ≠ .ok 0) :
    let h : History := History.after { journal := { logger, errors } } as
    (∀ c, h.inForce? = some c → ∀ m n message,
      (emit m n message h.journal).errors =
        h.journal.errors ++ (if c.level ≤ n then line m n message else "") ∧
      (∀ l, c.mirror? = some l → ∃ text, h.journal.files.contents? l = some text ∧
        (emit m n message h.journal).files.contents? l =
          some (text ++ if Level.debug.number ≤ n then line m n message else "")) ∧
      ∀ l, c.mirror? ≠ some l →
        (emit m n message h.journal).files.contents? l = h.journal.files.contents? l) ∧
    (∀ l, (h.journal.files.contents? l).getD "" = String.join (h.lines l)) ∧
    ∀ m s l, (configure m s h.journal).2.files.contents? l = h.journal.files.contents? l ∨
      h.journal.files.contents? l = none ∧
        (configure m s h.journal).2.files.contents? l = some "" := by
  intro h
  have fresh : History.Kept { journal := { logger, errors } } :=
    ⟨fun _ _ => rfl, fun _ hc => (Option.some_ne_none _ hc.symm).elim, fun _ => rfl⟩
  have kept : h.Kept := fresh.after named
  refine ⟨fun c hc m n message => ?_, kept.content, fun m s l => contents?_configure m s _ l⟩
  have governs := kept.governed c hc
  obtain ⟨-, errors, files⟩ := governs.emit_eq m n message
  refine ⟨errors, fun l hl => ?_, fun l hl => by rw [files l, if_neg fun due => hl due.1]⟩
  obtain ⟨text, there⟩ := Option.isSome_iff_exists.mp (governs.mirror l hl)
  refine ⟨text, there, ?_⟩
  rw [files l, there]
  by_cases due : Level.debug.number ≤ n
  · simp [hl, due]
  · simp [due]

/-- The second set-up fails, and the third opens the file of the first again. -/
theorem mirrors_keep_every_line_of_reopened :
    let m : Moment := ⟨2, 3, 4, 5, 6⟩
    let l : Location := ["log", "q", "q_0203040506.log"]
    let setUp : Setup := { level := .text "warning", action := .text "q", toFile := .bool true }
    let as : List Act := [.configure m setUp, .emit m 20 "a",
      .configure m { setUp with level := .text "_styles" }, .configure m setUp, .emit m 30 "b"]
    let h : History := History.after { journal := {} } as
    (∀ m s, .configure m s ∈ as → levelOf s.level ≠ .ok 0) ∧
    (h.journal.files.contents? l).getD "" = line m 20 "a" ++ line m 30 "b" ∧
    (emit m 20 "c" h.journal).errors = h.journal.errors ∧
    (emit m 20 "c" h.journal).files.contents? l =
      some (line m 20 "a" ++ line m 30 "b" ++ line m 20 "c") := by
  intro m l setUp as h
  have named : ∀ m s, .configure m s ∈ as → levelOf s.level ≠ .ok 0 := by
    intro m s hs
    simp only [as, List.mem_cons, List.not_mem_nil, or_false, reduceCtorEq, false_or,
      Act.configure.injEq] at hs
    rcases hs with ⟨rfl, rfl⟩ | ⟨rfl, rfl⟩ | ⟨rfl, rfl⟩ <;> exact fun e => nomatch e
  obtain ⟨governed, content, -⟩ := mirrors_keep_every_line {} "" as named
  have mirrored : h.lines l = [line m 20 "a", line m 30 "b"] := by decide
  have inForce : h.inForce? = some ⟨30, some l⟩ := by decide
  obtain ⟨errors, mirror, -⟩ := governed _ inForce m 20 "c"
  obtain ⟨text, there, appended⟩ := mirror l rfl
  have content : (h.journal.files.contents? l).getD "" = line m 20 "a" ++ line m 30 "b" :=
    (content l).trans (by rw [mirrored]; simp [String.join])
  have whole : text = line m 20 "a" ++ line m 30 "b" := by rw [← content, there, Option.getD_some]
  refine ⟨named, content, ?_, ?_⟩
  · rw [errors, if_neg (by decide), String.append_empty]
  · rw [appended, whole, if_pos (by decide)]

end Fulltext.Log
