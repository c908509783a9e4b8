import Fulltext.Config.Basic
import Fulltext.Proofs.Value.Entries

namespace Fulltext

namespace Entries

/-- The mapping under a name; the empty one if there is none. -/
def part (es : Entries) (name : String) : Entries :=
  match es.named? name with
  | some (.map part) => part
  | _ => []

/-- The value under a key of a section. -/
def look (es : Entries) (sectionName key : String) : Option Value := (es.part sectionName).named? key

/-- A section is a mapping, null or not there. -/
def Readable (es : Entries) (sectionName : String) : Prop :=
  ∀ v, es.named? sectionName = some v → v = .null ∨ ∃ part, v = .map part

end Entries

namespace Config

def level? : Value → Option Log.Level
  | .text s => Log.Level.ofName? (Text.upper (Text.trim s))
  | _ => none

def flag? : Value → Option Bool
  | .bool b => some b
  | _ => none

def text? : Value → Option String
  | .text s => some s
  | _ => none

def action? (v : Value) : Option String := (text? v).map Text.trim

/-- A blank index is none. -/
def index? : Value → Option (Option String)
  | .null => some none
  | .text s => some (if Text.trim s = "" then none else some (Text.trim s))
  | _ => none

def fromZero? (v : Value) : Option Whole := (Whole.ofValue? v).filter fun w => 0 ≤ w.number

def limit? : Value → Option (Option Whole)
  | .null => some none
  | v => (fromZero? v).map some

def matchMode? : Value → Option (Option MatchMode)
  | .null => some none
  | .text s => (MatchMode.ofName? (Text.upper (Text.trim s))).map some
  | v => ((Whole.ofValue? v).bind fun w => MatchMode.ofNumber? w.number).map some

def weight? : Value × Value → Option (String × Whole)
  | (.text name, v) => ((Whole.ofValue? v).filter fun w => 0 < w.number).map fun w => (name, w)
  | _ => none

def weights? : Value → Option (List (String × Whole))
  | .null => some []
  | .map es => es.mapM weight?
  | _ => none

/-- The fields are the normal forms of the values that stand under the keys, and of the defaults of
keys that are not there. -/
structure Holds (c : Config) (look : String → String → Option Value) : Prop where
  level : level? ((look "log" "level").getD (.text "INFO")) = some c.runtime.level
  toFile : flag? ((look "log" "to_file").getD (.bool false)) = some c.runtime.toFile
  dir : text? ((look "log" "dir").getD (.text "log")) = some c.runtime.dir
  action : action? ((look "log" "action").getD (.text "query")) = some c.runtime.action
  index : index? ((look "query" "index").getD .null) = some c.query.index
  limit : limit? ((look "query" "limit").getD .null) = some c.query.limit
  offset : fromZero? ((look "query" "offset").getD (.int 0)) = some c.query.offset
  matchMode : matchMode? ((look "query" "match_mode").getD .null) = some c.query.matchMode
  fieldWeights : weights? ((look "query" "field_weights").getD .null) = some c.query.fieldWeights

theorem expectString_eq_ok_iff {v : Value} {key s : String} :
    expectString v key = .ok s ↔ text? v = some s := by
  cases v <;> simp [expectString, text?]

theorem expectBool_eq_ok_iff {v : Value} {key : String} {b : Bool} :
    expectBool v key = .ok b ↔ flag? v = some b := by
  cases v <;> simp [expectBool, flag?]

theorem expectInt_eq_ok_iff {v : Value} {key : String} {w : Whole} :
    expectInt v key = .ok w ↔ Whole.ofValue? v = some w := by
  rw [expectInt]
  cases Whole.ofValue? v <;> simp

theorem expectOptionalString_eq_ok_iff {v : Value} {key : String} {s : Option String} :
    expectOptionalString v key = .ok s ↔ index? v = some s := by
  cases v with
  | null => simp [expectOptionalString, index?]
  | text t => simp [expectOptionalString, index?, expectString, bind, Except.bind, pure, Except.pure]
  | _ => simp [expectOptionalString, index?, expectString, bind, Except.bind]

/-- No number of digits makes a mode out of an unknown number. -/
theorem numberedMode_eq_ok_iff {v : Value} {key : String} {m : Option MatchMode} (limit : Nat) :
    (do
      let w ← expectInt v key
      match MatchMode.ofNumber? w.number with
      | some m => return some m
      | none =>
        if limit ≤ w.number.natAbs then throw (.operand .malformedNumber)
        else throw (.config (.unknownModeNumber w.number))) = Except.ok m ↔
      ((Whole.ofValue? v).bind fun w => MatchMode.ofNumber? w.number).map some = some m := by
  rw [bind_eq_ok_iff]
  simp only [expectInt_eq_ok_iff]
  cases Whole.ofValue? v with
  | none => simp
  | some w =>
    simp only [Option.some.injEq, exists_eq_left', Option.bind_some]
    cases MatchMode.ofNumber? w.number with
    | some n => simp [pure, Except.pure]
    | none =>
      simp only [Option.map_none, reduceCtorEq, iff_false]
      split <;> exact fun h => nomatch h

theorem readMatchMode_eq_ok_iff {v : Value} {m : Option MatchMode} :
    readMatchMode v = .ok m ↔ matchMode? v = some m := by
  cases v with
  | null => simp [readMatchMode, matchMode?]
  | text s =>
    simp only [readMatchMode, matchMode?]
    cases MatchMode.ofName? (Text.upper (Text.trim s)) <;> simp
  | _ => exact numberedMode_eq_ok_iff _

theorem sectionOf_eq_ok_iff {es : Entries} {name : String} {part : Entries} :
    sectionOf (.map es) name false = .ok part ↔ es.Readable name ∧ part = es.part name := by
  rw [sectionOf, Entries.Readable, Entries.part]
  cases es.named? name with
  | none => simp [eq_comm]
  | some v => cases v <;> simp [eq_comm]

theorem expectInt_in_range_iff {v : Value} (key : String) {w : Whole} :
    expectInt v key = .ok w ∧ ¬w.number < 0 ↔ fromZero? v = some w := by
  rw [expectInt_eq_ok_iff, fromZero?, Option.filter_eq_some_iff, decide_eq_true_eq, Int.not_lt]

theorem expectOptionalInt_in_range_iff {v : Value} {key : String} {l : Option Whole} :
    expectOptionalInt v key = .ok l ∧ ¬l.any (·.number < 0) ↔ limit? v = some l := by
  have number : (expectInt v key >>= fun w => pure (some w)) = Except.ok l ∧
      ¬l.any (·.number < 0) ↔ (fromZero? v).map some = some l := by
    simp only [bind_eq_ok_iff, Option.map_eq_some_iff, ← expectInt_in_range_iff key]
    constructor
    · rintro ⟨⟨w, hw, hl⟩, range⟩
      obtain rfl : some w = l := Except.ok.inj hl
      exact ⟨w, ⟨hw, by simpa using range⟩, rfl⟩
    · rintro ⟨w, ⟨hw, range⟩, rfl⟩
      exact ⟨⟨w, hw, rfl⟩, by simpa using range⟩
  cases v with
  | null =>
    exact ⟨fun ⟨h, _⟩ => congrArg some (Except.ok.inj h), fun h =>
      Option.some.inj h ▸ ⟨rfl, by simp⟩⟩
  | _ => exact number

theorem expectEntries_positive_iff {key : String} {es : Entries} {ws : List (String × Whole)} :
    expectEntries key es = .ok ws ∧ checkWeights ws = .ok () ↔ es.mapM weight? = some ws := by
  induction es generalizing ws with
  | nil =>
    exact ⟨fun ⟨h, _⟩ => congrArg some (Except.ok.inj h), fun h =>
      Option.some.inj h ▸ ⟨rfl, rfl⟩⟩
  | cons e es ih =>
    obtain ⟨name, v⟩ := e
    rw [List.mapM_cons]
    simp only [Option.bind_eq_bind, Option.bind_eq_some_iff, ← ih]
    cases name with
    | text name =>
      simp only [expectEntries, bind_eq_ok_iff, expectInt_eq_ok_iff]
      constructor
      · rintro ⟨⟨w, hw, ws', hws, e⟩, positive⟩
        obtain rfl : (name, w) :: ws' = ws := Except.ok.inj e
        rw [checkWeights] at positive
        split at positive
        · cases positive
        · next h => exact ⟨(name, w), by simp [weight?, hw, Option.filter, Int.not_le.mp h],
            ws', ⟨hws, positive⟩, rfl⟩
      · rintro ⟨e, he, ws', ⟨hws, positive⟩, h⟩
        obtain rfl := Option.some.inj h
        obtain ⟨w, hw, rfl⟩ := Option.map_eq_some_iff.mp he
        obtain ⟨hw, above⟩ := Option.filter_eq_some_iff.mp hw
        have above : ¬w.number ≤ 0 := by simpa using above
        exact ⟨⟨w, hw, ws', hws, rfl⟩, by rw [checkWeights, if_neg above, positive]⟩
    | _ => simp [expectEntries, weight?]

theorem expectIntMapping_positive_iff {v : Value} {key : String} {ws : List (String × Whole)} :
    expectIntMapping v key = .ok ws ∧ checkWeights ws = .ok () ↔ weights? v = some ws := by
  cases v with
  | null =>
    exact ⟨fun ⟨h, _⟩ => congrArg some (Except.ok.inj h), fun h =>
      Option.some.inj h ▸ ⟨rfl, rfl⟩⟩
  | map es => exact expectEntries_positive_iff
  | _ => simp [expectIntMapping, weights?]

theorem readRuntime_eq_ok_iff {es : Entries} {d : RuntimeDraft} :
    readRuntime (.map es) = .ok d ↔ es.Readable "log" ∧ ∃ level action,
      text? ((es.look "log" "level").getD (.text "INFO")) = some level ∧
      flag? ((es.look "log" "to_file").getD (.bool false)) = some d.toFile ∧
      text? ((es.look "log" "dir").getD (.text "log")) = some d.dir ∧
      text? ((es.look "log" "action").getD (.text "query")) = some action ∧
      d.level = Text.upper (Text.trim level) ∧ d.action = Text.trim action := by
  simp only [readRuntime, bind_eq_ok_iff, sectionOf_eq_ok_iff, expectString_eq_ok_iff,
    expectBool_eq_ok_iff]
  constructor
  · rintro ⟨_, ⟨readable, rfl⟩, level, hl, toFile, hf, dir, hd, action, ha, h⟩
    obtain rfl := Except.ok.inj h
    exact ⟨readable, level, action, hl, hf, hd, ha, rfl, rfl⟩
  · rintro ⟨readable, level, action, hl, hf, hd, ha, level_eq, action_eq⟩
    refine ⟨_, ⟨readable, rfl⟩, level, hl, _, hf, _, hd, action, ha, ?_⟩
    rw [← level_eq, ← action_eq]
    rfl

theorem checkQuery_eq_ok_iff {q : QueryConfig} :
    checkQuery q = .ok () ↔
      ¬q.limit.any (·.number < 0) ∧ ¬q.offset.number < 0 ∧ checkWeights q.fieldWeights = .ok () := by
  simp only [checkQuery, throw_unless_eq_ok_iff]

theorem readQuery_checked_iff {es : Entries} {q : QueryConfig} :
    readQuery (.map es) = .ok q ∧ checkQuery q = .ok () ↔ es.Readable "query" ∧
      index? ((es.look "query" "index").getD .null) = some q.index ∧
      limit? ((es.look "query" "limit").getD .null) = some q.limit ∧
      fromZero? ((es.look "query" "offset").getD (.int 0)) = some q.offset ∧
      matchMode? ((es.look "query" "match_mode").getD .null) = some q.matchMode ∧
      weights? ((es.look "query" "field_weights").getD .null) = some q.fieldWeights := by
  simp only [readQuery, bind_eq_ok_iff, sectionOf_eq_ok_iff, checkQuery_eq_ok_iff,
    expectOptionalString_eq_ok_iff, readMatchMode_eq_ok_iff]
  constructor
  · rintro ⟨⟨_, ⟨readable, rfl⟩, index, hi, limit, hl, offset, ho, mode, hm, weights, hw, h⟩,
      pageLimit, pageOffset, positive⟩
    obtain rfl := Except.ok.inj h
    exact ⟨readable, hi, expectOptionalInt_in_range_iff.mp ⟨hl, pageLimit⟩,
      (expectInt_in_range_iff _).mp ⟨ho, pageOffset⟩, hm,
      expectIntMapping_positive_iff.mp ⟨hw, positive⟩⟩
  · rintro ⟨readable, hi, hl, ho, hm, hw⟩
    obtain ⟨hl, pageLimit⟩ := expectOptionalInt_in_range_iff.mpr hl
    obtain ⟨ho, pageOffset⟩ := (expectInt_in_range_iff _).mpr ho
    obtain ⟨hw, positive⟩ := expectIntMapping_positive_iff.mpr hw
    exact ⟨⟨_, ⟨readable, rfl⟩, _, hi, _, hl, _, ho, _, hm, _, hw, rfl⟩,
      pageLimit, pageOffset, positive⟩

theorem checkRuntime_of_level {d : RuntimeDraft} {l : Log.Level}
    (h : Log.Level.ofName? d.level = some l) :
    checkRuntime d =
      if d.toFile ∧ Text.allBlank d.dir then .error (.config .emptyDir)
      else if d.toFile ∧ d.action = "" then .error (.config .emptyAction)
      else .ok ⟨l, d.toFile, d.dir, d.action⟩ := by
  simp only [checkRuntime, h, Bool.and_eq_true, beq_iff_eq]

theorem runtime_of_checkRuntime {d : RuntimeDraft} {r : Runtime} (h : checkRuntime d = .ok r) :
    Log.Level.ofName? d.level = some r.level ∧ r = ⟨r.level, d.toFile, d.dir, d.action⟩ := by
  cases hl : Log.Level.ofName? d.level with
  | none => simp [checkRuntime, hl] at h
  | some l =>
    rw [checkRuntime_of_level hl] at h
    split at h
    · cases h
    · split at h
      · cases h
      · obtain rfl := Except.ok.inj h
        exact ⟨rfl, rfl⟩

theorem level?_eq_some_iff {v : Value} {l : Log.Level} :
    level? v = some l ↔
      ∃ s, text? v = some s ∧ Log.Level.ofName? (Text.upper (Text.trim s)) = some l := by
  cases v <;> simp [level?, text?]

theorem parse_of_read {raw : Value} {d : RuntimeDraft} {q : QueryConfig}
    (hr : readRuntime raw = .ok d) (hq : readQuery raw = .ok q) (range : checkQuery q = .ok ()) :
    parse raw = (checkRuntime d).map fun r => ⟨r, q⟩ := by
  simp only [parse, hr, hq, bind, Except.bind]
  cases checkRuntime d with
  | error f => rfl
  | ok r =>
    rw [range]
    rfl

/-- Once each key has its normal form, only a mirror file without a place is refused. -/
theorem parse_of_holds {es : Entries} {c : Config} (log : es.Readable "log")
    (query : es.Readable "query") (h : c.Holds es.look) :
    parse (.map es) =
      if c.runtime.toFile ∧ Text.allBlank c.runtime.dir then .error (.config .emptyDir)
      else if c.runtime.toFile ∧ c.runtime.action = "" then .error (.config .emptyAction)
      else .ok c := by
  obtain ⟨hq, range⟩ := readQuery_checked_iff.mpr
    ⟨query, h.index, h.limit, h.offset, h.matchMode, h.fieldWeights⟩
  obtain ⟨level, hl, hname⟩ := level?_eq_some_iff.mp h.level
  obtain ⟨action, ha, haction⟩ := Option.map_eq_some_iff.mp h.action
  let d : RuntimeDraft :=
    ⟨Text.upper (Text.trim level), c.runtime.toFile, c.runtime.dir, c.runtime.action⟩
  have hr : readRuntime (.map es) = .ok d :=
    readRuntime_eq_ok_iff.mpr ⟨log, level, action, hl, h.toFile, h.dir, ha, rfl, haction.symm⟩
  rw [parse_of_read hr hq range, checkRuntime_of_level (d := d) hname]
  split
  · rfl
  · split
    · rfl
    · rfl

theorem holds_of_parse {es : Entries} {c : Config} (h : parse (.map es) = .ok c) :
    es.Readable "log" ∧ es.Readable "query" ∧ c.Holds es.look := by
  simp only [parse, bind_eq_ok_iff] at h
  obtain ⟨d, hr, q, hq, runtime, hc, _, range, e⟩ := h
  obtain rfl := Except.ok.inj e
  obtain ⟨log, level, action, hl, hf, hd, ha, levelText, actionText⟩ := readRuntime_eq_ok_iff.mp hr
  obtain ⟨query, hi, hlim, ho, hm, hw⟩ := readQuery_checked_iff.mp ⟨hq, range⟩
  obtain ⟨hname, hruntime⟩ := runtime_of_checkRuntime hc
  refine ⟨log, query, ?_, ?_, ?_, ?_, hi, hlim, ho, hm, hw⟩
  · exact level?_eq_some_iff.mpr ⟨level, hl, levelText ▸ hname⟩
  · rw [hruntime]
    exact hf
  · rw [hruntime]
    exact hd
  · rw [hruntime]
    exact Option.map_eq_some_iff.mpr ⟨action, ha, actionText.symm⟩

end Config

end Fulltext
