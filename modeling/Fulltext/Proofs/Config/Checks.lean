import Fulltext.Proofs.Config.NormalForm

namespace Fulltext

/-- A value is of the wrong type, or it is unknown or out of range. -/
inductive FaultKind where
  | type
  | value
  deriving DecidableEq, Repr

def ConfigFault.kind : ConfigFault → FaultKind
  | .wrongType _ _ | .keysNotStrings _ => .type
  | _ => .value

def Expected.fits : Expected → Value → Bool
  | .object, .map _ => true
  | .string, .text _ => true
  | .boolean, .bool _ => true
  | .integer, v => (Whole.ofValue? v).isSome
  | _, _ => false

def Value.isNull : Value → Bool
  | .null => true
  | _ => false

theorem isPrefix_append_text {s t : String} (h : s.toList <+: t.toList) (u : String) :
    s.toList <+: (t ++ u).toList := by
  rw [String.toList_append]
  exact h.trans (List.prefix_append _ _)

namespace Config

/-- A check of what stands under a key, with the fault of a mapping that does not pass it. The
message of the fault begins with the key. -/
structure Check where
  key : String
  kind : FaultKind
  fault : ConfigFault
  passes : Bool
  kind_fault : fault.kind = kind
  names_key : key.toList <+: fault.message.toList

namespace Check

/-- A key that is not there has no type. -/
def typed (key : String) (expected : Expected) (nullable : Bool) (v : Option Value) : Check :=
  ⟨key, .type, .wrongType key expected,
    v.all fun v => expected.fits v || (nullable && v.isNull), rfl,
    isPrefix_append_text (isPrefix_append_text (List.prefix_refl _) _) _⟩

def level (v : Option Value) : Check :=
  ⟨"log.level", .value, .unknownLevel Log.Level.sortedNames, v.all fun v => (level? v).isSome, rfl,
    isPrefix_append_text (by decide) _⟩

def isBlank (v : Option Value) : Bool := v.any fun v => (text? v).any Text.allBlank

def dir (mirrored : Bool) (v : Option Value) : Check :=
  ⟨"log.dir", .value, .emptyDir, !(mirrored && isBlank v), rfl, by decide⟩

def action (mirrored : Bool) (v : Option Value) : Check :=
  ⟨"log.action", .value, .emptyAction, !(mirrored && isBlank v), rfl, by decide⟩

def isNegative (v : Option Value) : Bool :=
  v.any fun v => (Whole.ofValue? v).any fun w => w.number < 0

def limit (v : Option Value) : Check :=
  ⟨"query.limit", .value, .negativeLimit, !isNegative v, rfl, by decide⟩

def offset (v : Option Value) : Check :=
  ⟨"query.offset", .value, .negativeOffset, !isNegative v, rfl, by decide⟩

def modeNumber (v : Option Value) : Check :=
  match v.bind Whole.ofValue? with
  | some w =>
    ⟨"query.match_mode", .value, .unknownModeNumber w.number,
      (MatchMode.ofNumber? w.number).isSome, rfl, isPrefix_append_text (by decide) _⟩
  | none => typed "query.match_mode" .integer true v

/-- A mode is given by its name or by its number. -/
def matchMode : Option Value → Check
  | some (.text s) =>
    ⟨"query.match_mode", .value, .unknownModeName (MatchMode.every.map MatchMode.name),
      (MatchMode.ofName? (Text.upper (Text.trim s))).isSome, rfl,
      isPrefix_append_text (by decide) _⟩
  | v => modeNumber v

def weightKey (name : String) : String := "query.field_weights" ++ "." ++ name

def weightType : Value × Value → Check
  | (.text name, v) => typed (weightKey name) .integer false (some v)
  | _ => ⟨"query.field_weights", .type, .keysNotStrings "query.field_weights", false, rfl,
      isPrefix_append_text (List.prefix_refl _) _⟩

/-- A name that is no text has failed its type already. -/
def weight? : Value × Value → Option Check
  | (.text name, v) =>
    some ⟨weightKey name, .value, .weightNotPositive name,
      (Whole.ofValue? v).any fun w => 0 < w.number, rfl,
      isPrefix_append_text (List.prefix_refl _) _⟩
  | _ => none

end Check

def logTypes (es : Entries) : List Check :=
  [.typed "log" .object true (es.named? "log"),
    .typed "log.level" .string false (es.look "log" "level"),
    .typed "log.to_file" .boolean false (es.look "log" "to_file"),
    .typed "log.dir" .string false (es.look "log" "dir"),
    .typed "log.action" .string false (es.look "log" "action")]

def queryTypes (es : Entries) : List Check :=
  .typed "query" .object true (es.named? "query") ::
    .typed "query.index" .string true (es.look "query" "index") ::
    .typed "query.limit" .integer true (es.look "query" "limit") ::
    .typed "query.offset" .integer false (es.look "query" "offset") ::
    .matchMode (es.look "query" "match_mode") ::
    .typed "query.field_weights" .object true (es.look "query" "field_weights") ::
    ((es.part "query").part "field_weights").map Check.weightType

def logRanges (es : Entries) : List Check :=
  let mirrored := (es.look "log" "to_file").any fun v => flag? v == some true
  [.level (es.look "log" "level"),
    .dir mirrored (es.look "log" "dir"),
    .action mirrored (es.look "log" "action")]

def queryRanges (es : Entries) : List Check :=
  .limit (es.look "query" "limit") ::
    .offset (es.look "query" "offset") ::
    ((es.part "query").part "field_weights").filterMap Check.weight?

/-- All that a mapping has to pass; the types come before the ranges. -/
def checks (es : Entries) : List Check :=
  logTypes es ++ queryTypes es ++ logRanges es ++ queryRanges es

def firstFailing (cs : List Check) : Option Check := cs.find? fun c => !c.passes

/-- An outcome that checks decide: it is the fault of the first that fails, or else a success. -/
structure Settles {α : Type} (cs : List Check) (x : Except Fault α) : Prop where
  refused : ∀ c, firstFailing cs = some c → x = .error (.config c.fault)
  accepted : firstFailing cs = none → ∃ a, x = .ok a

namespace Settles

variable {α β : Type} {c : Check} {cs ds : List Check} {x : Except Fault α}
  {k : α → Except Fault β}

theorem nil (a : α) : Settles [] (.ok a : Except Fault α) :=
  ⟨fun _ h => by simp [firstFailing] at h, fun _ => ⟨a, rfl⟩⟩

theorem failing (h : c.passes = false) (hx : x = .error (.config c.fault)) :
    Settles (c :: cs) x := by
  have first : firstFailing (c :: cs) = some c := by simp [firstFailing, h]
  exact ⟨fun d hd => by rw [hx, Option.some.inj (first.symm.trans hd)],
    fun hd => nomatch first.symm.trans hd⟩

theorem passing (h : c.passes = true) (hx : Settles cs x) : Settles (c :: cs) x := by
  have first : firstFailing (c :: cs) = firstFailing cs := by simp [firstFailing, h]
  exact ⟨fun d hd => hx.refused d (first ▸ hd), fun hd => hx.accepted (first ▸ hd)⟩

theorem bind (hx : Settles cs x) (hk : ∀ a, x = .ok a → Settles ds (k a)) :
    Settles (cs ++ ds) (x >>= k) := by
  have first : firstFailing (cs ++ ds) = (firstFailing cs).or (firstFailing ds) :=
    List.find?_append
  cases hc : firstFailing cs with
  | some c =>
    rw [hc, Option.some_or] at first
    have failed : (x >>= k) = .error (.config c.fault) := by rw [hx.refused c hc]; rfl
    exact ⟨fun d hd => by rw [failed, Option.some.inj (first.symm.trans hd)],
      fun hd => nomatch first.symm.trans hd⟩
  | none =>
    rw [hc, Option.none_or] at first
    obtain ⟨a, ha⟩ := hx.accepted hc
    have rest : (x >>= k) = k a := by rw [ha]; rfl
    rw [rest]
    exact ⟨fun d hd => (hk a ha).refused d (first ▸ hd), fun hd => (hk a ha).accepted (first ▸ hd)⟩

theorem cons_bind (hx : Settles [c] x) (hk : ∀ a, x = .ok a → Settles cs (k a)) :
    Settles (c :: cs) (x >>= k) :=
  bind hx hk

theorem map (hx : Settles cs x) (f : α → β) : Settles cs (x >>= fun a => .ok (f a)) := by
  have h : Settles (cs ++ []) (x >>= fun a => .ok (f a)) := bind hx fun a _ => nil (f a)
  rwa [List.append_nil] at h

end Settles

theorem all_getD {p : Value → Bool} {d : Value} (h : p d = true) (v : Option Value) :
    v.all p = p (v.getD d) := by
  cases v with
  | none => exact h.symm
  | some v => rfl

theorem any_getD {p : Value → Bool} {d : Value} (h : p d = false) (v : Option Value) :
    v.any p = p (v.getD d) := by
  cases v with
  | none => exact h.symm
  | some v => rfl

theorem Check.typed_getD {key : String} {expected : Expected} {nullable : Bool} {d : Value}
    (h : (expected.fits d || (nullable && d.isNull)) = true) (v : Option Value) :
    typed key expected nullable (some (v.getD d)) = typed key expected nullable v := by
  cases v with
  | none => simp [typed, h]
  | some v => rfl

theorem settles_sectionOf (es : Entries) (name : String) :
    Settles [.typed name .object true (es.named? name)] (sectionOf (.map es) name false) := by
  rw [sectionOf]
  cases es.named? name with
  | none => exact .passing rfl (.nil _)
  | some v =>
    cases v with
    | null => exact .passing rfl (.nil _)
    | map part => exact .passing rfl (.nil part)
    | _ => exact .failing rfl rfl

theorem settles_expectString (v : Value) (key : String) :
    Settles [.typed key .string false (some v)] (expectString v key) := by
  cases v with
  | text s => exact .passing rfl (.nil s)
  | _ => exact .failing rfl rfl

theorem settles_expectBool (v : Value) (key : String) :
    Settles [.typed key .boolean false (some v)] (expectBool v key) := by
  cases v with
  | bool b => exact .passing rfl (.nil b)
  | _ => exact .failing rfl rfl

theorem settles_expectInt (v : Value) (key : String) :
    Settles [.typed key .integer false (some v)] (expectInt v key) := by
  have passes : (Check.typed key .integer false (some v)).passes = (Whole.ofValue? v).isSome := by
    simp [Check.typed, Expected.fits]
  rw [expectInt]
  cases h : Whole.ofValue? v with
  | some w => exact .passing (passes.trans (by rw [h, Option.isSome_some])) (.nil w)
  | none => exact .failing (passes.trans (by rw [h, Option.isSome_none])) rfl

theorem settles_expectOptionalString (v : Value) (key : String) :
    Settles [.typed key .string true (some v)] (expectOptionalString v key) := by
  cases v with
  | null => exact .passing rfl (.nil none)
  | text s => exact .passing rfl (.nil _)
  | _ => exact .failing rfl rfl

theorem settles_expectOptionalInt (v : Value) (key : String) :
    Settles [.typed key .integer true (some v)] (expectOptionalInt v key) := by
  cases v with
  | null => exact .passing rfl (.nil none)
  | _ => exact (settles_expectInt _ key).map some

/-- A number, if it is one, that is not too long to be written into a message. -/
def ShortNumber (v : Value) : Prop :=
  ∀ w, Whole.ofValue? v = some w → w.number.natAbs < Nat.pow 10 Reading.digitLimit

theorem settles_modeNumber {v : Value} (given : v.isNull = false) (short : ShortNumber v) :
    Settles [.modeNumber (some v)] (do
      let w ← expectInt v "query.match_mode"
      match MatchMode.ofNumber? w.number with
      | some m => return some m
      | none =>
        if Nat.pow 10 Reading.digitLimit ≤ w.number.natAbs then throw (.operand .malformedNumber)
        else throw (.config (.unknownModeNumber w.number))) := by
  simp only [Check.modeNumber, Option.bind_some, expectInt]
  cases h : Whole.ofValue? v with
  | none => exact .failing (by simp [Check.typed, Expected.fits, given, h]) rfl
  | some w =>
    simp only [bind, Except.bind]
    cases MatchMode.ofNumber? w.number with
    | some m => exact .passing rfl (.nil (some m))
    | none => exact .failing rfl (if_neg (Nat.not_le.mpr (short w h)))

theorem settles_readMatchMode {v : Value} (short : ShortNumber v) :
    Settles [.matchMode (some v)] (readMatchMode v) := by
  cases v with
  | null => exact .passing rfl (.nil none)
  | text s =>
    simp only [readMatchMode, Check.matchMode]
    cases MatchMode.ofName? (Text.upper (Text.trim s)) with
    | some m => exact .passing rfl (.nil (some m))
    | none => exact .failing rfl rfl
  | _ => exact settles_modeNumber rfl short

theorem settles_expectEntries (es : Entries) :
    Settles (es.map Check.weightType) (expectEntries "query.field_weights" es) := by
  induction es with
  | nil => exact .nil []
  | cons e es ih =>
    obtain ⟨name, v⟩ := e
    cases name with
    | text name => exact .cons_bind (settles_expectInt v _) fun w _ => ih.map _
    | _ => exact .failing rfl rfl

theorem settles_expectIntMapping (es : Entries) :
    Settles (.typed "query.field_weights" .object true (es.named? "field_weights") ::
      (es.part "field_weights").map Check.weightType)
      (expectIntMapping (valueOf es "field_weights" .null) "query.field_weights") := by
  rw [valueOf, Entries.part]
  cases es.named? "field_weights" with
  | none => exact .passing rfl (.nil [])
  | some v =>
    cases v with
    | null => exact .passing rfl (.nil [])
    | map part => exact .passing rfl (settles_expectEntries part)
    | _ => exact .failing rfl rfl

theorem settles_readRuntime (es : Entries) : Settles (logTypes es) (readRuntime (.map es)) := by
  refine .cons_bind (settles_sectionOf es "log") fun part h => ?_
  obtain rfl := (sectionOf_eq_ok_iff.mp h).2
  have texts {key name default : String} :
      Settles [.typed name .string false (es.look "log" key)]
        (expectString (valueOf (es.part "log") key (.text default)) name) := by
    rw [← Check.typed_getD (d := .text default) rfl]
    exact settles_expectString _ name
  have flag : Settles [.typed "log.to_file" .boolean false (es.look "log" "to_file")]
      (expectBool (valueOf (es.part "log") "to_file" (.bool false)) "log.to_file") := by
    rw [← Check.typed_getD (d := .bool false) rfl]
    exact settles_expectBool _ _
  exact .cons_bind texts fun _ _ => .cons_bind flag fun _ _ => .cons_bind texts fun _ _ =>
    texts.map _

theorem settles_readQuery {es : Entries}
    (short : ∀ v, es.look "query" "match_mode" = some v → ShortNumber v) :
    Settles (queryTypes es) (readQuery (.map es)) := by
  refine .cons_bind (settles_sectionOf es "query") fun part h => ?_
  obtain rfl := (sectionOf_eq_ok_iff.mp h).2
  have index : Settles [.typed "query.index" .string true (es.look "query" "index")]
      (expectOptionalString (valueOf (es.part "query") "index" .null) "query.index") := by
    rw [← Check.typed_getD (d := .null) rfl]
    exact settles_expectOptionalString _ _
  have limit : Settles [.typed "query.limit" .integer true (es.look "query" "limit")]
      (expectOptionalInt (valueOf (es.part "query") "limit" .null) "query.limit") := by
    rw [← Check.typed_getD (d := .null) rfl]
    exact settles_expectOptionalInt _ _
  have offset : Settles [.typed "query.offset" .integer false (es.look "query" "offset")]
      (expectInt (valueOf (es.part "query") "offset" (.int 0)) "query.offset") := by
    rw [← Check.typed_getD (d := .int 0) rfl]
    exact settles_expectInt _ _
  have mode : Settles [.matchMode (es.look "query" "match_mode")]
      (readMatchMode ((es.look "query" "match_mode").getD .null)) := by
    cases h : es.look "query" "match_mode" with
    | none => exact .passing rfl (.nil none)
    | some v => exact settles_readMatchMode (short v h)
  exact .cons_bind index fun _ _ => .cons_bind limit fun _ _ => .cons_bind offset fun _ _ =>
    .cons_bind mode fun _ _ => (settles_expectIntMapping _).map _

theorem level?_of_text {v : Value} {s : String} (h : text? v = some s) :
    level? v = Log.Level.ofName? (Text.upper (Text.trim s)) := by
  cases v with
  | text t => rw [← Option.some.inj h, level?]
  | _ => cases h

theorem settles_checkRuntime {es : Entries} {d : RuntimeDraft}
    (h : readRuntime (.map es) = .ok d) : Settles (logRanges es) (checkRuntime d) := by
  obtain ⟨-, level, action, hl, hf, hd, ha, levelText, actionText⟩ := readRuntime_eq_ok_iff.mp h
  -- The checks look at the mapping, the code at what was read from it, defaults included.
  have known : (Check.level (es.look "log" "level")).passes =
      (Log.Level.ofName? d.level).isSome := by
    rw [Check.level, all_getD (d := .text "INFO") (by decide), level?_of_text hl, levelText]
  have mirrored : ((es.look "log" "to_file").any fun v => flag? v == some true) = d.toFile := by
    rw [any_getD (d := .bool false) rfl, hf]
    cases d.toFile <;> rfl
  have dir : Check.isBlank (es.look "log" "dir") = Text.allBlank d.dir := by
    rw [Check.isBlank, any_getD (d := .text "log") (by decide), hd, Option.any_some]
  have action : Check.isBlank (es.look "log" "action") = (d.action == "") := by
    rw [Check.isBlank, any_getD (d := .text "query") (by decide), ha, Option.any_some, actionText,
      Bool.eq_iff_iff, beq_iff_eq, Text.trim_eq_empty_iff]
  rw [checkRuntime]
  cases hn : Log.Level.ofName? d.level with
  | none => exact .failing (known.trans (by rw [hn, Option.isSome_none])) rfl
  | some l =>
    refine .passing (known.trans (by rw [hn, Option.isSome_some])) ?_
    cases hdir : d.toFile && Text.allBlank d.dir with
    | true => exact .failing (by simp [Check.dir, mirrored, dir, hdir]) rfl
    | false =>
      refine .passing (by simp [Check.dir, mirrored, dir, hdir]) ?_
      cases haction : d.toFile && d.action == "" with
      | true => exact .failing (by simp [Check.action, mirrored, action, haction]) rfl
      | false => exact .passing (by simp [Check.action, mirrored, action, haction]) (.nil _)

theorem settles_checkWeights {es : Entries} {key : String} {ws : List (String × Whole)}
    (h : expectEntries key es = .ok ws) :
    Settles (es.filterMap Check.weight?) (checkWeights ws) := by
  induction es generalizing ws with
  | nil =>
    obtain rfl := Except.ok.inj h
    exact .nil ()
  | cons e es ih =>
    obtain ⟨name, v⟩ := e
    cases name with
    | text name =>
      simp only [expectEntries, bind_eq_ok_iff, expectInt_eq_ok_iff] at h
      obtain ⟨w, hw, ws', hws, e⟩ := h
      obtain rfl := Except.ok.inj e
      rw [checkWeights]
      split
      · next h => exact .failing (by simpa [hw] using h) rfl
      · next h => exact .passing (by simpa [hw] using h) (ih hws)
    | _ => cases h

theorem expectEntries_of_expectIntMapping {es : Entries} {name key : String}
    {ws : List (String × Whole)} (h : expectIntMapping (valueOf es name .null) key = .ok ws) :
    expectEntries key (es.part name) = .ok ws := by
  rw [valueOf] at h
  rw [Entries.part]
  cases hv : es.named? name with
  | none =>
    rw [hv] at h
    exact h
  | some v =>
    rw [hv] at h
    cases v with
    | null => exact h
    | map part => exact h
    | _ => cases h

theorem ofValue?_of_expectOptionalInt {v : Value} {key : String} {l : Option Whole}
    (h : expectOptionalInt v key = .ok l) : Whole.ofValue? v = l := by
  cases v with
  | null => exact Except.ok.inj h
  | _ =>
    obtain ⟨w, hw, e⟩ := bind_eq_ok_iff.mp h
    rw [expectInt_eq_ok_iff.mp hw, ← Except.ok.inj e]

theorem settles_checkQuery {es : Entries} {q : QueryConfig}
    (h : readQuery (.map es) = .ok q) : Settles (queryRanges es) (checkQuery q) := by
  simp only [readQuery, bind_eq_ok_iff, sectionOf_eq_ok_iff] at h
  obtain ⟨_, ⟨-, rfl⟩, index, -, limit, hl, offset, ho, mode, -, weights, hw, e⟩ := h
  obtain rfl := Except.ok.inj e
  have limitBelow : Check.isNegative (es.look "query" "limit") = limit.any (·.number < 0) := by
    rw [Check.isNegative, any_getD (d := .null) rfl]
    exact congrArg (Option.any _) (ofValue?_of_expectOptionalInt hl)
  have offsetBelow : Check.isNegative (es.look "query" "offset") = decide (offset.number < 0) := by
    rw [Check.isNegative, any_getD (d := .int 0) rfl]
    exact congrArg (Option.any _) (expectInt_eq_ok_iff.mp ho)
  rw [checkQuery]
  cases hlimit : limit.any (·.number < 0) with
  | true => exact .failing (by simp [Check.limit, limitBelow, hlimit]) (if_pos rfl)
  | false =>
    refine .passing (by simp [Check.limit, limitBelow, hlimit]) ?_
    by_cases hoffset : offset.number < 0
    · exact .failing (by simp [Check.offset, offsetBelow, hoffset]) (if_pos hoffset)
    · refine .passing (by simp [Check.offset, offsetBelow, hoffset]) ?_
      simpa [hoffset] using settles_checkWeights (expectEntries_of_expectIntMapping hw)

theorem settles_parse {es : Entries}
    (short : ∀ v, es.look "query" "match_mode" = some v → ShortNumber v) :
    Settles (checks es) (parse (.map es)) := by
  rw [checks, List.append_assoc, List.append_assoc]
  exact .bind (settles_readRuntime es) fun d hd => .bind (settles_readQuery short) fun q hq =>
    .bind (settles_checkRuntime hd) fun r _ => (settles_checkQuery hq).map _

/-- A mapping is refused exactly if a check fails, with the fault of the first that does, and each
fault names its key. -/
theorem parse_refused_by_first_failing {es : Entries}
    (short : ∀ v, es.look "query" "match_mode" = some v → ShortNumber v) :
    (∀ f, parse (.map es) = .error f ↔
      ∃ c, firstFailing (checks es) = some c ∧ f = .config c.fault) ∧
    ((∃ cfg, parse (.map es) = .ok cfg) ↔ ∀ c ∈ checks es, c.passes) ∧
    ∀ c ∈ checks es, c.fault.kind = c.kind ∧ c.key.toList <+: c.fault.message.toList := by
  have settled := settles_parse short
  refine ⟨fun f => ⟨fun h => ?_, ?_⟩, ⟨?_, fun h => ?_⟩, fun c _ => ⟨c.kind_fault, c.names_key⟩⟩
  · cases first : firstFailing (checks es) with
    | some c => exact ⟨c, rfl, Except.error.inj (h.symm.trans (settled.refused c first))⟩
    | none =>
      obtain ⟨cfg, accepted⟩ := settled.accepted first
      exact nomatch h.symm.trans accepted
  · rintro ⟨c, first, rfl⟩
    exact settled.refused c first
  · rintro ⟨cfg, accepted⟩ c hc
    cases first : firstFailing (checks es) with
    | some c => exact nomatch accepted.symm.trans (settled.refused c first)
    | none => simpa using List.find?_eq_none.mp first c hc
  · exact settled.accepted (List.find?_eq_none.mpr fun c hc => by simpa using h c hc)

/-- The level, the directory and the limit are wrong as well, but types and modes come first. -/
theorem parse_refused_by_first_failing_mode :
    let es : Entries := [(.text "query", .map [(.text "limit", .int (-1)),
        (.text "match_mode", .int 9)]),
      (.text "log", .map [(.text "level", .text "loud"), (.text "to_file", .bool true),
        (.text "dir", .text " ")])]
    (∀ v, es.look "query" "match_mode" = some v → ShortNumber v) ∧
      parse (.map es) = .error (.config (.unknownModeNumber 9)) := by
  intro es
  have short : ∀ v, es.look "query" "match_mode" = some v → ShortNumber v := by
    intro v hv w hw
    obtain rfl : Value.int 9 = v := Option.some.inj hv
    obtain rfl : Whole.int 9 = w := Option.some.inj hw
    have enough (n : Nat) (h : n ≠ 0) : 10 ≤ Nat.pow 10 n := Nat.le_self_pow h 10
    exact Nat.lt_of_lt_of_le (by decide) (enough Reading.digitLimit (by decide))
  have first : firstFailing (checks es) = some (.matchMode (some (.int 9))) := rfl
  exact ⟨short, ((parse_refused_by_first_failing short).1 _).mpr ⟨_, first, rfl⟩⟩

end Config

end Fulltext
