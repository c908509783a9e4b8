import Fulltext.Proofs.Config.MergeLaws
import Fulltext.Proofs.Query.Defaults
import Fulltext.Proofs.Text.Spelling
import Mathlib.Data.List.Perm.Basic

namespace Fulltext

theorem Whole.isMap_value (w : Whole) : w.value.isMap = false := by
  cases w <;> rfl

/-- Apart from the weights, no default is a mapping. -/
theorem QueryConfig.isMap_defaults (q : QueryConfig) : q.defaults.index.isMap = false ∧
    q.defaults.limit.isMap = false ∧ q.defaults.offset.isMap = false := by
  refine ⟨?index, ?limit, q.offset.isMap_value⟩
  case index =>
    rw [defaults]
    cases q.index <;> rfl
  case limit =>
    rw [defaults]
    cases q.limit with
    | none => rfl
    | some w => exact w.isMap_value

namespace Config

/-- The ways to write a match mode down. A name may be written in letters of either case, between
blanks. -/
inductive Spelled : Option MatchMode → Value → Prop
  | none : Spelled none .null
  | mode (m : MatchMode) : Spelled (some m) (.matchMode m)
  | number (m : MatchMode) : Spelled (some m) (.int m.number)
  | name (m : MatchMode) (before letters after : List Char)
      (blank : ∀ c ∈ before ++ after, Text.isBlank c = true)
      (spelled : letters.map Char.toUpper = m.name.toList) :
      Spelled (some m) (.text (String.ofList (before ++ letters ++ after)))

/-- The fields under their keys. -/
def written (c : Config) (mode : Value) : Entries :=
  [(.text "log", .map [
      (.text "level", .text c.runtime.level.name),
      (.text "to_file", .bool c.runtime.toFile),
      (.text "dir", .text c.runtime.dir),
      (.text "action", .text c.runtime.action)]),
    (.text "query", .map [
      (.text "index", c.query.defaults.index),
      (.text "limit", c.query.defaults.limit),
      (.text "offset", c.query.defaults.offset),
      (.text "match_mode", mode),
      (.text "field_weights", .map c.query.defaults.fieldWeights)])]

theorem matchMode?_of_spelled {m : Option MatchMode} {mode : Value} (h : Spelled m mode) :
    matchMode? mode = some m := by
  cases h with
  | none => rfl
  | mode m => cases m <;> rfl
  | number m => cases m <;> rfl
  | name m before letters after blank spelled =>
    have letter : m.name.toList.all (fun c => c.toNat < 128 && !Text.isBlank c) = true := by
      cases m <;> rfl
    have plain : ∀ c ∈ m.name.toList, c.toNat < 128 ∧ Text.isBlank c = false := by
      simpa using letter
    rw [matchMode?, Text.upper_trim_of_letters blank spelled plain, MatchMode.ofName?_name]
    rfl

theorem isMap_of_spelled {m : Option MatchMode} {mode : Value} (h : Spelled m mode) :
    mode.isMap = false := by
  cases h <;> rfl

/-- What the checks and the normal forms leave of a configuration. -/
structure Normal (c : Config) : Prop where
  placed : c.runtime.toFile = true → Text.allBlank c.runtime.dir = false ∧ c.runtime.action ≠ ""
  action : Text.trim c.runtime.action = c.runtime.action
  index : ∀ s, c.query.index = some s → Text.trim s = s
  query : c.query.Sound

theorem index?_trimmed {v : Value} {i : Option String} (h : index? v = some i) :
    ∀ s, i = some s → Text.trim s = s := by
  cases v with
  | null =>
    rw [← Option.some.inj h]
    nofun
  | text t =>
    rw [← Option.some.inj h]
    intro s hs
    split at hs
    · cases hs
    · rw [← Option.some.inj hs, Text.trim_trim]
  | _ => cases h

theorem normal_of_parse {es : Entries} (named : es.WellNamed) {c : Config}
    (h : parse (.map es) = .ok c) : c.Normal := by
  obtain ⟨log, query, holds⟩ := holds_of_parse h
  obtain ⟨action, -, trimmed⟩ := Option.map_eq_some_iff.mp holds.action
  refine ⟨fun mirrored => ?_, ?_, index?_trimmed holds.index, sound_of_parse named h⟩
  · have accepted := parse_of_holds log query holds
    rw [h] at accepted
    simp only [mirrored, true_and] at accepted
    split at accepted
    · cases accepted
    · next dir =>
      split at accepted
      · cases accepted
      · next action => exact ⟨by simpa using dir, action⟩
  · rw [← trimmed, Text.trim_trim]

theorem parse_of_normal {c : Config} (normal : c.Normal) {es : Entries} (log : es.Readable "log")
    (query : es.Readable "query") {ws : List (String × Whole)}
    (h : Holds { c with query := { c.query with fieldWeights := ws } } es.look) :
    parse (.map es) = .ok { c with query := { c.query with fieldWeights := ws } } := by
  rw [parse_of_holds log query h]
  cases mirrored : c.runtime.toFile with
  | false => simp
  | true =>
    obtain ⟨dir, action⟩ := normal.placed mirrored
    simp [dir, action]

theorem level?_name (l : Log.Level) : level? (.text l.name) = some l := by
  cases l <;> rfl

theorem fromZero?_value {w : Whole} (h : 0 ≤ w.number) : fromZero? w.value = some w := by
  simp [fromZero?, h]

theorem limit?_written {l : Option Whole} (h : ∀ w, l = some w → 0 ≤ w.number) :
    limit? (l.elim .null Whole.value) = some l := by
  cases l with
  | none => rfl
  | some w =>
    have number : limit? w.value = (fromZero? w.value).map some := by cases w <;> rfl
    rw [Option.elim_some, number, fromZero?_value (h w rfl), Option.map_some]

theorem index?_written {i : Option String} (trimmed : ∀ s, i = some s → Text.trim s = s)
    (full : i ≠ some "") : index? (i.elim .null .text) = some i := by
  cases i with
  | none => rfl
  | some s =>
    have nonempty : s ≠ "" := fun e => full (congrArg some e)
    rw [Option.elim_some, index?, trimmed s rfl, if_neg nonempty]

/-- A mapping that has the fields of a configuration under their keys, with any weights, gives the
configuration with these weights. -/
theorem holds_of_written {c : Config} (normal : c.Normal) {mode : Value}
    (spelled : Spelled c.query.matchMode mode) {look : String → String → Option Value}
    (same : ∀ sectionName key v, (c.written mode).look sectionName key = some v →
      v.isMap = false → look sectionName key = some v)
    {ws : List (String × Whole)}
    (weights : weights? ((look "query" "field_weights").getD .null) = some ws) :
    Holds { c with query := { c.query with fieldWeights := ws } } look where
  level := by
    rw [same "log" "level" _ rfl rfl]
    exact level?_name c.runtime.level
  toFile := by
    rw [same "log" "to_file" _ rfl rfl]
    rfl
  dir := by
    rw [same "log" "dir" _ rfl rfl]
    rfl
  action := by
    rw [same "log" "action" _ rfl rfl]
    exact congrArg some normal.action
  index := by
    rw [same "query" "index" _ rfl c.query.isMap_defaults.1]
    exact index?_written normal.index normal.query.index
  limit := by
    rw [same "query" "limit" _ rfl c.query.isMap_defaults.2.1]
    exact limit?_written normal.query.limit
  offset := by
    rw [same "query" "offset" _ rfl c.query.isMap_defaults.2.2]
    exact fromZero?_value normal.query.offset
  matchMode := by
    rw [same "query" "match_mode" _ rfl (isMap_of_spelled spelled)]
    exact matchMode?_of_spelled spelled
  fieldWeights := weights

theorem weight?_value {name : String} {w : Whole} (h : 0 < w.number) :
    weight? (.text name, w.value) = some (name, w) := by
  simp [weight?, h]

theorem mapM_weight?_defaults {q : QueryConfig} (h : q.Sound) :
    q.defaults.fieldWeights.mapM weight? = some q.fieldWeights := by
  have positive := h.weights
  rw [QueryConfig.defaults]
  generalize q.fieldWeights = ws at positive ⊢
  induction ws with
  | nil => rfl
  | cons w ws ih =>
    obtain ⟨here, below⟩ := List.forall_mem_cons.mp positive
    rw [List.map_cons, List.mapM_cons, weight?_value here, ih below]
    rfl

/-- Members in another order give the same, in another order. -/
theorem mapM_perm {α β : Type} {f : α → Option β} {xs ys : List α} (p : xs.Perm ys) {bs : List β}
    (h : ys.mapM f = some bs) : ∃ as, xs.mapM f = some as ∧ as.Perm bs := by
  induction p generalizing bs with
  | nil => exact ⟨bs, h, .refl _⟩
  | cons x p ih =>
    obtain ⟨b, bs', hx, hbs, rfl⟩ := mapM_cons_eq_some_iff.mp h
    obtain ⟨as, has, perm⟩ := ih hbs
    exact ⟨b :: as, mapM_cons_eq_some_iff.mpr ⟨b, as, hx, has, rfl⟩, perm.cons b⟩
  | swap x y xs =>
    obtain ⟨b, bs', hx, hbs, rfl⟩ := mapM_cons_eq_some_iff.mp h
    obtain ⟨b', bs, hy, hxs, rfl⟩ := mapM_cons_eq_some_iff.mp hbs
    have rest := mapM_cons_eq_some_iff.mpr ⟨b, bs, hx, hxs, rfl⟩
    exact ⟨b' :: b :: bs, mapM_cons_eq_some_iff.mpr ⟨b', _, hy, rest, rfl⟩, .swap ..⟩
  | trans p q ihp ihq =>
    obtain ⟨cs, hcs, perm⟩ := ihq h
    obtain ⟨as, has, perm'⟩ := ihp hcs
    exact ⟨as, has, perm'.trans perm⟩

theorem isMap_of_get?_defaults {q : QueryConfig} {k : Key} {v : Value}
    (h : q.defaults.fieldWeights.get? k = some v) : v.isMap = false := by
  obtain ⟨name, listed⟩ := Entries.mem_of_get? h
  rw [QueryConfig.defaults] at listed
  obtain ⟨w, -, e⟩ := List.mem_map.mp listed
  obtain ⟨-, rfl⟩ := Prod.mk.inj e
  exact w.2.isMap_value

theorem wellNamed_written {c : Config} (sound : c.query.Sound) {mode : Value}
    (scalar : mode.isMap = false) : (c.written mode).WellNamed := by
  obtain ⟨index, limit, offset⟩ := c.query.isMap_defaults
  have weights : Value.wellNamedEntries c.query.defaults.fieldWeights = true :=
    Entries.WellNamed.of_get? sound.names fun _ _ h =>
      Value.wellNamed_of_not_map (isMap_of_get?_defaults h)
  simp [Entries.WellNamed, written, Value.wellNamed, Value.wellNamedEntries, Value.key?,
    Entries.keys, Entries.names, Value.wellNamed_of_not_map, index, limit, offset, scalar, weights]

/-- Weights of known names are laid over by the weights that are written back. -/
theorem weights?_merge {c : Config} (sound : c.query.Sound) {lower : Option Value}
    (distinct : ∀ l : Entries, lower = some (.map l) → l.Distinct)
    (known : ∀ l : Entries, lower = some (.map l) →
      ∀ name ∈ l.names, ∃ w ∈ c.query.fieldWeights, name = .text w.1) :
    ∃ ws, ws.Perm c.query.fieldWeights ∧
      weights? ((Value.map c.query.defaults.fieldWeights).over lower) = some ws := by
  have own := mapM_weight?_defaults sound
  by_cases maps : ∃ l, lower = some (.map l)
  · obtain ⟨l, rfl⟩ := maps
    have listed : ∀ name ∈ Entries.names l, name ∈ c.query.defaults.fieldWeights.names := by
      intro name hn
      obtain ⟨w, hw, rfl⟩ := known l rfl name hn
      rw [QueryConfig.defaults, Entries.names, List.map_map]
      exact List.mem_map.mpr ⟨w, hw, rfl⟩
    have perm := Entries.merge_perm (distinct l rfl) sound.names
      (fun _ _ h => isMap_of_get?_defaults h) listed
    obtain ⟨ws, hws, permuted⟩ := mapM_perm perm own
    rw [Entries.over_maps]
    exact ⟨ws, permuted, hws⟩
  · rw [Entries.over_of_no_map fun l h => maps ⟨l, h⟩]
    exact ⟨_, .refl _, own⟩

theorem parse_written {c : Config} (normal : c.Normal) {mode : Value}
    (spelled : Spelled c.query.matchMode mode) : parse (.map (c.written mode)) = .ok c := by
  have readable {name : String} {part : Entries}
      (h : (c.written mode).named? name = some (.map part)) : (c.written mode).Readable name := by
    intro v hv
    exact .inr ⟨part, Option.some.inj (hv.symm.trans h)⟩
  have holds : c.Holds (c.written mode).look :=
    holds_of_written normal spelled (fun _ _ _ h _ => h) (mapM_weight?_defaults normal.query)
  exact parse_of_normal normal (readable rfl) (readable rfl) holds

/-- A configuration that is written back is read as itself. Laid over any mapping it is read as itself
too, whatever that one holds, unless that one weighs a name that the configuration does not weigh; only
the order of the weights may be another. -/
theorem parse_written_back (es : Entries) (named : es.WellNamed) (c : Config)
    (parsed : parse (.map es) = .ok c) (mode : Value) (spelled : Spelled c.query.matchMode mode) :
    parse (.map (c.written mode)) = .ok c ∧
    ∀ base : Entries, base.WellNamed →
      (∀ weights : Entries, base.look "query" "field_weights" = some (.map weights) →
        ∀ name ∈ weights.names, ∃ w ∈ c.query.fieldWeights, name = .text w.1) →
      ∃ ws, ws.Perm c.query.fieldWeights ∧
        parse (.map (base.merge (c.written mode))) =
          .ok { c with query := { c.query with fieldWeights := ws } } := by
  have normal := normal_of_parse named parsed
  refine ⟨parse_written normal spelled, fun base hb known => ?_⟩
  have upper : (c.written mode).WellNamed := wellNamed_written normal.query (isMap_of_spelled spelled)
  obtain ⟨ws, perm, weights⟩ := weights?_merge normal.query
    (fun l h => (wellNamed_of_look hb h).distinct) known
  have laid : (base.merge (c.written mode)).look "query" "field_weights" =
      some ((Value.map c.query.defaults.fieldWeights).over (base.look "query" "field_weights")) :=
    look_merge_of_look upper rfl
  have same : ∀ sectionName key v, (c.written mode).look sectionName key = some v →
      v.isMap = false → (base.merge (c.written mode)).look sectionName key = some v := by
    intro sectionName key v h scalar
    rw [look_merge_of_look upper h, Entries.over_of_scalar scalar]
  have holds : Holds { c with query := { c.query with fieldWeights := ws } }
      (base.merge (c.written mode)).look :=
    holds_of_written normal spelled same (by rw [laid]; exact weights)
  exact ⟨ws, perm, parse_of_normal normal (readable_merge_of_map upper.distinct rfl)
    (readable_merge_of_map upper.distinct rfl) holds⟩

/-- The mode is written in mixed case, the lower layer is acceptable nowhere, and its weights show in
the order only. -/
theorem parse_written_back_over_invalid :
    let es : Entries := [(.text "log", .map [(.text "level", .text " debug\n"),
        (.text "action", .text " nightly ")]),
      (.text "query", .map [(.text "index", .text "\tbooks "), (.text "match_mode", .text "any"),
        (.text "field_weights", .map [(.text "title", .int 3), (.text "body", .int 1)])])]
    let c : Config := ⟨⟨.debug, false, "log", "nightly"⟩,
      ⟨some "books", none, .int 0, some .any, [("title", .int 3), ("body", .int 1)]⟩⟩
    let mode : Value := .text "  aNy "
    let base : Entries := [(.text "query", .map [(.text "limit", .int (-1)),
        (.text "match_mode", .int 9), (.text "field_weights", .map [(.text "body", .text "much")])]),
      (.text "log", .list [])]
    es.WellNamed ∧ parse (.map es) = .ok c ∧ Spelled c.query.matchMode mode ∧ base.WellNamed ∧
      (∃ f, parse (.map base) = .error f) ∧
      ∃ ws, ws.Perm c.query.fieldWeights ∧ parse (.map (base.merge (c.written mode))) =
        .ok { c with query := { c.query with fieldWeights := ws } } := by
  intro es c mode base
  have named : es.WellNamed := by decide
  have parsed : parse (.map es) = .ok c := rfl
  have spaces : ∀ c ∈ [' ', ' '] ++ [' '], Text.isBlank c = true := by
    intro c hc
    obtain rfl : c = ' ' := by simpa using hc
    rfl
  have spelled : Spelled c.query.matchMode mode :=
    .name .any [' ', ' '] ['a', 'N', 'y'] [' '] spaces rfl
  have hb : base.WellNamed := by decide
  have known : ∀ weights : Entries, base.look "query" "field_weights" = some (.map weights) →
      ∀ name ∈ weights.names, ∃ w ∈ c.query.fieldWeights, name = .text w.1 := by
    intro weights h name hn
    obtain rfl : [(.text "body", .text "much")] = weights := Value.map.inj (Option.some.inj h)
    obtain rfl : name = .text "body" := List.mem_singleton.mp hn
    exact ⟨("body", .int 1), by decide, rfl⟩
  have laid := (parse_written_back es named c parsed mode spelled).2 base hb known
  exact ⟨named, parsed, spelled, hb, ⟨_, rfl⟩, laid⟩

end Config

end Fulltext
