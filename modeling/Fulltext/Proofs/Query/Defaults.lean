import Fulltext.Proofs.Config.Layered
import Fulltext.Proofs.Query.History
import Fulltext.Proofs.Search.Submission

namespace Fulltext

namespace Whole

theorem isSet_value (w : Whole) : w.value.isSet = decide (w.number ≠ 0) := by
  cases w with
  | int n =>
    simp only [value, number, Value.isSet]
    by_cases h : n = 0 <;> simp [h]
  | matchMode m => cases m <;> rfl
  | sortMode m => cases m <;> rfl

theorem isNegative_value (w : Whole) : w.value.isNegative = .ok (decide (w.number < 0)) := by
  cases w with
  | int n => rfl
  | matchMode m => cases m <;> rfl
  | sortMode m => cases m <;> rfl

end Whole

theorem checkPage_of_nonneg {limit offset : Whole} (hl : 0 ≤ limit.number)
    (ho : 0 ≤ offset.number) : Builder.checkPage limit.value offset.value = .ok () := by
  have limitFrom : decide (limit.number < 0) = false := decide_eq_false (by omega)
  have offsetFrom : decide (offset.number < 0) = false := decide_eq_false (by omega)
  rw [Builder.checkPage, limit.isNegative_value, offset.isNegative_value, limitFrom, offsetFrom]
  rfl

/-- What a search relies on in configured defaults. -/
structure QueryConfig.Sound (q : QueryConfig) : Prop where
  index : q.index ≠ some ""
  limit : ∀ w, q.limit = some w → 0 ≤ w.number
  offset : 0 ≤ q.offset.number
  weights : ∀ e ∈ q.fieldWeights, 0 < e.2.number
  names : q.defaults.fieldWeights.Distinct

namespace Config

theorem index?_ne_empty {v : Value} {i : Option String} (h : index? v = some i) : i ≠ some "" := by
  cases v with
  | null =>
    rw [← Option.some.inj h]
    simp
  | text s =>
    rw [← Option.some.inj h]
    split
    · simp
    · next full => simpa using full
  | _ => cases h

theorem fromZero?_nonneg {v : Value} {w : Whole} (h : fromZero? v = some w) : 0 ≤ w.number :=
  of_decide_eq_true (Option.filter_eq_some_iff.mp h).2

theorem limit?_nonneg {v : Value} {l : Option Whole} (h : limit? v = some l) :
    ∀ w, l = some w → 0 ≤ w.number := by
  have number (h : (fromZero? v).map some = some l) : ∀ w, l = some w → 0 ≤ w.number := by
    rintro w rfl
    obtain ⟨w', hw, same⟩ := Option.map_eq_some_iff.mp h
    exact fromZero?_nonneg (Option.some.inj same ▸ hw)
  cases v with
  | null =>
    rw [← Option.some.inj h]
    nofun
  | _ => exact number h

theorem weight?_eq_some {e : Value × Value} {w : String × Whole} (h : weight? e = some w) :
    e.1 = .text w.1 ∧ 0 < w.2.number := by
  obtain ⟨name, v⟩ := e
  cases name with
  | text name =>
    obtain ⟨n, hn, rfl⟩ := Option.map_eq_some_iff.mp h
    exact ⟨rfl, of_decide_eq_true (Option.filter_eq_some_iff.mp hn).2⟩
  | _ => cases h

theorem mapM_cons_eq_some_iff {α β : Type} {f : α → Option β} {x : α} {xs : List α}
    {bs : List β} : (x :: xs).mapM f = some bs ↔
      ∃ b bs', f x = some b ∧ xs.mapM f = some bs' ∧ bs = b :: bs' := by
  rw [List.mapM_cons]
  cases f x with
  | none => simp
  | some b => cases xs.mapM f <;> simp [eq_comm]

theorem names_of_weights {es : Entries} {ws : List (String × Whole)}
    (h : es.mapM weight? = some ws) :
    es.names = ws.map (fun w => .text w.1) ∧ ∀ w ∈ ws, 0 < w.2.number := by
  induction es generalizing ws with
  | nil =>
    obtain rfl := Option.some.inj h
    exact ⟨rfl, nofun⟩
  | cons e es ih =>
    obtain ⟨w, ws', hw, hws, rfl⟩ := mapM_cons_eq_some_iff.mp h
    obtain ⟨names, positive⟩ := ih hws
    obtain ⟨name, above⟩ := weight?_eq_some hw
    refine ⟨?_, List.forall_mem_cons.mpr ⟨above, positive⟩⟩
    rw [Entries.names, List.map_cons, name, List.map_cons, ← names]
    rfl

theorem weights?_cases {v : Value} {ws : List (String × Whole)} (h : weights? v = some ws) :
    ws = [] ∨ ∃ es, v = .map es ∧ es.mapM weight? = some ws := by
  cases v with
  | null => exact .inl (Option.some.inj h).symm
  | map es => exact .inr ⟨es, rfl, h⟩
  | _ => cases h

theorem sound_of_parse {es : Entries} (named : es.WellNamed) {c : Config}
    (h : parse (.map es) = .ok c) : c.query.Sound := by
  obtain ⟨-, -, holds⟩ := holds_of_parse h
  have weights : (∀ w ∈ c.query.fieldWeights, 0 < w.2.number) ∧
      c.query.defaults.fieldWeights.Distinct := by
    rcases weights?_cases holds.fieldWeights with none | ⟨ps, look, listed⟩
    · simp [none, QueryConfig.defaults, Entries.Distinct, Entries.keys, Entries.names]
    · obtain ⟨names, positive⟩ := names_of_weights listed
      have there : es.look "query" "field_weights" = some (.map ps) := by
        cases hl : es.look "query" "field_weights" with
        | none => simp [hl] at look
        | some v => simpa [hl] using look
      have distinct : Entries.Distinct ps := (wellNamed_of_look named there).distinct
      have same : c.query.defaults.fieldWeights.names = Entries.names ps := by
        rw [names, QueryConfig.defaults, Entries.names, List.map_map]
        rfl
      refine ⟨positive, ?_⟩
      rw [Entries.Distinct, Entries.keys, same]
      exact distinct
  exact ⟨index?_ne_empty holds.index, limit?_nonneg holds.limit, fromZero?_nonneg holds.offset,
    weights.1, weights.2⟩

end Config

/-- The query that configured defaults describe; an offset without a limit sets nothing. -/
def QueryConfig.toQuery (q : QueryConfig) : Query where
  index := q.index.elim .null .text
  search := .text ""
  searchFields := []
  limit := q.limit.elim .null Whole.value
  offset := q.limit.elim (.int 0) fun _ => q.offset.value
  sortField := .null
  sortMode := .null
  fieldWeights := q.fieldWeights.map fun e => (.text e.1, e.2.value)
  filters := []
  matchMode := q.matchMode.elim .null .matchMode

namespace QueryConfig

theorem settings_defaults {q : QueryConfig} (h : q.index ≠ some "") :
    q.defaults.settings =
      (q.index.map fun s => Setting.index (.text s)).toList ++
      (q.limit.map fun w => Setting.limit w.value q.offset.value).toList ++
      q.fieldWeights.map (fun e => Setting.fieldWeight (.text e.1) e.2.value) ++
      (q.matchMode.map fun m => Setting.matchMode (.matchMode m)).toList := by
  have index : (if q.defaults.index.isSet then [Setting.index q.defaults.index] else []) =
      (q.index.map fun s => Setting.index (.text s)).toList := by
    rw [show q.defaults.index = q.index.elim .null .text from rfl]
    cases hi : q.index with
    | none => rfl
    | some s =>
      have full : s ≠ "" := fun e => h (hi.trans (congrArg some e))
      simp [Value.isSet, full]
  have weights : q.defaults.fieldWeights.map (fun e => Setting.fieldWeight e.1 e.2) =
      q.fieldWeights.map fun e => Setting.fieldWeight (.text e.1) e.2.value := List.map_map
  have limit : q.defaults.limit = q.limit.elim .null Whole.value := rfl
  have mode : q.defaults.matchMode = q.matchMode.elim .null .matchMode := rfl
  rw [Defaults.settings, index, weights, limit, mode]
  cases q.limit with
  | none => cases q.matchMode <;> rfl
  | some w => cases w <;> cases q.matchMode <;> rfl

theorem settings_accepted {q : QueryConfig} (h : q.Sound) :
    ∀ s ∈ q.defaults.settings, s.verdict = .ok () := by
  intro s hs
  rw [settings_defaults h.index] at hs
  simp only [List.mem_append, Option.mem_toList, Option.map_eq_some_iff, List.mem_map] at hs
  rcases hs with ((⟨_, _, rfl⟩ | ⟨w, hw, rfl⟩) | ⟨e, _, rfl⟩) | ⟨_, _, rfl⟩
  · rfl
  · exact checkPage_of_nonneg (h.limit w hw) h.offset
  · rfl
  · rfl

theorem given_settings {q : QueryConfig} (h : q.index ≠ some "") {β : Type}
    (given? : Setting → Option β) :
    q.defaults.settings.filterMap given? =
      (q.index.bind fun s => given? (.index (.text s))).toList ++
      (q.limit.bind fun w => given? (.limit w.value q.offset.value)).toList ++
      q.fieldWeights.filterMap (fun e => given? (.fieldWeight (.text e.1) e.2.value)) ++
      (q.matchMode.bind fun m => given? (.matchMode (.matchMode m))).toList := by
  have one {α : Type} (o : Option α) (f : α → Setting) :
      (o.map f).toList.filterMap given? = (o.bind fun a => given? (f a)).toList := by
    cases o with
    | none => rfl
    | some a => cases hg : given? (f a) <;> simp [hg]
  rw [settings_defaults h, List.filterMap_append, List.filterMap_append, List.filterMap_append,
    one, one, one, List.filterMap_map]
  rfl

/-- A builder takes all of sound defaults. -/
theorem build_defaults {q : QueryConfig} (h : q.Sound) :
    ∃ b, Builder.ofDefaults q.defaults = .ok b ∧ b.build = .ok q.toQuery := by
  have accepted := settings_accepted h
  have made : Builder.ofDefaults q.defaults = .ok (({} : Builder).setAll q.defaults.settings) :=
    Builder.setEach_eq_ok_iff.mpr ⟨accepted, rfl⟩
  have records := Builder.records_setAll
    (fun s hs => Setting.readable_of_accepted (accepted s hs)) ({} : Builder)
  have taken := Builder.taken_of_accepted accepted {}
  refine ⟨_, made, (Builder.build_setAll (.inl rfl) _).trans (congrArg Except.ok ?_)⟩
  generalize (({} : Builder).setAll q.defaults.settings).snapshot = r at records
  have index : r.index = q.index.elim .null .text := by
    rw [records.index, given_settings h.index]
    cases q.index <;> simp [Setting.index?]
  have search : (r.search, (.ok r.searchFields : Except Fault _)) = (.text "", .ok []) := by
    rw [records.search, given_settings h.index]
    simp [Setting.search?]
  have page : (r.limit, r.offset) =
      (q.limit.elim .null Whole.value, q.limit.elim (.int 0) fun _ => q.offset.value) := by
    rw [records.page, taken, given_settings h.index]
    cases q.limit <;> simp [Setting.page?]
  have order : (r.sortField, r.sortMode) = (.null, .null) := by
    rw [records.order, given_settings h.index]
    simp [Setting.order?]
  have weights : r.fieldWeights = q.fieldWeights.map fun e => (.text e.1, e.2.value) := by
    have all : Entries.putAll [] (q.fieldWeights.map fun e => (.text e.1, e.2.value)) =
        q.fieldWeights.map fun e => (.text e.1, e.2.value) := Entries.putAll_of_distinct h.names
    rw [records.fieldWeights, taken, given_settings h.index]
    simpa [Setting.weight?] using all
  have filters : r.filters = [] := by
    have listed := records.filters
    rw [taken, given_settings h.index] at listed
    simpa [Setting.group?] using listed
  have mode : r.matchMode = q.matchMode.elim .null .matchMode := by
    rw [records.matchMode, given_settings h.index]
    cases q.matchMode <;> simp [Setting.matchMode?]
  cases r
  simp_all [toQuery]

end QueryConfig

namespace Search

variable {σ : Type}

/-- What is asked of a backend for configured defaults alone, if the empty text is sent as `text`. -/
def callsFor (q : QueryConfig) (text : Value) : List Call :=
  (match q.limit with
    | none => []
    | some limit => if limit.number = 0 then [] else [.setLimits q.offset.value limit.value]) ++
  (if q.fieldWeights.isEmpty then [] else
    [.setFieldWeights (.map (q.fieldWeights.map fun e => (.text e.1, e.2.value)))]) ++
  (match q.matchMode with
    | none => []
    | some mode => [.setMatchMode (.matchMode mode)]) ++
  [.escapeString (.text ""), .addQuery text (q.index.elim .null .text), .runQueries]

theorem schedule_toQuery (q : QueryConfig) (text : Value) :
    schedule q.toQuery text = callsFor q text := by
  have page : (if q.toQuery.limit.isSet then [Call.setLimits q.toQuery.offset q.toQuery.limit] else []) =
      match q.limit with
      | none => []
      | some limit => if limit.number = 0 then [] else [.setLimits q.offset.value limit.value] := by
    rw [show q.toQuery.limit = q.limit.elim .null Whole.value from rfl,
      show q.toQuery.offset = q.limit.elim (.int 0) fun _ => q.offset.value from rfl]
    cases q.limit with
    | none => rfl
    | some limit => simp only [Option.elim_some, limit.isSet_value, decide_eq_true_eq, ite_not]
  have weights : (if q.toQuery.fieldWeights.isEmpty then [] else
      [Call.setFieldWeights (.map q.toQuery.fieldWeights)]) =
      if q.fieldWeights.isEmpty then [] else
        [.setFieldWeights (.map (q.fieldWeights.map fun e => (.text e.1, e.2.value)))] := by
    rw [show q.toQuery.fieldWeights = q.fieldWeights.map fun e => (.text e.1, e.2.value) from rfl,
      List.isEmpty_map]
  have mode : q.toQuery.matchMode = q.matchMode.elim .null .matchMode := rfl
  rw [schedule, opening, settings, page, weights, mode, callsFor]
  cases q.matchMode <;> simp [QueryConfig.toQuery, Value.isSet]

end Search

namespace Config

open Search in
/-- The defaults of an accepted configuration give a builder and a query of just these defaults, and
a backend that answers is asked for them and for nothing else. -/
theorem parsed_defaults_reach_backend (es : Entries) (named : es.WellNamed) (c : Config)
    (parsed : parse (.map es) = .ok c) :
    (∃ b, c.builder = .ok b ∧ b.build = .ok c.query.toQuery) ∧
    (∀ e ∈ c.query.fieldWeights, 0 < e.2.number) ∧
    ∀ {σ : Type} (b : Backend σ) (t : Trace σ),
      (∀ call w, ∃ v, (b.perform call w).answer = .ok v) →
      let text := Query.sentText [] (escaped b c.query.toQuery t.world)
      let r := (execute (.opened b) c.query.toQuery).runFrom t
      (∃ o, r.1 = .ok o) ∧ r.2.calls = t.calls ++ callsFor c.query text := by
  have sound := sound_of_parse named parsed
  refine ⟨c.query.build_defaults sound, sound.weights, ?_⟩
  intro σ b t answers text r
  have sendable : Query.text (escaped b c.query.toQuery t.world) c.query.toQuery.searchFields = .ok text :=
    Query.text_map_text _ []
  have sent : Session.Follows b (execute (.opened b) c.query.toQuery) t _ _ := submit_follows sendable
  have answered := Backend.fault?_of_answers answers (schedule c.query.toQuery text) t.world
  refine ⟨⟨_, (sent.ends answered).1⟩, ?_⟩
  rw [sent.calls, Backend.made_of_answered answered, schedule_toQuery]

open Search in
/-- A mode of number zero is sent; a limit of zero is not, and its offset is kept for the query. -/
theorem parsed_defaults_reach_backend_zero_limit :
    let es : Entries := [(.text "query", .map [(.text "index", .text " books "),
      (.text "limit", .int 0), (.text "offset", .int 20), (.text "match_mode", .text "all"),
      (.text "field_weights", .map [(.text "title", .int 3), (.text "body", .int 1)])])]
    let c : Config := ⟨⟨.info, false, "log", "query"⟩,
      ⟨some "books", some (.int 0), .int 20, some .all, [("title", .int 3), ("body", .int 1)]⟩⟩
    let b : Backend Unit := ⟨fun call w => ⟨.ok (match call with
      | .escapeString text => text
      | _ => .list []), [], w⟩⟩
    let weights : Entries := [(.text "title", .int 3), (.text "body", .int 1)]
    es.WellNamed ∧ parse (.map es) = .ok c ∧
    (∀ call w, ∃ v, (b.perform call w).answer = .ok v) ∧
    (∃ builder q, c.builder = .ok builder ∧ builder.build = .ok q ∧ q.offset = .int 20) ∧
    ((execute (.opened b) c.query.toQuery).runFrom { world := () }).2.calls =
      [.setFieldWeights (.map weights), .setMatchMode (.matchMode .all),
        .escapeString (.text ""), .addQuery (.text "") (.text "books"), .runQueries] := by
  intro es c b weights
  have named : es.WellNamed := by decide
  have parsed : parse (.map es) = .ok c := rfl
  have answers : ∀ call w, ∃ v, (b.perform call w).answer = .ok v := fun _ _ => ⟨_, rfl⟩
  obtain ⟨⟨builder, made, built⟩, -, sends⟩ := parsed_defaults_reach_backend es named c parsed
  exact ⟨named, parsed, answers, ⟨builder, _, made, built, rfl⟩,
    (sends b { world := () } answers).2.trans rfl⟩

end Config

end Fulltext
