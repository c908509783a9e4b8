import Fulltext.Proofs.Query.History
import Fulltext.Proofs.Search.Attempt
import Fulltext.Proofs.Search.Column

namespace Fulltext

namespace Entries

/-- Names that are found by the same key. -/
def sameName (m n : Value) : Bool := m.key? == n.key?

/-- Each name of a list of pairs, where and as it is first written, with the value last given. -/
structure Tabulates (es ps : Entries) : Prop where
  names : es.names = ps.names.eraseDupsBy sameName
  values : ∀ k, es.get? k = get? ps.reverse k

/-- Pairs as a value that lists them. -/
def pairs (es : Entries) : Value := .list (es.map fun e => .list [e.1, e.2])

/-- The induction moves the names that are put already to the left, where they take later ones out. -/
theorem names_putAll (es ps : Entries) :
    (es.putAll ps).names =
      es.names ++ (ps.names.filter fun n => n.key? ∉ es.keys).eraseDupsBy sameName := by
  induction ps generalizing es with
  | nil => simp [putAll, names]
  | cons p ps ih =>
    obtain ⟨name, v⟩ := p
    have run : es.putAll ((name, v) :: ps) = (es.put name v).putAll ps := rfl
    have listed : names ((name, v) :: ps) = name :: names ps := rfl
    rw [run, ih, names_put, keys_put, listed]
    by_cases known : name.key? ∈ es.keys
    · simp [known]
    · have others : ((names ps).filter fun n => n.key? ∉ es.keys ++ [name.key?]) =
          ((names ps).filter fun n => n.key? ∉ es.keys).filter
            fun n => sameName n name = false := by
        rw [List.filter_filter]
        apply List.filter_congr
        intro n _
        simp [sameName, and_comm]
      rw [if_neg known, if_neg known, others, List.filter_cons_of_pos (by simpa using known),
        List.eraseDupsBy_cons, List.append_assoc]
      rfl

theorem get?_putAll {ps : Entries} (found : ∀ p ∈ ps, p.1.key?.isSome) (es : Entries) (k : Key) :
    (es.putAll ps).get? k = (get? ps.reverse k).or (es.get? k) := by
  induction ps generalizing es with
  | nil => rfl
  | cons p ps ih =>
    rw [List.forall_mem_cons] at found
    obtain ⟨j, hj⟩ := Option.isSome_iff_exists.mp found.1
    have run : es.putAll (p :: ps) = (es.put p.1 p.2).putAll ps := rfl
    rw [run, ih found.2, get?_put es hj, List.reverse_cons, get?_append, get?_cons, hj]
    by_cases h : j = k
    · simp [h]
    · simp [h, get?]

theorem tabulates_putAll {ps : Entries} (found : ∀ p ∈ ps, p.1.key?.isSome) :
    Tabulates (putAll [] ps) ps := by
  constructor
  · have listed := names_putAll [] ps
    simpa [keys, names] using listed
  · intro k
    have value := get?_putAll found [] k
    simpa [get?] using value

/-- There is one such mapping. -/
theorem Tabulates.eq_putAll {es ps : Entries} (h : es.Tabulates ps)
    (found : ∀ p ∈ ps, p.1.key?.isSome) : es = putAll [] ps := by
  have all := tabulates_putAll found
  have distinct : (putAll [] ps).Distinct := distinct_nil.putAll found
  have same : putAll [] ps = es :=
    distinct.ext (all.names.trans h.names.symm) fun k => (all.values k).trans (h.values k).symm
  exact same.symm

theorem Tabulates.eq_nil_iff {es ps : Entries} (h : es.Tabulates ps) : es = [] ↔ ps = [] := by
  have listed := h.names
  cases ps with
  | nil =>
    have none : es.names = [] := listed
    exact iff_of_true (List.map_eq_nil_iff.mp none) rfl
  | cons p ps =>
    rw [show Entries.names (p :: ps) = p.1 :: Entries.names ps from rfl,
      List.eraseDupsBy_cons] at listed
    refine iff_of_false ?_ (List.cons_ne_nil p ps)
    intro none
    rw [none] at listed
    cases listed

theorem toEntries_pairs {ps : Entries} (found : ∀ p ∈ ps, p.1.key?.isSome) :
    (pairs ps).toEntries = .ok (putAll [] ps) :=
  putPairs_eq_putAll found

end Entries

theorem Query.weights_make {p : Query.Parts} {w : Entries} {fields : List Value}
    (weights : p.fieldWeights.toEntries = .ok w) (listed : p.searchFields.items = .ok fields) :
    ∃ q, Query.make p = .ok q ∧ q.fieldWeights = w := by
  rw [Query.make, weights, listed]
  exact ⟨_, rfl, rfl⟩

namespace Builder

/-- Settings that are all accepted leave the weights among them, put in turn. -/
theorem weights_setEach {ss : List Setting} (accepted : ∀ s ∈ ss, s.verdict = .ok ()) :
    ∃ b q, ({} : Builder).setEach ss = .ok b ∧ b.build = .ok q ∧
      q.fieldWeights = Entries.putAll [] (ss.filterMap Setting.weight?) := by
  have made : ({} : Builder).setEach ss = .ok (({} : Builder).setAll ss) :=
    setEach_eq_ok_iff.mpr ⟨accepted, rfl⟩
  have records := records_setAll (fun s hs => Setting.readable_of_accepted (accepted s hs))
    ({} : Builder)
  refine ⟨_, _, made, build_setAll (.inl rfl) ss, ?_⟩
  rw [records.fieldWeights, taken_of_accepted accepted]

end Builder

/-- The settings for single weights. -/
def Setting.weights (ps : Entries) : List Setting := ps.map fun e => .fieldWeight e.1 e.2

theorem Setting.filterMap_weights (ps : Entries) :
    (Setting.weights ps).filterMap Setting.weight? = ps := by
  rw [weights, List.filterMap_map]
  exact List.filterMap_some

theorem Setting.weights_accepted {ps : Entries} (found : ∀ p ∈ ps, p.1.key?.isSome) :
    ∀ s ∈ Setting.weights ps, s.verdict = .ok () := by
  intro s hs
  obtain ⟨p, hp, rfl⟩ := List.mem_map.mp hs
  rw [verdict, if_pos (found p hp)]

namespace Defaults

/-- The setting of a page, if there is a limit. -/
def page (d : Defaults) : List Setting :=
  match d.limit with
  | .null => []
  | limit => [.limit limit d.offset]

/-- The setting of a match mode, if there is one. -/
def mode (d : Defaults) : List Setting :=
  match d.matchMode with
  | .null => []
  | mode => [.matchMode mode]

theorem settings_eq (d : Defaults) :
    d.settings = (if d.index.isSet then [.index d.index] else []) ++ d.page ++
      Setting.weights d.fieldWeights ++ d.mode := rfl

theorem eq_of_mem_page {d : Defaults} {s : Setting} (h : s ∈ d.page) :
    d.limit ≠ .null ∧ s = .limit d.limit d.offset := by
  rw [page] at h
  cases hl : d.limit <;> simp_all

theorem eq_of_mem_mode {d : Defaults} {s : Setting} (h : s ∈ d.mode) :
    s = .matchMode d.matchMode := by
  rw [mode] at h
  cases hm : d.matchMode <;> simp_all

/-- A setting of defaults that is no weight is an index, a page or a match mode. -/
theorem mem_settings_cases {d : Defaults} {s : Setting} (h : s ∈ d.settings) :
    s = .index d.index ∨ (d.limit ≠ .null ∧ s = .limit d.limit d.offset) ∨
      s ∈ Setting.weights d.fieldWeights ∨ s = .matchMode d.matchMode := by
  rw [settings_eq] at h
  simp only [List.mem_append] at h
  rcases h with ((index | page) | weight) | mode
  · split at index
    · exact .inl (List.mem_singleton.mp index)
    · cases index
  · exact .inr (.inl (eq_of_mem_page page))
  · exact .inr (.inr (.inl weight))
  · exact .inr (.inr (.inr (eq_of_mem_mode mode)))

theorem filterMap_weight?_settings (d : Defaults) :
    d.settings.filterMap Setting.weight? = d.fieldWeights := by
  have index : (if d.index.isSet then [Setting.index d.index] else []).filterMap Setting.weight? =
      [] := by
    split <;> rfl
  have page : d.page.filterMap Setting.weight? = [] := by
    rw [List.filterMap_eq_nil_iff]
    intro s hs
    rw [(eq_of_mem_page hs).2]
    rfl
  have mode : d.mode.filterMap Setting.weight? = [] := by
    rw [List.filterMap_eq_nil_iff]
    intro s hs
    rw [eq_of_mem_mode hs]
    rfl
  rw [settings_eq, List.filterMap_append, List.filterMap_append, List.filterMap_append, index,
    page, mode, Setting.filterMap_weights]
  simp

/-- Only a page can be refused. -/
theorem settings_accepted {d : Defaults} (found : ∀ p ∈ d.fieldWeights, p.1.key?.isSome)
    (page : d.limit = .null ∨ Builder.checkPage d.limit d.offset = .ok ()) :
    ∀ s ∈ d.settings, s.verdict = .ok () := by
  intro s hs
  rcases mem_settings_cases hs with rfl | ⟨given, rfl⟩ | weight | rfl
  · rfl
  · exact page.resolve_left given
  · exact Setting.weights_accepted found s weight
  · rfl

end Defaults

namespace Search

variable {σ : Type}

/-- The calls that set weights. -/
def weightCalls (calls : List Call) : List Call := calls.filter fun c => c.method = .setFieldWeights

theorem weightCalls_append (cs ds : List Call) :
    weightCalls (cs ++ ds) = weightCalls cs ++ weightCalls ds :=
  List.filter_append ..

theorem weightCalls_schedule (q : Query) (text : Value) :
    weightCalls (schedule q text) =
      if q.fieldWeights = [] then [] else [.setFieldWeights (.map q.fieldWeights)] := by
  have sort : weightCalls
      (if q.sortField.isSet then [.setSortMode (sortModeOf q) q.sortField] else []) = [] := by
    split <;> rfl
  have page : weightCalls (if q.limit.isSet then [.setLimits q.offset q.limit] else []) = [] := by
    split <;> rfl
  have filters : weightCalls (filtering q) = [] := by
    rw [filtering]
    split <;> rfl
  have mode : weightCalls (matching q) = [] := by
    rw [matching]
    split <;> rfl
  have last : weightCalls [.escapeString q.search] = [] ∧
      weightCalls [.addQuery text q.index, .runQueries] = [] := ⟨rfl, rfl⟩
  rw [schedule, opening, settings_eq, ranking]
  simp only [weightCalls_append, sort, page, filters, mode, last]
  cases q.fieldWeights with
  | nil => rfl
  | cons e es => rfl

/-- An execution makes a first part of its schedule, and all of it if it comes back. -/
theorem calls_execute (b : Backend σ) (q : Query) (t : Trace σ) :
    let r := (execute (.opened b) q).runFrom t
    ∃ cs text, r.2.calls = t.calls ++ cs ∧ cs <+: schedule q text ∧
      ∀ o, r.1 = .ok o → cs = schedule q text := by
  intro r
  cases ht : Query.text (escaped b q t.world) q.searchFields with
  | ok text =>
    have sent := submit_follows ht
    refine ⟨_, text, sent.calls, Backend.made_prefix .., fun o ho => Backend.made_of_answered ?_⟩
    obtain ⟨text', ht', answered, -⟩ := submit_returned ho
    obtain rfl := Except.ok.inj (ht.symm.trans ht')
    exact answered
  | error f =>
    have sent := submit_fails ht
    have first : opening q <+: schedule q .null := List.prefix_append ..
    refine ⟨_, .null, sent.calls, (Backend.made_prefix ..).trans first, fun o ho => ?_⟩
    obtain ⟨text, ht', -⟩ := submit_returned ho
    cases ht.symm.trans ht'

end Search

namespace Entries

/-- Whatever the pairs, their table of each name once is what they are read as, what the table and
its own pairs are read as, the weights of a query that is given the pairs, of one built by a setting
for each pair and of one built from defaults, and what an execution sends. -/
theorem weights_given_alike (ps : Entries) (hashable : ∀ p ∈ ps, p.1.key?.isSome) :
    ∃ w : Entries, w.Tabulates ps ∧ w.Distinct ∧
      (pairs ps).toEntries = .ok w ∧ (pairs w).toEntries = .ok w ∧
      (∀ table : Entries, table.Tabulates ps → (Value.map table).toEntries = .ok w) ∧
      (∀ (p : Query.Parts) (fields : List Value), p.fieldWeights = pairs ps →
        p.searchFields.items = .ok fields → ∃ q, Query.make p = .ok q ∧ q.fieldWeights = w) ∧
      (∃ b q, ({} : Builder).setEach (ps.map fun e => .fieldWeight e.1 e.2) = .ok b ∧
        b.build = .ok q ∧ q.fieldWeights = w) ∧
      (∀ index limit offset mode : Value,
        limit = .null ∨ Builder.checkPage limit offset = .ok () →
        ∃ d b q, Defaults.make index limit offset mode (pairs ps) = .ok d ∧
          Builder.ofDefaults d = .ok b ∧ b.build = .ok q ∧ q.fieldWeights = w) ∧
      ∀ {σ : Type} (q : Query) (b : Backend σ) (t : Trace σ), q.fieldWeights = w →
        let sent := if ps = [] then [] else [Call.setFieldWeights (.map w)]
        let r := (Search.execute (.opened b) q).runFrom t
        ∃ cs, r.2.calls = t.calls ++ cs ∧ Search.weightCalls cs <+: sent ∧
          ∀ o, r.1 = .ok o → Search.weightCalls cs = sent := by
  have table := tabulates_putAll hashable
  have distinct : (putAll [] ps).Distinct := distinct_nil.putAll hashable
  have again : putAll [] (putAll [] ps) = putAll [] ps := putAll_of_distinct distinct
  have read := toEntries_pairs hashable
  refine ⟨putAll [] ps, table, distinct, read, ?reread, ?mapping, ?given, ?set, ?defaults, ?sent⟩
  case reread =>
    rw [toEntries_pairs distinct.found, again]
  case mapping =>
    intro other tabulates
    rw [tabulates.eq_putAll hashable]
    rfl
  case given =>
    intro p fields weights listed
    exact Query.weights_make (weights ▸ read) listed
  case set =>
    obtain ⟨b, q, set, built, weights⟩ := Builder.weights_setEach (Setting.weights_accepted hashable)
    rw [Setting.filterMap_weights] at weights
    exact ⟨b, q, set, built, weights⟩
  case defaults =>
    intro index limit offset mode page
    let d : Defaults := ⟨index, limit, offset, mode, putAll [] ps⟩
    have made : Defaults.make index limit offset mode (pairs ps) = .ok d := by
      rw [Defaults.make, read]
      rfl
    have accepted := d.settings_accepted distinct.found page
    obtain ⟨b, q, set, built, weights⟩ := Builder.weights_setEach accepted
    rw [d.filterMap_weight?_settings, again] at weights
    exact ⟨d, b, q, made, set, built, weights⟩
  case sent =>
    intro σ q b t weights sent r
    obtain ⟨cs, text, calls, first, all⟩ := Search.calls_execute b q t
    have due : Search.weightCalls (Search.schedule q text) = sent := by
      simp only [Search.weightCalls_schedule, weights, table.eq_nil_iff, sent]
    refine ⟨cs, calls, due ▸ first.filter _, fun o returned => ?_⟩
    rw [all o returned, due]

/-- A number, a truth value and a floating-point number of one magnitude are one name. -/
theorem weights_given_alike_repeated_names :
    let one : Value := .float (.finite false 1 0)
    let ps : Entries := [(.int 1, .int 5), (.text "title", .int 2), (one, .int 3),
      (.text "1", .int 4), (.bool true, .int 7), (.text "title", .int 6)]
    let w : Entries := [(.int 1, .int 7), (.text "title", .int 6), (.text "1", .int 4)]
    let answering : Backend Unit := ⟨fun _ w => ⟨.ok .null, [], w⟩⟩
    (∀ p ∈ ps, p.1.key?.isSome) ∧ w.Tabulates ps ∧
      (∃ b q, ({} : Builder).setEach (ps.map fun e => .fieldWeight e.1 e.2) = .ok b ∧
        b.build = .ok q ∧ q.fieldWeights = w) ∧
      (∃ d b q, Defaults.make .null .null (.int 3) .null (pairs ps) = .ok d ∧
        Builder.ofDefaults d = .ok b ∧ b.build = .ok q ∧ q.fieldWeights = w) ∧
      ∃ q, Query.make { fieldWeights := pairs ps } = .ok q ∧
        Search.weightCalls ((Search.execute (.opened answering) q).runFrom { world := () }).2.calls =
          [.setFieldWeights (.map w)] := by
  intro one ps w answering
  have hashable : ∀ p ∈ ps, p.1.key?.isSome := by decide
  have reads : (pairs ps).toEntries = .ok w := rfl
  obtain ⟨v, table, -, read, -, -, given, set, defaults, sends⟩ := weights_given_alike ps hashable
  obtain rfl : w = v := Except.ok.inj (reads.symm.trans read)
  obtain ⟨q, made, weights⟩ := given { fieldWeights := pairs ps } [] rfl rfl
  obtain ⟨cs, calls, -, all⟩ := sends q answering { world := () } weights
  refine ⟨hashable, table, set, defaults _ _ _ _ (.inl rfl), q, made, ?_⟩
  cases made
  exact (congrArg Search.weightCalls calls).trans (all ⟨false, .null⟩ rfl)

end Entries

end Fulltext
