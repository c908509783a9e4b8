import Fulltext.Proofs.Config.MergedPaths
import Mathlib.Data.List.Nodup
import Mathlib.Data.List.Triplewise

namespace Fulltext.Entries

theorem sizeOf_of_get? {es inner : Entries} {k : Key} (h : es.get? k = some (.map inner)) :
    sizeOf inner < sizeOf es := by
  obtain ⟨name, hm⟩ := mem_of_get? h
  have inside : sizeOf (name, Value.map inner) < sizeOf es := List.sizeOf_lt_of_mem hm
  simp only [Prod.mk.sizeOf_spec, Value.map.sizeOf_spec] at inside
  omega

/-- A law of mappings, if it follows from the same law of the mappings under their names. -/
theorem nested_induction {motive : Entries → Prop}
    (step : ∀ es : Entries, (∀ k inner, es.get? k = some (.map inner) → motive inner) → motive es)
    (es : Entries) : motive es :=
  step es fun _ inner _ => nested_induction step inner
termination_by sizeOf es
decreasing_by exact sizeOf_of_get? ‹_›

theorem WellNamed.merge {lower upper : Entries} (hl : lower.WellNamed) (hu : upper.WellNamed) :
    (lower.merge upper).WellNamed := by
  induction upper using nested_induction generalizing lower with
  | step upper ih =>
    refine .of_get? (hl.distinct.merge hu.distinct) fun k v hv => ?_
    rw [get?_merge hu.distinct] at hv
    cases hup : upper.get? k with
    | none =>
      rw [hup] at hv
      exact hl.get? hv
    | some w =>
      rw [hup] at hv
      obtain rfl := Option.some.inj hv
      by_cases maps : ∃ u l : Entries, w = .map u ∧ lower.get? k = some (.map l)
      · obtain ⟨u, l, rfl, hlow⟩ := maps
        rw [hlow, over_maps]
        exact ih k u hup (hl.get? hlow) (hu.get? hup)
      · rw [over_of_not_maps fun u l hw hlow => maps ⟨u, l, hw, hlow⟩]
        exact hu.get? hup

theorem merge_nil (es : Entries) : es.merge [] = es := rfl

theorem nil_merge {es : Entries} (h : es.Distinct) : merge [] es = es := by
  have names_eq : (merge [] es).names = es.names := by
    rw [names_merge h]
    simp [names, keys]
  refine (distinct_nil.merge h).ext names_eq fun k => ?_
  rw [get?_merge h]
  exact overlay_none _

/-- Every name of the upper layer is known already. -/
theorem names_merge_again {lower upper : Entries} (hu : upper.Distinct) :
    ((lower.merge upper).merge upper).names = (lower.merge upper).names := by
  have known : ∀ name ∈ upper.names, name.key? ∈ (lower.merge upper).keys := fun name hn =>
    (mem_keys_merge hu lower _).mpr (.inr (List.mem_map_of_mem hn))
  rw [names_merge hu, List.filter_eq_nil_iff.mpr, List.append_nil]
  intro name hn
  simpa using known name hn

theorem over_of_scalar {v : Value} (h : v.isMap = false) (lower : Option Value) :
    v.over lower = v :=
  over_of_not_maps fun _ _ map _ => by rw [map] at h; cases h

theorem Distinct.nodup {es : Entries} (h : es.Distinct) : List.Nodup es :=
  List.Nodup.of_map _ (List.Nodup.of_map _ h.2)

/-- A flat layer over one that has none but its names keeps its entries, in the lower order. -/
theorem merge_perm {lower upper : Entries} (hl : lower.Distinct) (hu : upper.Distinct)
    (flat : ∀ k v, upper.get? k = some v → v.isMap = false)
    (known : ∀ name ∈ lower.names, name ∈ upper.names) : (lower.merge upper).Perm upper := by
  have sameNames : ∀ name, name ∈ (lower.merge upper).names ↔ name ∈ upper.names := by
    intro name
    rw [names_merge hu, List.mem_append, List.mem_filter, decide_eq_true_eq]
    constructor
    · rintro (below | ⟨above, -⟩)
      · exact known name below
      · exact above
    · intro above
      by_cases found : name.key? ∈ lower.keys
      · obtain ⟨n, below, key⟩ := List.mem_map.mp found
        have same : n = name := List.inj_on_of_nodup_map hu.2 (known n below) above key
        exact .inl (same ▸ below)
      · exact .inr ⟨above, found⟩
  have sameValues : ∀ k, (lower.merge upper).get? k = upper.get? k := by
    intro k
    rw [get?_merge hu]
    cases hk : upper.get? k with
    | some v => rw [overlay, over_of_scalar (flat k v hk)]
    | none =>
      rw [overlay, get?_eq_none_iff]
      intro found
      obtain ⟨n, below, key⟩ := List.mem_map.mp found
      exact get?_eq_none_iff.mp hk (key ▸ List.mem_map_of_mem (known n below))
  refine (List.perm_ext_iff_of_nodup (hl.merge hu).nodup hu.nodup).mpr ?_
  rintro ⟨name, v⟩
  rw [(hl.merge hu).mem_iff, hu.mem_iff, sameNames, funext sameValues]

theorem over_of_no_map {lower : Option Value} (h : ∀ l, lower ≠ some (.map l)) (v : Value) :
    v.over lower = v :=
  over_of_not_maps fun _ l _ => h l

theorem eq_map_of_isMap {v : Value} (h : v.isMap = true) : ∃ es : Entries, v = .map es := by
  cases v with
  | map es => exact ⟨es, rfl⟩
  | _ => cases h

/-- A value laid a second time over what it has been laid over already, if mappings keep the law. -/
theorem over_over {v : Value} {lower : Option Value}
    (maps : ∀ u : Entries, v = .map u → u.merge u = u ∧
      ∀ l : Entries, lower = some (.map l) → (l.merge u).merge u = l.merge u) :
    v.over (some (v.over lower)) = v.over lower := by
  cases hv : v.isMap with
  | false => rw [over_of_scalar hv, over_of_scalar hv]
  | true =>
    obtain ⟨u, rfl⟩ := eq_map_of_isMap hv
    obtain ⟨self, again⟩ := maps u rfl
    by_cases hl : ∃ l, lower = some (.map l)
    · obtain ⟨l, rfl⟩ := hl
      rw [over_maps, over_maps, again l rfl]
    · have alone : Value.over (.map u) lower = .map u :=
        over_of_no_map (fun l map => hl ⟨l, map⟩) _
      rw [alone, over_maps, self]

theorem merge_merge_self {lower upper : Entries} (hl : lower.WellNamed) (hu : upper.WellNamed) :
    (lower.merge upper).merge upper = lower.merge upper := by
  induction upper using nested_induction generalizing lower with
  | step upper ih =>
    have merged := hl.distinct.merge hu.distinct
    refine (merged.merge hu.distinct).ext (names_merge_again hu.distinct) fun k => ?_
    rw [get?_merge hu.distinct, get?_merge hu.distinct]
    cases hup : upper.get? k with
    | none => rfl
    | some v =>
      refine congrArg some (over_over ?_)
      rintro u rfl
      have inner : WellNamed u := hu.get? hup
      refine ⟨?_, fun l hlow => ih k u hup (hl.get? hlow) inner⟩
      -- A mapping laid over itself is one laid twice over nothing.
      have fresh : (merge [] u).merge u = merge [] u := ih k u hup rfl inner
      rwa [nil_merge inner.distinct] at fresh

theorem merge_self {es : Entries} (h : es.WellNamed) : es.merge es = es := by
  have twice : (merge [] es).merge es = merge [] es := merge_merge_self rfl h
  rwa [nil_merge h.distinct] at twice

/-- What three layers hold in one place, if no other value comes between two mappings and three
mappings keep the law. -/
theorem overlay_overlay {x y z : Option Value}
    (kept : ∀ l u v, x = some (.map l) → z = some (.map u) → y = some v → v.isMap = true)
    (maps : ∀ l m u : Entries, x = some (.map l) → y = some (.map m) → z = some (.map u) →
      (l.merge m).merge u = l.merge (m.merge u)) :
    overlay z (overlay y x) = overlay (overlay z y) x := by
  cases z with
  | none => rfl
  | some w =>
    cases y with
    | none => rw [overlay_none]; rfl
    | some v =>
      refine congrArg some ?_
      rw [overlay]
      cases hw : w.isMap with
      | false => rw [over_of_scalar hw, over_of_scalar hw, over_of_scalar hw]
      | true =>
        obtain ⟨u, rfl⟩ := eq_map_of_isMap hw
        by_cases hx : ∃ l, x = some (.map l)
        · obtain ⟨l, rfl⟩ := hx
          obtain ⟨m, rfl⟩ := eq_map_of_isMap (kept l u v rfl rfl rfl)
          rw [over_maps, over_maps, over_maps, over_maps, maps l m u rfl rfl rfl]
        · have above : ∀ v : Value, v.over x = v := over_of_no_map fun l map => hx ⟨l, map⟩
          rw [above, above]

theorem names_merge_merge {a b c : Entries} (hb : b.Distinct) (hc : c.Distinct) :
    ((a.merge b).merge c).names = (a.merge (b.merge c)).names := by
  rw [names_merge hc, names_merge hb, names_merge (hb.merge hc), names_merge hc]
  rw [List.filter_append, List.filter_filter, List.append_assoc]
  refine congrArg (a.names ++ ·) (congrArg (_ ++ ·) (List.filter_congr fun name hn => ?_))
  have known := mem_keys_merge hb a name.key?
  simp [known]

/-- There is a mapping in a place. -/
def HasMap (es : Entries) (p : List Key) : Prop := ∃ inner : Entries, es.at? p = some (.map inner)

/-- In some place the first and the last of three layers hold a mapping, and the one in between holds
something else. As only mappings lead on, all three hold mappings on the way there. -/
def Reopens (a b c : Entries) : Prop :=
  ∃ p, a.HasMap p ∧ c.HasMap p ∧ ∃ v, b.at? p = some v ∧ v.isMap = false

theorem eq_map_of_at?_cons {v w : Value} {k : Key} {p : List Key} (h : v.at? (k :: p) = some w) :
    ∃ es : Entries, v = .map es :=
  eq_map_of_isMap (Value.isMap_of_at? h List.nil_prefix (by simp) rfl)

theorem HasMap.of_cons {es : Entries} {k : Key} {p : List Key} (h : es.HasMap (k :: p)) :
    ∃ inner : Entries, es.get? k = some (.map inner) ∧ inner.HasMap p := by
  obtain ⟨last, h⟩ := h
  rw [at?_cons, Option.bind_eq_some_iff] at h
  obtain ⟨v, hv, h⟩ := h
  cases p with
  | nil =>
    cases h
    exact ⟨last, hv, last, rfl⟩
  | cons j p =>
    obtain ⟨inner, rfl⟩ := eq_map_of_at?_cons h
    exact ⟨inner, hv, last, h⟩

/-- One level of the three layers. -/
theorem reopens_iff {a b c : Entries} : Reopens a b c ↔
    ∃ k l u v, a.get? k = some (.map l) ∧ c.get? k = some (.map u) ∧ b.get? k = some v ∧
      (v.isMap = false ∨ ∃ m, v = .map m ∧ Reopens l m u) := by
  constructor
  · rintro ⟨p, first, last, w, hw, other⟩
    cases p with
    | nil =>
      cases hw
      cases other
    | cons k p =>
      obtain ⟨l, hl, first⟩ := first.of_cons
      obtain ⟨u, hu, last⟩ := last.of_cons
      rw [at?_cons, Option.bind_eq_some_iff] at hw
      obtain ⟨v, hv, hw⟩ := hw
      refine ⟨k, l, u, v, hl, hu, hv, ?_⟩
      cases p with
      | nil =>
        cases hw
        exact .inl other
      | cons j p =>
        obtain ⟨m, rfl⟩ := eq_map_of_at?_cons hw
        exact .inr ⟨m, rfl, j :: p, first, last, w, hw, other⟩
  · have under : ∀ {es : Entries} {k : Key} {v : Value}, es.get? k = some v → ∀ p,
        es.at? (k :: p) = v.at? p := fun hes p => by rw [at?_cons, hes]; rfl
    rintro ⟨k, l, u, v, hl, hu, hv, other | ⟨m, rfl, p, ⟨x, hx⟩, ⟨z, hz⟩, w, hw, other⟩⟩
    · exact ⟨[k], ⟨l, under hl []⟩, ⟨u, under hu []⟩, v, under hv [], other⟩
    · exact ⟨k :: p, ⟨x, (under hl p).trans hx⟩, ⟨z, (under hu p).trans hz⟩, w,
        (under hv p).trans hw, other⟩

/-- The induction goes down the last layer, as far as the other two hold mappings as well. -/
theorem merge_assoc {a b c : Entries} (ha : a.WellNamed) (hb : b.WellNamed) (hc : c.WellNamed)
    (free : ¬Reopens a b c) : (a.merge b).merge c = a.merge (b.merge c) := by
  induction c using nested_induction generalizing a b with
  | step c ih =>
    have left := (ha.distinct.merge hb.distinct).merge hc.distinct
    refine left.ext (names_merge_merge hb.distinct hc.distinct) fun k => ?_
    rw [get?_merge hc.distinct, get?_merge hb.distinct, get?_merge (hb.distinct.merge hc.distinct),
      get?_merge hc.distinct]
    refine overlay_overlay (fun l u v hl hu hv => ?_) fun l m u hl hm hu => ?_
    · cases other : v.isMap with
      | true => rfl
      | false => exact absurd (reopens_iff.mpr ⟨k, l, u, v, hl, hu, hv, .inl other⟩) free
    · exact ih k u hu (ha.get? hl) (hb.get? hm) (hc.get? hu) fun inner =>
        free (reopens_iff.mpr ⟨k, l, u, .map m, hl, hu, hm, .inr ⟨m, rfl, inner⟩⟩)

/-- What the lower of three layers held comes back if the upper two are merged first. -/
example :
    let lower : Entries := [(.text "log", .map [(.text "dir", .text "old")])]
    let upper : Entries := [(.text "log", .map [(.text "level", .text "INFO")])]
    let between : Entries := [(.text "log", .null)]
    ((lower.merge between).merge upper).at? [.text "log", .text "dir"] = none ∧
      (lower.merge (between.merge upper)).at? [.text "log", .text "dir"] = some (.text "old") :=
  ⟨rfl, rfl⟩

theorem HasMap.of_merge {a b : Entries} (hb : b.WellNamed) {p : List Key}
    (h : (a.merge b).HasMap p) : a.HasMap p ∨ b.HasMap p := by
  obtain ⟨inner, hi⟩ := h
  by_cases hp : p = []
  · exact .inl ⟨a, by rw [hp]; rfl⟩
  · obtain ⟨overridden, laid⟩ := at?_merge a hb hp
    by_cases hover : b.Overrides a p
    · exact .inr ⟨inner, by rw [← overridden hover, hi]⟩
    · rw [laid hover] at hi
      cases hup : b.at? p with
      | none =>
        rw [hup] at hi
        exact .inl ⟨inner, hi⟩
      | some v =>
        rw [hup] at hi
        cases hv : v.isMap with
        | true =>
          obtain ⟨u, rfl⟩ := eq_map_of_isMap hv
          exact .inr ⟨u, hup⟩
        | false =>
          rw [overlay, over_of_scalar hv] at hi
          exact .inr ⟨inner, by rw [hup, hi]⟩

theorem wellNamed_foldr {layers : List Entries} (named : ∀ l ∈ layers, l.WellNamed) :
    (layers.foldr merge []).WellNamed := by
  induction layers with
  | nil => rfl
  | cons l layers ih =>
    rw [List.forall_mem_cons] at named
    exact named.1.merge (ih named.2)

theorem HasMap.of_foldr {layers : List Entries} (named : ∀ l ∈ layers, l.WellNamed) {k : Key}
    {p : List Key} (h : (layers.foldr merge []).HasMap (k :: p)) :
    ∃ l ∈ layers, l.HasMap (k :: p) := by
  induction layers with
  | nil =>
    obtain ⟨inner, hi⟩ := h
    cases hi
  | cons l layers ih =>
    rw [List.forall_mem_cons] at named
    rcases h.of_merge (wellNamed_foldr named.2) with here | later
    · exact ⟨l, List.mem_cons_self, here⟩
    · obtain ⟨m, hm, inM⟩ := ih named.2 later
      exact ⟨m, List.mem_cons_of_mem l hm, inM⟩

theorem Reopens.of_merge {a b y z : Entries} (hb : b.WellNamed) (h : Reopens (a.merge b) y z) :
    Reopens a y z ∨ Reopens b y z := by
  obtain ⟨p, first, rest⟩ := h
  rcases first.of_merge hb with low | high
  · exact .inl ⟨p, low, rest⟩
  · exact .inr ⟨p, high, rest⟩

theorem Reopens.of_foldr {a b : Entries} {layers : List Entries}
    (named : ∀ l ∈ layers, l.WellNamed) (h : Reopens a b (layers.foldr merge [])) :
    ∃ l ∈ layers, Reopens a b l := by
  obtain ⟨p, first, last, v, hv, other⟩ := h
  cases p with
  | nil =>
    cases hv
    cases other
  | cons k p =>
    obtain ⟨l, hl, last⟩ := last.of_foldr named
    exact ⟨l, hl, k :: p, first, last, v, hv, other⟩

/-- No layer puts anything else in the place of a mapping that a later layer opens again. -/
abbrev NoneReopens (layers : List Entries) : Prop := layers.Triplewise fun a b c => ¬Reopens a b c

/-- The first two layers may be merged beforehand. -/
theorem NoneReopens.merge {a b : Entries} {layers : List Entries} (hb : b.WellNamed)
    (h : NoneReopens (a :: b :: layers)) : NoneReopens (a.merge b :: layers) := by
  obtain ⟨first, h⟩ := List.triplewise_cons.mp h
  obtain ⟨second, rest⟩ := List.triplewise_cons.mp h
  have both := (List.pairwise_cons.mp first).2.and second
  exact .cons (both.imp fun free re => (re.of_merge hb).elim free.1 free.2) rest

/-- The induction keeps what is merged already as the first of the layers that are left. -/
theorem foldl_merge {layers : List Entries} {a : Entries} (ha : a.WellNamed)
    (named : ∀ l ∈ layers, l.WellNamed) (free : NoneReopens (a :: layers)) :
    layers.foldl merge a = a.merge (layers.foldr merge []) := by
  induction layers generalizing a with
  | nil => rfl
  | cons b layers ih =>
    obtain ⟨hb, rest⟩ := List.forall_mem_cons.mp named
    have apart : ¬Reopens a b (layers.foldr merge []) := fun re => by
      obtain ⟨c, hc, re⟩ := re.of_foldr rest
      exact (List.pairwise_cons.mp (List.triplewise_cons.mp free).1).1 c hc re
    calc layers.foldl merge (a.merge b)
        = (a.merge b).merge (layers.foldr merge []) := ih (ha.merge hb) rest (free.merge hb)
      _ = a.merge (b.merge (layers.foldr merge [])) :=
        merge_assoc ha hb (wellNamed_foldr rest) apart

/-- Where no name stands in all three layers, none is opened again. -/
theorem not_reopens_of_keys {a b c : Entries}
    (apart : ∀ k ∈ b.keys, k ∈ a.keys → k ∉ c.keys) : ¬Reopens a b c := by
  have known : ∀ {es : Entries} {k : Key} {v : Value}, es.get? k = some v → some k ∈ es.keys := by
    intro es k v hv
    refine Decidable.by_contra fun new => ?_
    rw [get?_eq_none_iff.mpr new] at hv
    cases hv
  intro re
  obtain ⟨k, l, u, v, hl, hu, hv, -⟩ := reopens_iff.mp re
  exact apart (some k) (known hv) (known hl) (known hu)

/-- Three layers may be merged from either side if the one in between does not reopen a mapping, and
so may any number of layers. -/
theorem merge_from_either_side :
    (∀ a b c : Entries, a.WellNamed → b.WellNamed → c.WellNamed → ¬Reopens a b c →
      (a.merge b).merge c = a.merge (b.merge c)) ∧
    ∀ layers : List Entries, (∀ l ∈ layers, l.WellNamed) → NoneReopens layers →
      layers.foldl merge [] = layers.foldr merge [] := by
  refine ⟨fun a b c ha hb hc free => merge_assoc ha hb hc free, fun layers named free => ?_⟩
  cases layers with
  | nil => rfl
  | cons a layers =>
    obtain ⟨ha, rest⟩ := List.forall_mem_cons.mp named
    rw [List.foldl_cons, nil_merge ha.distinct, List.foldr_cons]
    exact foldl_merge ha rest free

/-- The second layer blots out a mapping that no later one opens; the last two both hold another. -/
theorem merge_from_either_side_of_blotted_mapping :
    let base : Entries := [(.text "query", .map [(.text "limit", .int 1)]),
      (.text "log", .map [(.text "dir", .text "log")])]
    let blot : Entries := [(.text "query", .null)]
    let site : Entries := [(.text "log", .map [(.text "level", .text "DEBUG")])]
    let user : Entries := [(.text "log", .map [(.text "level", .text "INFO"), (.int 1, .null)])]
    [base, blot, site, user].foldl merge [] = base.merge (blot.merge (site.merge user)) ∧
      (base.merge site).merge user = base.merge (site.merge user) := by
  intro base blot site user
  have levels : ¬Reopens base site user := fun re => by
    obtain ⟨k, l, u, v, hl, hu, hv, other⟩ := reopens_iff.mp re
    have here : k = .text "log" := by
      rw [get?_cons] at hv
      split at hv
      · next e => exact (Option.some.inj e).symm
      · cases hv
    subst here
    cases hl
    cases hu
    cases hv
    obtain other | ⟨m, e, inner⟩ := other
    · cases other
    · cases e
      exact not_reopens_of_keys (by decide) inner
  have free : NoneReopens [base, blot, site, user] := by
    refine .cons (List.pairwise_cons.mpr ⟨?_, List.pairwise_pair.mpr levels⟩)
      (List.triplewise_triple.mpr (not_reopens_of_keys (by decide)))
    exact List.forall_mem_cons.mpr ⟨not_reopens_of_keys (by decide),
      List.forall_mem_singleton.mpr (not_reopens_of_keys (by decide))⟩
  exact ⟨merge_from_either_side.2 [base, blot, site, user] (by decide) free,
    merge_from_either_side.1 base site user (by decide) (by decide) (by decide) levels⟩

end Fulltext.Entries
