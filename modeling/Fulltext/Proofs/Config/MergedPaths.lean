import Fulltext.Proofs.Config.Merge

namespace Fulltext

namespace Value

/-- What stands under a path, each name leading into the mapping under the one before. -/
def at? : Value → List Key → Option Value
  | v, [] => some v
  | map es, k :: p => (Entries.get? es k).bind fun v => v.at? p
  | _, _ :: _ => none

theorem at?_append (v : Value) (p q : List Key) :
    v.at? (p ++ q) = (v.at? p).bind fun w => w.at? q := by
  induction p generalizing v with
  | nil => rfl
  | cons k p ih =>
    cases v with
    | map es =>
      rw [List.cons_append, at?, at?]
      cases Entries.get? es k with
      | none => rfl
      | some w => exact ih w
    | _ => rfl

theorem at?_of_not_isMap {v : Value} (h : v.isMap = false) (k : Key) (p : List Key) :
    v.at? (k :: p) = none := by
  cases v with
  | map es => cases h
  | _ => rfl

/-- Only mappings lead on. -/
theorem isMap_of_at? {v w u : Value} {p q : List Key} (hw : v.at? q = some w) (hp : p <+: q)
    (hne : p ≠ q) (hu : v.at? p = some u) : u.isMap = true := by
  obtain ⟨r, rfl⟩ := hp
  cases r with
  | nil => exact absurd (List.append_nil p).symm hne
  | cons k r =>
    rw [at?_append, hu, Option.bind_some] at hw
    cases hm : u.isMap with
    | true => rfl
    | false =>
      rw [at?_of_not_isMap hm] at hw
      cases hw

end Value

namespace Entries

def at? (es : Entries) (p : List Key) : Option Value := (Value.map es).at? p

theorem at?_cons (es : Entries) (k : Key) (p : List Key) :
    es.at? (k :: p) = (es.get? k).bind fun v => v.at? p := by
  rw [at?, Value.at?]

theorem WellNamed.at? {es : Entries} (h : es.WellNamed) {p : List Key} {inner : Entries}
    (hi : es.at? p = some (.map inner)) : inner.WellNamed := by
  induction p generalizing es with
  | nil =>
    cases hi
    exact h
  | cons k p ih =>
    rw [at?_cons, Option.bind_eq_some_iff] at hi
    obtain ⟨v, hv, hi⟩ := hi
    have below := h.get? hv
    cases v with
    | map m => exact ih below hi
    | _ =>
      cases p with
      | nil => cases hi
      | cons j p => cases hi

/-- On the way along a path the upper layer holds something else than a mapping, or it holds anything
where the lower layer holds something else than a mapping. -/
def Overrides (upper lower : Entries) (p : List Key) : Prop :=
  ∃ q, q <+: p ∧ q ≠ p ∧
    ((∃ v, upper.at? q = some v ∧ v.isMap = false) ∨
      ∃ v, lower.at? q = some v ∧ v.isMap = false ∧ (upper.at? q).isSome)

/-- The way begins in the mappings themselves. -/
theorem overrides_cons_iff (upper lower : Entries) (k : Key) (p : List Key) :
    upper.Overrides lower (k :: p) ↔ ∃ q, q <+: p ∧ q ≠ p ∧
      ((∃ v, upper.at? (k :: q) = some v ∧ v.isMap = false) ∨
        ∃ v, lower.at? (k :: q) = some v ∧ v.isMap = false ∧ (upper.at? (k :: q)).isSome) := by
  constructor
  · rintro ⟨q, hq, hne, h⟩
    cases q with
    | nil =>
      rcases h with ⟨v, hv, hm⟩ | ⟨v, hv, hm, -⟩
      · cases hv
        cases hm
      · cases hv
        cases hm
    | cons j q =>
      obtain ⟨rfl, inner⟩ := List.cons_prefix_cons.mp hq
      exact ⟨q, inner, fun e => hne (congrArg (j :: ·) e), h⟩
  · rintro ⟨q, hq, hne, h⟩
    exact ⟨k :: q, List.cons_prefix_cons.mpr ⟨rfl, hq⟩, fun e => hne (List.cons.inj e).2, h⟩

theorem not_overrides_nil (upper lower : Entries) : ¬upper.Overrides lower [] :=
  fun ⟨_, hq, hne, _⟩ => hne (List.prefix_nil.mp hq)

theorem not_overrides_of_get?_none {upper : Entries} {k : Key} (h : upper.get? k = none)
    (lower : Entries) (p : List Key) : ¬upper.Overrides lower (k :: p) := by
  have nothing : ∀ q, upper.at? (k :: q) = none := fun q => by rw [at?_cons, h, Option.bind_none]
  rw [overrides_cons_iff]
  rintro ⟨q, -, -, ⟨v, hv, -⟩ | ⟨v, -, -, hs⟩⟩
  · rw [nothing] at hv
    cases hv
  · rw [nothing] at hs
    cases hs

theorem overrides_cons_of_maps {upper lower u l : Entries} {k : Key}
    (hu : upper.get? k = some (.map u)) (hl : lower.get? k = some (.map l)) (p : List Key) :
    upper.Overrides lower (k :: p) ↔ u.Overrides l p := by
  have upperAt : ∀ q, upper.at? (k :: q) = u.at? q := fun q => by rw [at?_cons, hu]; rfl
  have lowerAt : ∀ q, lower.at? (k :: q) = l.at? q := fun q => by rw [at?_cons, hl]; rfl
  rw [overrides_cons_iff]
  simp only [upperAt, lowerAt]
  rfl

/-- If the upper layer does not override a path on from `k`, the layers hold mappings under `k`
unless the lower one holds nothing there. -/
theorem get?_eq_none_of_not_overrides {lower upper : Entries} {k j : Key} {p : List Key} {v : Value}
    (hv : upper.get? k = some v)
    (maps : ¬∃ u l : Entries, v = .map u ∧ lower.get? k = some (.map l))
    (free : ¬upper.Overrides lower (k :: j :: p)) : lower.get? k = none := by
  cases hlow : lower.get? k with
  | none => rfl
  | some w =>
    have upperAt : upper.at? [k] = some v := by rw [at?_cons, hv]; rfl
    have lowerAt : lower.at? [k] = some w := by rw [at?_cons, hlow]; rfl
    have way : ¬((∃ v, upper.at? [k] = some v ∧ v.isMap = false) ∨
        ∃ w, lower.at? [k] = some w ∧ w.isMap = false ∧ (upper.at? [k]).isSome) :=
      fun h => free ((overrides_cons_iff ..).mpr ⟨[], List.nil_prefix, by simp, h⟩)
    cases v with
    | map u =>
      cases w with
      | map l => exact absurd ⟨u, l, rfl, hlow⟩ maps
      | _ => exact absurd (.inr ⟨_, lowerAt, rfl, by rw [upperAt]; rfl⟩) way
    | _ => exact absurd (.inl ⟨_, upperAt, rfl⟩) way

/-- Along a path the induction goes down both layers as long as both hold mappings. -/
theorem at?_merge (lower : Entries) {upper : Entries} (hu : upper.WellNamed) {p : List Key}
    (hp : p ≠ []) :
    (upper.Overrides lower p → (lower.merge upper).at? p = upper.at? p) ∧
    (¬upper.Overrides lower p →
      (lower.merge upper).at? p = overlay (upper.at? p) (lower.at? p)) := by
  induction p generalizing lower upper with
  | nil => exact absurd rfl hp
  | cons k p ih =>
    have entry := get?_merge hu.distinct lower k
    cases hup : upper.get? k with
    | none =>
      have merged : (lower.merge upper).at? (k :: p) = lower.at? (k :: p) := by
        rw [at?_cons, at?_cons, entry, hup, overlay]
      have nothing : upper.at? (k :: p) = none := by rw [at?_cons, hup, Option.bind_none]
      refine ⟨fun h => absurd h (not_overrides_of_get?_none hup lower p), fun _ => ?_⟩
      rw [merged, nothing, overlay]
    | some v =>
      by_cases maps : ∃ u l : Entries, v = .map u ∧ lower.get? k = some (.map l)
      · obtain ⟨u, l, rfl, hlow⟩ := maps
        have merged : (lower.merge upper).at? (k :: p) = (l.merge u).at? p := by
          rw [at?_cons, entry, hup, hlow, overlay, over_maps]
          rfl
        have upperAt : upper.at? (k :: p) = u.at? p := by rw [at?_cons, hup]; rfl
        have lowerAt : lower.at? (k :: p) = l.at? p := by rw [at?_cons, hlow]; rfl
        rw [merged, upperAt, lowerAt, overrides_cons_of_maps hup hlow]
        cases p with
        | nil =>
          exact ⟨fun h => absurd h (not_overrides_nil u l), fun _ =>
            congrArg some (over_maps u l).symm⟩
        | cons j p => exact ih _ (hu.get? hup) (List.cons_ne_nil j p)
      · have kept : v.over (lower.get? k) = v :=
          over_of_not_maps fun u l hv hlow => maps ⟨u, l, hv, hlow⟩
        have merged : (lower.merge upper).at? (k :: p) = upper.at? (k :: p) := by
          rw [at?_cons, at?_cons, entry, hup, overlay, kept]
        refine ⟨fun _ => merged, fun free => ?_⟩
        rw [merged]
        cases p with
        | nil =>
          rw [at?_cons, at?_cons, hup]
          cases hlow : lower.get? k with
          | none => exact (overlay_none _).symm
          | some w => exact congrArg some (hlow ▸ kept).symm
        | cons j p =>
          have nothing := get?_eq_none_of_not_overrides hup maps free
          rw [at?_cons lower, nothing, Option.bind_none, overlay_none]

theorem not_overrides_of_maps {lower upper l u : Entries} {p : List Key}
    (hl : lower.at? p = some (.map l)) (hu : upper.at? p = some (.map u)) :
    ¬upper.Overrides lower p := by
  rintro ⟨q, hq, hne, ⟨v, hv, hm⟩ | ⟨v, hv, hm, -⟩⟩
  · rw [Value.isMap_of_at? hu hq hne hv] at hm
    cases hm
  · rw [Value.isMap_of_at? hl hq hne hv] at hm
    cases hm

theorem at?_merge_of_maps {lower upper l u : Entries} (hw : upper.WellNamed) {p : List Key}
    (hl : lower.at? p = some (.map l)) (hu : upper.at? p = some (.map u)) :
    (lower.merge upper).at? p = some (.map (l.merge u)) := by
  cases p with
  | nil =>
    cases hl
    cases hu
    rfl
  | cons k p =>
    rw [(at?_merge lower hw (List.cons_ne_nil k p)).2 (not_overrides_of_maps hl hu), hu, hl, overlay,
      over_maps]

/-- Where the upper layer overrides a path, it alone says what stands there. Anywhere else what it
holds is laid over what the lower layer holds: two mappings are merged, and any other value of the
upper layer stands for itself. Merged mappings keep the lower names in place and add the new ones. -/
theorem merge_decided_along_path (lower upper : Entries) (hl : lower.WellNamed)
    (hu : upper.WellNamed) (p : List Key) :
    let merged := lower.merge upper
    (p ≠ [] →
      (upper.Overrides lower p → merged.at? p = upper.at? p) ∧
      (¬upper.Overrides lower p →
        (∀ v, upper.at? p = some v → (∀ l u, lower.at? p = some (.map l) → v ≠ .map u) →
          merged.at? p = some v) ∧
        (upper.at? p = none → merged.at? p = lower.at? p))) ∧
    ∀ l u : Entries, lower.at? p = some (.map l) → upper.at? p = some (.map u) →
      ∃ es : Entries, es = l.merge u ∧ merged.at? p = some (.map es) ∧
        es.names = l.names ++ u.names.filter (fun name => name.key? ∉ l.keys) ∧
        (∀ k, k ∈ es.keys ↔ k ∈ l.keys ∨ k ∈ u.keys) ∧ es.keys.Nodup := by
  intro merged
  refine ⟨fun hp => ?_, fun l u hlow hup => ?_⟩
  · obtain ⟨overridden, free⟩ := at?_merge lower hu hp
    refine ⟨overridden, fun h => ⟨fun v hv other => ?_, fun hnone => ?_⟩⟩
    · rw [free h, hv, overlay, over_of_not_maps fun u l hvu hlow => other l u hlow hvu]
    · rw [free h, hnone, overlay]
  · have distinct := (hu.at? hup).distinct
    exact ⟨l.merge u, rfl, at?_merge_of_maps hu hlow hup, names_merge distinct l,
      mem_keys_merge distinct l, ((hl.at? hlow).distinct.merge distinct).2⟩

/-- A number and a truth value are one name, and a mapping takes the place of a text. -/
theorem merge_decided_along_path_of_shadowed_section :
    let one : Key := .number (.exact 1)
    let lower : Entries := [(.text "log", .map [(.text "dir", .text "old"), (.int 1, .null)]),
      (.text "query", .text "none")]
    let upper : Entries := [(.text "query", .map [(.text "limit", .int 5)]),
      (.text "log", .map [(.text "level", .text "DEBUG"), (.bool true, .int 7)])]
    let merged := lower.merge upper
    lower.WellNamed ∧ upper.WellNamed ∧
      merged.at? [.text "query", .text "limit"] = some (.int 5) ∧
      merged.at? [.text "log", one] = some (.int 7) ∧
      merged.at? [.text "log", .text "dir"] = some (.text "old") ∧
      ∃ es : Entries, merged.at? [.text "log"] = some (.map es) ∧
        es.names = [.text "dir", .int 1, .text "level"] := by
  intro one lower upper merged
  have hl : lower.WellNamed := by decide
  have hu : upper.WellNamed := by decide
  have decided := merge_decided_along_path lower upper hl hu
  have shadowed : upper.Overrides lower [.text "query", .text "limit"] :=
    ⟨[.text "query"], List.prefix_append _ [Key.text "limit"], by simp,
      .inr ⟨.text "none", rfl, rfl, rfl⟩⟩
  have unshadowed : ∀ k, ¬upper.Overrides lower [.text "log", k] := fun k => by
    rw [overrides_cons_of_maps rfl rfl, overrides_cons_iff]
    exact fun ⟨q, hq, hne, _⟩ => hne (List.prefix_nil.mp hq)
  obtain ⟨es, -, hes, names, -⟩ := (decided [.text "log"]).2 _ _ rfl rfl
  refine ⟨hl, hu, ?_, ?_, ?_, es, hes, names⟩
  · exact ((decided _).1 (by simp)).1 shadowed
  · exact (((decided _).1 (by simp)).2 (unshadowed one)).1 _ rfl (by simp)
  · exact (((decided _).1 (by simp)).2 (unshadowed _)).2 rfl

end Entries

end Fulltext
