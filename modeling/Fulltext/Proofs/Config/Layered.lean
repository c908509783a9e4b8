import Fulltext.Proofs.Config.Merge
import Fulltext.Proofs.Config.NormalForm

namespace Fulltext

namespace Config

/-- The lower weights in place, with upper values where there are any, and then the new ones. -/
def layeredWeights (lower upper : Entries) : Entries :=
  lower.map (fun e => (e.1, (e.1.key?.bind upper.get?).getD e.2)) ++
    upper.filter fun e => e.1.key? ∉ lower.keys

/-- The upper value if there is one. Only weights may be a mapping in both layers. -/
def chosen : Option Value → Option Value → Option Value
  | some (.map upper), some (.map lower) => some (.map (layeredWeights lower upper))
  | some v, _ => some v
  | none, lower => lower

/-- The value that counts for a key; an upper section that is null takes the lower one away. -/
def effective (base override : Entries) (sectionName key : String) : Option Value :=
  match override.named? sectionName with
  | none => base.look sectionName key
  | some (.map upper) => chosen (Entries.named? upper key) (base.look sectionName key)
  | some _ => none

theorem names_layeredWeights (lower upper : Entries) :
    (layeredWeights lower upper).names =
      lower.names ++ upper.names.filter fun name => name.key? ∉ lower.keys := by
  simp [layeredWeights, Entries.names, List.filter_map, Function.comp_def]

theorem get?_layeredWeights (lower upper : Entries) (k : Key) :
    (layeredWeights lower upper).get? k = (upper.get? k).or (lower.get? k) := by
  have inPlace : Entries.get? (lower.map fun e => (e.1, (e.1.key?.bind upper.get?).getD e.2)) k =
      (lower.get? k).map fun v => (upper.get? k).getD v := by
    induction lower with
    | nil => rfl
    | cons e lower ih =>
      obtain ⟨name, v⟩ := e
      rw [List.map_cons, Entries.get?_cons, Entries.get?_cons, ih]
      by_cases hk : name.key? = some k
      · simp [hk]
      · simp [hk]
  rw [layeredWeights, Entries.get?_append, inPlace, Entries.get?_filter]
  cases hl : lower.get? k with
  | none => simp [Entries.get?_eq_none_iff.mp hl]
  | some v =>
    cases upper.get? k with
    | none => simp
    | some w => simp

theorem merge_eq_layeredWeights {lower upper : Entries} (hl : lower.Distinct)
    (hu : upper.Distinct) (flat : ∀ k v, upper.get? k = some v → v.isMap = false) :
    lower.merge upper = layeredWeights lower upper := by
  refine (hl.merge hu).ext ?_ fun k => ?_
  · rw [Entries.names_merge hu, names_layeredWeights]
  · rw [Entries.get?_merge hu, get?_layeredWeights]
    cases hk : upper.get? k with
    | none => rfl
    | some v =>
      have plain : v.over (lower.get? k) = v :=
        Entries.over_of_not_maps fun u l hv _ => by
          have := flat k v hk
          rw [hv] at this
          cases this
      rw [Entries.overlay, plain, Option.some_or]

theorem part_of_map {es part : Entries} {name : String} (h : es.named? name = some (.map part)) :
    es.part name = part := by
  rw [Entries.part, h]

theorem part_of_not_map {es : Entries} {name : String}
    (h : ∀ part, es.named? name ≠ some (.map part)) : es.part name = [] := by
  rw [Entries.part]
  split
  · next part hp => exact absurd hp (h part)
  · rfl

theorem named?_merge {override : Entries} (ho : override.Distinct) (base : Entries) (name : String) :
    (base.merge override).named? name =
      Entries.overlay (override.named? name) (base.named? name) :=
  Entries.get?_merge ho base (.text name)

theorem look_merge {base override : Entries} (ho : override.WellNamed) (sectionName key : String) :
    (base.merge override).look sectionName key =
      match override.named? sectionName with
      | none => base.look sectionName key
      | some (.map upper) => Entries.overlay (Entries.named? upper key) (base.look sectionName key)
      | some _ => none := by
  have entry := named?_merge ho.distinct base sectionName
  cases hup : override.named? sectionName with
  | none =>
    rw [hup, Entries.overlay] at entry
    rw [Entries.look, Entries.look, Entries.part, Entries.part, entry]
  | some v =>
    rw [hup, Entries.overlay] at entry
    cases v with
    | map upper =>
      by_cases maps : ∃ lower, base.named? sectionName = some (.map lower)
      · obtain ⟨lower, hlow⟩ := maps
        rw [hlow, Entries.over_maps] at entry
        have inner : Entries.WellNamed upper := ho.get? hup
        rw [Entries.look, Entries.look, part_of_map entry, part_of_map hlow]
        exact named?_merge inner.distinct lower key
      · have nothing : base.look sectionName key = none := by
          rw [Entries.look, part_of_not_map fun lower h => maps ⟨lower, h⟩]
          rfl
        rw [Entries.over_of_not_maps fun _ l _ h => maps ⟨l, h⟩] at entry
        rw [nothing, Entries.look, part_of_map entry]
        exact (Entries.overlay_none _).symm
    | _ =>
      rw [Entries.over_of_not_maps (by simp)] at entry
      rw [Entries.look, part_of_not_map fun part h => by rw [entry] at h; cases h]
      rfl

/-- What the upper layer holds is laid over what the lower one holds under the same key. -/
theorem look_merge_of_look {base override : Entries} (ho : override.WellNamed)
    {sectionName key : String} {v : Value} (h : override.look sectionName key = some v) :
    (base.merge override).look sectionName key = some (v.over (base.look sectionName key)) := by
  rw [look_merge ho]
  cases hup : override.named? sectionName with
  | none =>
    rw [Entries.look, Entries.part, hup] at h
    cases h
  | some s =>
    cases s with
    | map upper =>
      rw [Entries.look, part_of_map hup] at h
      simp only [h, Entries.overlay]
    | _ =>
      rw [Entries.look, Entries.part, hup] at h
      cases h

theorem readable_merge_of_map {base override upper : Entries} (ho : override.Distinct)
    {name : String} (h : override.named? name = some (.map upper)) :
    (base.merge override).Readable name := by
  intro v hv
  rw [named?_merge ho, h, Entries.overlay] at hv
  obtain rfl := Option.some.inj hv
  by_cases maps : ∃ lower, base.named? name = some (.map lower)
  · obtain ⟨lower, hlow⟩ := maps
    exact .inr ⟨_, by rw [hlow, Entries.over_maps]⟩
  · exact .inr ⟨upper, Entries.over_of_not_maps fun _ l _ h => maps ⟨l, h⟩⟩

theorem readable_merge {base override : Entries} (ho : override.Distinct) {name : String}
    (hb : base.Readable name) (hr : override.Readable name) : (base.merge override).Readable name := by
  cases hup : override.named? name with
  | none =>
    intro v hv
    rw [named?_merge ho, hup, Entries.overlay] at hv
    exact hb v hv
  | some w =>
    rcases hr w hup with rfl | ⟨upper, rfl⟩
    · intro v hv
      rw [named?_merge ho, hup, Entries.overlay] at hv
      obtain rfl := Option.some.inj hv
      exact .inl (Entries.over_of_not_maps (by simp))
    · exact readable_merge_of_map ho hup

theorem wellNamed_of_look {es inner : Entries} (h : es.WellNamed) {sectionName key : String}
    (hi : es.look sectionName key = some (.map inner)) : inner.WellNamed := by
  rw [Entries.look, Entries.part] at hi
  split at hi
  · next part hp =>
    have outer : Entries.WellNamed part := h.get? hp
    exact outer.get? hi
  · cases hi

/-- What a reading makes of mappings: it reads flat ones only, and if it reads two of them it reads
one laid over the other. -/
structure Layers {α : Type} (read? : Value → Option α) : Prop where
  flat : ∀ es : Entries, (read? (.map es)).isSome → ∀ k v, es.get? k = some v → v.isMap = false
  layered : ∀ lower upper : Entries, (read? (.map lower)).isSome → (read? (.map upper)).isSome →
    (read? (.map (layeredWeights lower upper))).isSome

theorem Layers.of_scalars {α : Type} {read? : Value → Option α}
    (h : ∀ es, read? (.map es) = none) : Layers read? :=
  ⟨fun es he => by simp [h] at he, fun lower _ hl => by simp [h] at hl⟩

theorem weight?_isSome_iff {name v : Value} :
    (weight? (name, v)).isSome ↔
      (∃ s, name = .text s) ∧ ∃ w, Whole.ofValue? v = some w ∧ 0 < w.number := by
  cases name with
  | text s => cases h : Whole.ofValue? v <;> simp [weight?, h]
  | _ => simp [weight?]

theorem weights?_map_isSome_iff {es : Entries} :
    (weights? (.map es)).isSome ↔ ∀ name v, (name, v) ∈ es → (weight? (name, v)).isSome := by
  rw [weights?]
  induction es with
  | nil => simp
  | cons e es ih =>
    obtain ⟨name, v⟩ := e
    have head : (∀ n u, (n, u) ∈ (name, v) :: es → (weight? (n, u)).isSome) ↔
        (weight? (name, v)).isSome ∧ ∀ n u, (n, u) ∈ es → (weight? (n, u)).isSome := by
      simp [or_imp, forall_and]
    rw [head, ← ih, List.mapM_cons]
    cases weight? (name, v) with
    | none => simp
    | some w => cases es.mapM weight? <;> simp

theorem weights?_layers : Layers weights? := by
  refine ⟨fun es h k v hv => ?_, fun lower upper hl hu => ?_⟩
  · obtain ⟨name, hm⟩ := Entries.mem_of_get? hv
    obtain ⟨-, w, hw, -⟩ := weight?_isSome_iff.mp (weights?_map_isSome_iff.mp h name v hm)
    cases v with
    | map es => cases hw
    | _ => rfl
  · rw [weights?_map_isSome_iff] at hl hu ⊢
    intro name v hm
    rw [layeredWeights, List.mem_append] at hm
    rcases hm with inPlace | new
    · obtain ⟨e, he, h⟩ := List.mem_map.mp inPlace
      obtain ⟨rfl, rfl⟩ := Prod.mk.inj h
      obtain ⟨text, own⟩ := weight?_isSome_iff.mp (hl e.1 e.2 he)
      refine weight?_isSome_iff.mpr ⟨text, ?_⟩
      cases hv : e.1.key?.bind upper.get? with
      | none => exact own
      | some w =>
        obtain ⟨k, -, hw⟩ := Option.bind_eq_some_iff.mp hv
        obtain ⟨name, hm⟩ := Entries.mem_of_get? hw
        exact (weight?_isSome_iff.mp (hu name w hm)).2
    · exact hu name v (List.mem_filter.mp new).1

theorem Layers.overlay_eq_chosen {α : Type} {read? : Value → Option α} (layers : Layers read?)
    {default : Value} {lower upper : Option Value}
    (lowerNames : ∀ es : Entries, lower = some (.map es) → es.Distinct)
    (upperNames : ∀ es : Entries, upper = some (.map es) → es.Distinct)
    (lowerRead : (read? (lower.getD default)).isSome)
    (upperRead : (read? (upper.getD default)).isSome) :
    Entries.overlay upper lower = chosen upper lower ∧
      (read? ((chosen upper lower).getD default)).isSome := by
  cases upper with
  | none => exact ⟨rfl, lowerRead⟩
  | some v =>
    by_cases maps : ∃ u l : Entries, v = .map u ∧ lower = some (.map l)
    · obtain ⟨u, l, rfl, rfl⟩ := maps
      have merged : l.merge u = layeredWeights l u :=
        merge_eq_layeredWeights (lowerNames l rfl) (upperNames u rfl) (layers.flat u upperRead)
      rw [Entries.overlay, Entries.over_maps, merged]
      exact ⟨rfl, layers.layered l u lowerRead upperRead⟩
    · have kept : v.over lower = v := Entries.over_of_not_maps fun u l hu hl => maps ⟨u, l, hu, hl⟩
      have stands : chosen (some v) lower = some v := by
        cases v with
        | map u =>
          cases lower with
          | none => rfl
          | some w =>
            cases w with
            | map l => exact absurd ⟨u, l, rfl, rfl⟩ maps
            | _ => rfl
        | _ => rfl
      rw [Entries.overlay, kept, stands]
      exact ⟨rfl, upperRead⟩

theorem look_merge_eq_effective {α : Type} {read? : Value → Option α} (layers : Layers read?)
    {default : Value} (defaultRead : (read? default).isSome) {base override : Entries}
    (hb : base.WellNamed) (ho : override.WellNamed) {sectionName key : String} {x y : α}
    (baseRead : read? ((base.look sectionName key).getD default) = some x)
    (overrideRead : read? ((override.look sectionName key).getD default) = some y) :
    (base.merge override).look sectionName key = effective base override sectionName key ∧
      ∃ z, read? ((effective base override sectionName key).getD default) = some z := by
  rw [look_merge ho, effective, ← Option.isSome_iff_exists]
  have baseRead := Option.isSome_of_eq_some baseRead
  have overrideRead := Option.isSome_of_eq_some overrideRead
  cases hup : override.named? sectionName with
  | none => exact ⟨rfl, baseRead⟩
  | some v =>
    cases v with
    | map upper =>
      have own : override.look sectionName key = Entries.named? upper key := by
        rw [Entries.look, part_of_map hup]
      exact layers.overlay_eq_chosen (fun es h => (wellNamed_of_look hb h).distinct)
        (fun es h => (wellNamed_of_look ho (own.trans h)).distinct) baseRead (own ▸ overrideRead)
    | _ => exact ⟨rfl, defaultRead⟩

/-- Every key that both layers give a normal form has one in the merged layers, and it is that of the
value which counts. -/
theorem holds_merge {base override : Entries} (hb : base.WellNamed) (ho : override.WellNamed)
    {cb co : Config} (b : cb.Holds base.look) (o : co.Holds override.look) :
    ∃ c : Config, c.Holds (effective base override) ∧ c.Holds (base.merge override).look := by
  obtain ⟨levelAt, level, hlevel⟩ :=
    look_merge_eq_effective (.of_scalars fun _ => rfl) rfl hb ho b.level o.level
  obtain ⟨toFileAt, toFile, htoFile⟩ :=
    look_merge_eq_effective (.of_scalars fun _ => rfl) rfl hb ho b.toFile o.toFile
  obtain ⟨dirAt, dir, hdir⟩ :=
    look_merge_eq_effective (.of_scalars fun _ => rfl) rfl hb ho b.dir o.dir
  obtain ⟨actionAt, action, haction⟩ :=
    look_merge_eq_effective (.of_scalars fun _ => rfl) rfl hb ho b.action o.action
  obtain ⟨indexAt, index, hindex⟩ :=
    look_merge_eq_effective (.of_scalars fun _ => rfl) rfl hb ho b.index o.index
  obtain ⟨limitAt, limit, hlimit⟩ :=
    look_merge_eq_effective (.of_scalars fun _ => rfl) rfl hb ho b.limit o.limit
  obtain ⟨offsetAt, offset, hoffset⟩ :=
    look_merge_eq_effective (.of_scalars fun _ => rfl) rfl hb ho b.offset o.offset
  obtain ⟨matchModeAt, matchMode, hmatchMode⟩ :=
    look_merge_eq_effective (.of_scalars fun _ => rfl) rfl hb ho b.matchMode o.matchMode
  obtain ⟨fieldWeightsAt, fieldWeights, hfieldWeights⟩ :=
    look_merge_eq_effective weights?_layers rfl hb ho b.fieldWeights o.fieldWeights
  refine ⟨⟨⟨level, toFile, dir, action⟩, ⟨index, limit, offset, matchMode, fieldWeights⟩⟩, ?_, ?_⟩
  · exact ⟨hlevel, htoFile, hdir, haction, hindex, hlimit, hoffset, hmatchMode, hfieldWeights⟩
  · exact ⟨levelAt ▸ hlevel, toFileAt ▸ htoFile, dirAt ▸ hdir, actionAt ▸ haction,
      indexAt ▸ hindex, limitAt ▸ hlimit, offsetAt ▸ hoffset, matchModeAt ▸ hmatchMode,
      fieldWeightsAt ▸ hfieldWeights⟩

/-- Layers that are acceptable one by one give, merged, the configuration that the values which
count describe. It is refused only if it mirrors the log to a file and the directory, which is looked
at first, or the action is blank. -/
theorem parse_merge_of_parsed (base override : Entries) (hb : base.WellNamed)
    (ho : override.WellNamed) (cb co : Config) (baseParsed : parse (.map base) = .ok cb)
    (overrideParsed : parse (.map override) = .ok co) :
    (∃ c : Config, c.Holds (effective base override) ∧
      parse (.map (base.merge override)) =
        if c.runtime.toFile ∧ Text.allBlank c.runtime.dir then .error (.config .emptyDir)
        else if c.runtime.toFile ∧ c.runtime.action = "" then .error (.config .emptyAction)
        else .ok c) ∧
    ConfigFault.message .emptyDir = "log.dir must not be empty when log.to_file=true" ∧
    ConfigFault.message .emptyAction = "log.action must not be empty when log.to_file=true" := by
  obtain ⟨baseLog, baseQuery, b⟩ := holds_of_parse baseParsed
  obtain ⟨overrideLog, overrideQuery, o⟩ := holds_of_parse overrideParsed
  obtain ⟨c, counted, merged⟩ := holds_merge hb ho b o
  refine ⟨⟨c, counted, ?_⟩, rfl, rfl⟩
  exact parse_of_holds (readable_merge ho.distinct baseLog overrideLog)
    (readable_merge ho.distinct baseQuery overrideQuery) merged

/-- The lower layer mirrors the log, and the upper one blanks the directory. -/
theorem parse_merge_of_parsed_blank_directory :
    let base : Entries := [(.text "log", .map [(.text "to_file", .bool true),
        (.text "dir", .text "logs")]),
      (.text "query", .map [(.text "field_weights", .map [(.text "title", .int 2)])])]
    let override : Entries := [(.text "log", .map [(.text "dir", .text " ")]),
      (.text "query", .map [(.text "field_weights", .map [(.text "body", .int 3)])])]
    base.WellNamed ∧ override.WellNamed ∧ (∃ c, parse (.map base) = .ok c) ∧
      (∃ c, parse (.map override) = .ok c) ∧
      parse (.map (base.merge override)) = .error (.config .emptyDir) := by
  intro base override
  have hb : base.WellNamed := by decide
  have ho : override.WellNamed := by decide
  have baseParsed : parse (.map base) = .ok ⟨⟨.info, true, "logs", "query"⟩,
      ⟨none, none, .int 0, none, [("title", .int 2)]⟩⟩ := rfl
  have overrideParsed : parse (.map override) = .ok ⟨⟨.info, false, " ", "query"⟩,
      ⟨none, none, .int 0, none, [("body", .int 3)]⟩⟩ := rfl
  obtain ⟨⟨c, counted, merged⟩, -⟩ :=
    parse_merge_of_parsed base override hb ho _ _ baseParsed overrideParsed
  have toFile : c.runtime.toFile = true := (Option.some.inj counted.toFile).symm
  have dir : c.runtime.dir = " " := (Option.some.inj counted.dir).symm
  refine ⟨hb, ho, ⟨_, baseParsed⟩, ⟨_, overrideParsed⟩, ?_⟩
  rw [merged, if_pos ⟨toFile, by rw [dir]; decide⟩]

end Config

end Fulltext
