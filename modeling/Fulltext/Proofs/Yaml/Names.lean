import Fulltext.Config.Layers
import Fulltext.Proofs.Value.Entries

namespace Fulltext

namespace Yaml

/-- What is no container can be a name. -/
def Part.Plain : Part → Prop
  | scalar v => v.key?.isSome = true
  | container _ => True

theorem wellNamed_of_key {v : Value} (h : v.key?.isSome = true) : v.wellNamed = true := by
  refine Value.wellNamed_of_not_map ?_
  cases v with
  | map es => cases h
  | _ => rfl

/-- The values of a table hold mappings of distinct names only. -/
def TableNamed (table : Array Value) : Prop := ∀ v ∈ table, v.wellNamed = true

theorem Part.Plain.wellNamed {p : Part} (h : p.Plain) {table : Array Value}
    (named : TableNamed table) : (p.value table).wellNamed = true := by
  cases p with
  | scalar v => exact wellNamed_of_key h
  | container i =>
    rw [Part.value]
    cases hi : table[i]? with
    | none => rfl
    | some v => exact named v (Array.mem_of_getElem? hi)

/-- Names that come twice come from nowhere but the parts. -/
def Container.Named (c : Container) : Prop :=
  ∀ table, TableNamed table → (c.value table).wellNamed = true

theorem Container.named_of_not_map {c : Container} (h : ∀ es, c ≠ .map es) : c.Named := by
  intro table _
  cases c with
  | map es => exact absurd rfl (h es)
  | _ => exact Value.wellNamed_of_not_map rfl

theorem value_put (table : Array Value) (es : List (Value × Part)) (name : Value) (p : Part) :
    (Make.put es name p).map (fun e => (e.1, e.2.value table)) =
      Entries.put (es.map fun e => (e.1, e.2.value table)) name (p.value table) := by
  induction es with
  | nil => rfl
  | cons e es ih =>
    rw [Make.put, List.map_cons, Entries.put]
    split
    · rfl
    · rw [List.map_cons, ih]

theorem Container.Named.put {es : List (Value × Part)} (h : (Container.map es).Named)
    {name : Value} (hk : name.key?.isSome = true) {p : Part} (hp : p.Plain) :
    (Container.map (Make.put es name p)).Named := by
  intro table named
  obtain ⟨k, hk⟩ := Option.isSome_iff_exists.mp hk
  have before := h table named
  rw [Container.value, Value.wellNamed] at before ⊢
  rw [value_put]
  exact Entries.WellNamed.put before hk (hp.wellNamed named)

/-- Parts that are made already are names or containers, and no container repeats a name. -/
structure Build.Sound (b : Build) : Prop where
  plain : ∀ (n : Nat) (p : Part), b.made[n]? = some (some p) → p.Plain
  named : ∀ c ∈ b.containers, c.Named

/-- A step keeps what is made already sound and gives a result as described. -/
def Make.Keeps {α : Type} (m : Make α) (result : α → Prop) : Prop :=
  ∀ b a b', b.Sound → m.run b = .ok (a, b') → b'.Sound ∧ result a

namespace Make

theorem Keeps.pure {α : Type} {result : α → Prop} {a : α} (h : result a) :
    Keeps (pure a) result := by
  intro b a' b' hb run
  cases run
  exact ⟨hb, h⟩

theorem Keeps.bind {α β : Type} {m : Make α} {f : α → Make β} {first : α → Prop} {last : β → Prop}
    (hm : Keeps m first) (hf : ∀ a, first a → Keeps (f a) last) : Keeps (m >>= f) last := by
  intro b c b' hb run
  rw [StateT.run_bind] at run
  cases hrun : m.run b with
  | error e =>
    rw [hrun] at run
    cases run
  | ok r =>
    rw [hrun] at run
    obtain ⟨hb₁, ha⟩ := hm b r.1 r.2 hb hrun
    exact hf r.1 ha r.2 c b' hb₁ run

theorem Keeps.throw {α : Type} {result : α → Prop} (f : DocumentFault) :
    Keeps (throw f : Make α) result := by
  intro b a b' _ run
  cases run

theorem Keeps.get : Keeps get Build.Sound := by
  intro b a b' hb run
  cases run
  exact ⟨hb, hb⟩

theorem Keeps.modify {f : Build → Build} (h : ∀ b, b.Sound → (f b).Sound) :
    Keeps (modify f) fun _ => True := by
  intro b a b' hb run
  cases run
  exact ⟨h b hb, trivial⟩

theorem Keeps.lift {α : Type} {result : α → Prop} {x : Except DocumentFault α}
    (h : ∀ a, x = .ok a → result a) : Keeps (liftM x) result := by
  intro b a b' hb run
  cases x with
  | error e => cases run
  | ok a =>
    cases run
    exact ⟨hb, h a rfl⟩

theorem Keeps.mapM {α β : Type} {f : α → Make β} (h : ∀ a, Keeps (f a) fun _ => True)
    (as : List α) : Keeps (as.mapM f) fun _ => True := by
  induction as with
  | nil => exact .pure trivial
  | cons a as ih =>
    rw [List.mapM_cons]
    exact .bind (h a) fun _ _ => .bind ih fun _ _ => .pure trivial

theorem Keeps.imp {α : Type} {m : Make α} {first last : α → Prop} (h : Keeps m first)
    (imp : ∀ a, first a → last a) : Keeps m last := fun b a b' hb run =>
  (h b a b' hb run).imp_right (imp a)

theorem keeps_node (n : NodeId) : Keeps (node n) fun _ => True :=
  .bind .get fun _ _ => .pure trivial

theorem keeps_textOf (n : NodeId) (fuel : Nat) : Keeps (textOf n fuel) fun _ => True := by
  induction fuel generalizing n with
  | zero => exact .throw _
  | succ fuel ih =>
    refine .bind .get fun b _ => ?_
    dsimp only
    split
    · exact .pure trivial
    · exact .throw _
    · split
      · exact ih _
      · exact .throw _

theorem key_of_timeOf {s : String} {v : Value} (h : timeOf s = .ok v) : v.key?.isSome = true := by
  delta timeOf at h
  split at h
  · split at h
    · cases h
      rfl
    · cases h
  · cases h

theorem key_of_bytesOf {s : String} {v : Value} (h : bytesOf s = .ok v) : v.key?.isSome = true := by
  delta bytesOf at h
  split at h
  · split at h
    · cases h
      rfl
    · cases h
  · cases h

theorem key_of_scalarValue {serial : Nat} {tag : Tag} {s : String} {v : Value}
    (h : scalarValue serial tag s = .ok v) : v.key?.isSome = true := by
  have mapped : ∀ {α : Type} {f : α → Value} {x : Except DocumentFault α},
      (∀ a, (f a).key?.isSome = true) → x.map f = .ok v → v.key?.isSome = true := by
    intro α f x hf hx
    cases x with
    | error e => cases hx
    | ok a =>
      cases hx
      exact hf a
  cases tag with
  | null | str =>
    cases h
    rfl
  | bool | int | float => exact mapped (fun _ => rfl) h
  | timestamp => exact key_of_timeOf (s := s) h
  | binary => exact key_of_bytesOf (s := s) h
  | _ => cases h

theorem keeps_scalar (n : NodeId) (x : Node) :
    Keeps (scalar n x) fun v => v.key?.isSome = true := by
  rw [scalar]
  dsimp only
  split
  · exact .throw _
  · refine .bind .get fun b _ => .bind (keeps_textOf n _) fun s _ => ?_
    split
    · exact .throw _
    · exact .lift fun v hv => key_of_scalarValue hv

/-- A part that is there already is sound, and a new one is noted as what it is. -/
theorem keeps_part (n : NodeId) : Keeps (part n) Part.Plain := by
  have noted : ∀ {p : Part}, p.Plain → ∀ b : Build, b.Sound →
      Build.Sound { b with made := b.made.setIfInBounds n (some p) } := by
    intro p hp b hb
    refine ⟨fun i q hq => ?_, hb.named⟩
    rw [Array.getElem?_setIfInBounds] at hq
    split at hq
    · split at hq
      · cases hq
        exact hp
      · cases hq
    · exact hb.plain i q hq
  have announced : Keeps (modifyGet fun b =>
      (Part.container b.sources.size,
        { b with sources := b.sources.push n, containers := b.containers.push (.items []) }))
      Part.Plain := by
    intro b p b' hb run
    cases run
    refine ⟨⟨hb.plain, fun c hc => ?_⟩, trivial⟩
    rcases Array.mem_push.mp hc with old | rfl
    · exact hb.named c old
    · exact Container.named_of_not_map nofun
  refine .bind .get fun b hb => ?_
  split
  · next p hp => exact .pure (hb.plain n p hp)
  · refine .bind (keeps_node n) fun x _ => ?_
    dsimp only
    split
    · exact .bind announced fun p hp => .bind (.modify (noted hp)) fun _ _ => .pure hp
    · refine .bind (keeps_scalar n x) fun v hv => ?_
      have name : Keeps (pure (Part.scalar v)) Part.Plain := .pure hv
      exact .bind name fun p hp => .bind (.modify (noted hp)) fun _ _ => .pure hp

theorem keeps_entries {es : List (Value × Part)} (h : (Container.map es).Named)
    (ps : List (NodeId × NodeId)) : Keeps (entries es ps) fun es => (Container.map es).Named := by
  induction ps generalizing es with
  | nil => exact .pure h
  | cons p ps ih =>
    refine .bind (keeps_part p.1) fun q hq => ?_
    cases q with
    | container i => exact .throw _
    | scalar name => exact .bind (keeps_part p.2) fun r hr => ih (h.put hq hr)

theorem keeps_mergedEntries (n : NodeId) :
    Keeps (mergedEntries n) fun es => (Container.map es).Named := by
  have blank : (Container.map []).Named := fun _ _ => rfl
  have renoded : ∀ {b : Build}, b.Sound → ∀ ns, Keeps (set { b with nodes := ns }) fun _ => True := by
    intro b hb ns b₁ a b' _ run
    cases run
    exact ⟨⟨hb.plain, hb.named⟩, trivial⟩
  refine .bind .get fun b hb => ?_
  split
  · refine .bind (@Keeps.lift _ (fun _ => True) _ fun _ _ => trivial) fun r _ => ?_
    exact .bind (renoded hb r.2) fun _ _ => keeps_entries blank _
  · exact .throw _

theorem keeps_onlyPair (n : NodeId) : Keeps (onlyPair n) fun _ => True := by
  refine .bind (keeps_node n) fun x _ => ?_
  split
  · exact .bind (keeps_part _) fun _ _ => .bind (keeps_part _) fun _ _ => .pure trivial
  · exact .throw _

theorem keeps_container (n : NodeId) : Keeps (container n) Container.Named := by
  have listed : ∀ {c : Container}, (∀ es, c ≠ .map es) → Keeps (pure c) Container.Named :=
    fun h => .pure (Container.named_of_not_map h)
  refine .bind (keeps_node n) fun x _ => ?_
  split
  · exact .bind (.mapM (fun m => (keeps_part m).imp fun _ _ => trivial) _) fun _ _ => listed nofun
  · exact .bind (.mapM keeps_onlyPair _) fun _ _ => listed nofun
  · exact .bind (.mapM keeps_onlyPair _) fun _ _ => listed nofun
  · exact .bind (keeps_mergedEntries n) fun _ hes => .pure hes
  · exact .bind (keeps_mergedEntries n) fun _ _ => listed nofun
  · exact .throw _

theorem keeps_fill (i fuel : Nat) : Keeps (fill i fuel) fun _ => True := by
  induction fuel generalizing i with
  | zero => exact .pure trivial
  | succ fuel ih =>
    refine .bind .get fun b _ => ?_
    split
    · exact .pure trivial
    · next n _ =>
      refine .bind (keeps_container n) fun c hc => .bind (.modify fun b hb => ?_) fun _ _ => ih _
      refine ⟨hb.plain, fun d hd => ?_⟩
      rcases Array.mem_or_eq_of_mem_setIfInBounds hd with old | rfl
      · exact hb.named d old
      · exact hc

end Make

/-- A graph whose unfolding repeats no name in a mapping. -/
structure Graph.Sound (g : Graph) : Prop where
  plain : g.root.Plain
  named : ∀ c ∈ g.containers, c.Named

theorem Graph.Sound.table {g : Graph} (h : g.Sound) (depth : Nat) : TableNamed (g.table depth) := by
  induction depth with
  | zero =>
    intro v hv
    obtain ⟨c, -, rfl⟩ := Array.mem_map.mp hv
    cases c with
    | map es => rfl
    | _ => exact Value.wellNamed_of_not_map rfl
  | succ depth ih =>
    intro v hv
    obtain ⟨c, hc, rfl⟩ := Array.mem_map.mp hv
    exact h.named c hc _ ih

theorem Graph.Sound.unfold {g : Graph} (h : g.Sound) (depth : Nat) :
    (g.unfold depth).wellNamed = true :=
  h.plain.wellNamed (h.table depth)

theorem sound_graph {o : Outline} {first : Nat} {g : Graph} (h : o.graph first = .ok g) :
    g.Sound := by
  rw [Outline.graph, bind_eq_ok_iff] at h
  obtain ⟨⟨p, b⟩, run, made⟩ := h
  cases made
  have fresh : Build.Sound
      { nodes := o.nodes, made := o.nodes.map fun _ => none, firstSerial := first } := by
    refine ⟨fun n p hp => ?_, nofun⟩
    rw [Array.getElem?_map, Option.map_eq_some_iff] at hp
    obtain ⟨x, -, nothing⟩ := hp
    cases nothing
  have keeps : Make.Keeps (do
      let p ← Make.part o.root
      Make.fill 0 o.nodes.size
      return p) Part.Plain :=
    .bind (Make.keeps_part o.root) fun p hp => .bind (Make.keeps_fill 0 _) fun _ _ => .pure hp
  obtain ⟨sound, plain⟩ := keeps _ p b fresh run
  exact ⟨plain, sound.named⟩

theorem sound_read {first : Nat} {text : String} {g : Graph} (h : read first text = .ok g) :
    g.Sound := by
  rw [read] at h
  dsimp only at h
  rw [throw_unless_eq_ok_iff] at h
  obtain ⟨-, h⟩ := h
  rw [bind_eq_ok_iff] at h
  obtain ⟨o?, -, h⟩ := h
  cases o? with
  | none =>
    cases h
    exact ⟨rfl, nofun⟩
  | some o => exact sound_graph h

end Yaml

/-- Whatever depth a document is unfolded to, the names of every mapping in it are distinct. -/
theorem Config.wellNamed_of_yaml {first : Nat} {text : String} {g : Yaml.Graph}
    (h : Documents.yaml.read first text = .ok g) (depth : Nat) : (g.unfold depth).wellNamed = true := by
  have made : (Yaml.read first text).mapError Fault.document = .ok g := h
  cases read : Yaml.read first text with
  | error f =>
    rw [read] at made
    cases made
  | ok g' =>
    rw [read] at made
    cases made
    exact (Yaml.sound_read read).unfold depth

end Fulltext
