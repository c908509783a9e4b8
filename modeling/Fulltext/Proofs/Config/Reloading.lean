import Fulltext.Proofs.Config.MergeLaws
import Fulltext.Proofs.Yaml.Names

namespace Fulltext

/-- Only two graphs that both contain themselves are laid over each other without end. -/
theorem Yaml.Graph.endlessOver_of_height {upper : Graph} (h : upper.height?.isSome = true)
    (lower : Graph) : upper.endlessOver lower = false := by
  obtain ⟨n, hn⟩ := Option.isSome_iff_exists.mp h
  rw [endlessOver, hn]
  split
  · next none _ _ => cases none
  · rfl

namespace Config

/-- What is relied on of a function that reads documents: no mapping in a value that it gives repeats
a name, and a text without a character holds nothing. -/
structure TreeReader (read : String → Except Fault Value) : Prop where
  named : ∀ {text v}, read text = .ok v → v.wellNamed = true
  empty : read "" = .ok .null

/-- The mapping that a reader finds in a text. -/
def mapping (read : String → Except Fault Value) (text : String) : Except Fault Entries := do
  rootEntries (← read text)

/-- The mapping that a reader finds in a file. -/
def fileMapping (read : String → Except Fault Value) (files : Files) (p : Path) :
    Except Fault Entries := do
  mapping read (← readText files p)

theorem rootEntries_of_not_isSet {v : Value} (h : v.isSet = false) : rootEntries v = .ok [] := by
  rw [rootEntries, Value.orElse_of_not_isSet h]

theorem wellNamed_of_rootEntries {v : Value} {es : Entries} (named : v.wellNamed = true)
    (h : rootEntries v = .ok es) : es.WellNamed := by
  rw [rootEntries, Value.orElse] at h
  split at h
  · next root hroot =>
    cases h
    split at hroot
    · rwa [hroot, Value.wellNamed] at named
    · cases hroot
      rfl
  · cases h

theorem bind_congr_of_ok {ε α β : Type} {x : Except ε α} {f g : α → Except ε β}
    (h : ∀ a, x = .ok a → f a = g a) : x >>= f = x >>= g := by
  cases x with
  | error e => rfl
  | ok a => exact h a rfl

/-- What is computed twice comes out the same. -/
theorem bind_twice {ε α β : Type} (x : Except ε α) (f : α → α → Except ε β) :
    (x >>= fun a => x >>= fun b => f a b) = x >>= fun a => f a a := by
  cases x <;> rfl

section

variable {read : String → Except Fault Value} {files : Files} {p base : Path}

theorem TreeReader.wellNamed (reader : TreeReader read) {text : String} {es : Entries}
    (h : mapping read text = .ok es) : es.WellNamed := by
  obtain ⟨v, hv, hes⟩ := bind_eq_ok_iff.mp h
  exact wellNamed_of_rootEntries (reader.named hv) hes

theorem TreeReader.wellNamed_file (reader : TreeReader read) {es : Entries}
    (h : fileMapping read files p = .ok es) : es.WellNamed := by
  obtain ⟨text, -, hes⟩ := bind_eq_ok_iff.mp h
  exact reader.wellNamed hes

/-- A file that is its own base is read once and laid over nothing. -/
theorem loadFrom_self : loadFrom (.trees read) files p p = (do
    let es ← fileMapping read files p
    parse (.map es)) := by
  simp only [loadFrom, Documents.layer, Documents.trees, fileMapping, mapping, bind_assoc, pure_bind,
    if_true]

theorem loadFrom_over (h : p ≠ base) : loadFrom (.trees read) files p base = (do
    let lower ← fileMapping read files base
    let upper ← fileMapping read files p
    parse (.map (lower.merge upper))) := by
  simp only [loadFrom, Documents.layer, Documents.trees, fileMapping, mapping, bind_assoc, pure_bind,
    if_neg h, Bool.false_eq_true, if_false]

theorem loadFrom_self_merged (reader : TreeReader read) {text : String}
    (h : readText files p = .ok text) : loadFrom (.trees read) files p p = (do
      let b ← mapping read text
      let o ← mapping read text
      parse (.map (b.merge o))) := by
  have alone : fileMapping read files p = mapping read text := by
    rw [fileMapping, h]
    rfl
  rw [loadFrom_self, alone, bind_twice]
  refine bind_congr_of_ok fun es hes => ?_
  rw [Entries.merge_self (reader.wellNamed hes)]

theorem loadFrom_twice (reader : TreeReader read) : loadFrom (.trees read) files p base = (do
    let lower ← fileMapping read files base
    let upper ← fileMapping read files p
    parse (.map ((lower.merge upper).merge upper))) := by
  by_cases own : p = base
  · subst own
    rw [loadFrom_self, bind_twice]
    refine bind_congr_of_ok fun es hes => ?_
    have named := reader.wellNamed_file hes
    rw [Entries.merge_self named, Entries.merge_self named]
  · rw [loadFrom_over own]
    refine bind_congr_of_ok fun lower hlower => bind_congr_of_ok fun upper hupper => ?_
    rw [Entries.merge_merge_self (reader.wellNamed_file hlower) (reader.wellNamed_file hupper)]

theorem loadFrom_of_nothing {text : String} {v : Value} (h : readText files p = .ok text)
    (hv : read text = .ok v) (unset : v.isSet = false) :
    loadFrom (.trees read) files p base = loadFrom (.trees read) files base base := by
  by_cases own : p = base
  · rw [own]
  have nothing : fileMapping read files p = .ok [] := by
    rw [fileMapping, h]
    change mapping read text = _
    rw [mapping, hv]
    exact rootEntries_of_not_isSet unset
  rw [loadFrom_over own, loadFrom_self]
  refine bind_congr fun lower => ?_
  rw [nothing]
  change parse (.map (lower.merge [])) = _
  rw [Entries.merge_nil]

end

/-- A mapping is left alone by an empty one and by itself, and a layer laid on twice counts once. So,
whatever reads the documents, a file is the same over itself as alone, counts once if it is laid over
its base twice, and leaves the base alone if it holds nothing, as an empty file does. -/
theorem laying_again_changes_nothing :
    (∀ b o : Entries, b.WellNamed → o.WellNamed →
      b.merge [] = b ∧ Entries.merge [] o = o ∧ b.merge b = b ∧
        (b.merge o).merge o = b.merge o) ∧
    ∀ read : String → Except Fault Value, TreeReader read → ∀ (files : Files) (p base : Path),
      (∀ text, readText files p = .ok text → loadFrom (.trees read) files p p = (do
        let b ← mapping read text
        let o ← mapping read text
        parse (.map (b.merge o)))) ∧
      loadFrom (.trees read) files p base = (do
        let lower ← fileMapping read files base
        let upper ← fileMapping read files p
        parse (.map ((lower.merge upper).merge upper))) ∧
      ∀ text, readText files p = .ok text →
        text = "" ∨ (∃ v, read text = .ok v ∧ v.isSet = false) →
        loadFrom (.trees read) files p base = loadFrom (.trees read) files base base := by
  refine ⟨fun b o hb ho => ⟨Entries.merge_nil b, Entries.nil_merge ho.distinct,
    Entries.merge_self hb, Entries.merge_merge_self hb ho⟩, fun read reader files p base =>
    ⟨fun text => loadFrom_self_merged reader, loadFrom_twice reader, fun text h => ?_⟩⟩
  rintro (rfl | ⟨v, hv, unset⟩)
  · exact loadFrom_of_nothing h reader.empty rfl
  · exact loadFrom_of_nothing h hv unset

theorem eq_ok_of_toOption {ε α : Type} {x : Except ε α} {a : α} (h : x.toOption = some a) :
    x = .ok a := by
  cases x with
  | error e => cases h
  | ok b => exact congrArg _ (Option.some.inj h)

/-- An empty file, and one of a level, over a base of a directory. -/
theorem laying_again_changes_nothing_of_level :
    let base : Path := ⟨0, ["base.yml"]⟩
    let empty : Path := ⟨0, ["empty.yml"]⟩
    let user : Path := ⟨0, ["user.yml"]⟩
    let lower : Entries := [(.text "log", .map [(.text "dir", .text "out")])]
    let upper : Entries := [(.text "log", .map [(.text "level", .text "DEBUG")])]
    let lowerText := "log: \x7bdir: out\x7d"
    let upperText := "log: \x7blevel: DEBUG\x7d"
    let read : String → Except Fault Value := fun text =>
      if text = "" then .ok .null
      else if text = lowerText then .ok (.map lower)
      else if text = upperText then .ok (.map upper)
      else .error (.document .malformed)
    let files : Files := fun p =>
      if p = base then some lowerText.toUTF8
      else if p = empty then some "".toUTF8 else some upperText.toUTF8
    let load := loadFrom (.trees read) files
    (lower.merge upper).merge upper = lower.merge upper ∧ TreeReader read ∧
      load user user = parse (.map (upper.merge upper)) ∧
      load user base = parse (.map ((lower.merge upper).merge upper)) ∧
      load user base =
        .ok ⟨⟨.debug, false, "out", "query"⟩, ⟨none, none, .int 0, none, []⟩⟩ ∧
      load empty base = load base base := by
  intro base empty user lower upper lowerText upperText read files load
  have reader : TreeReader read := by
    refine ⟨fun {text v} h => ?_, rfl⟩
    simp only [read] at h
    split_ifs at h <;> cases h <;> decide
  have readEmpty : readText files empty = .ok "" := eq_ok_of_toOption (by decide +kernel)
  have readUser : readText files user = .ok upperText := eq_ok_of_toOption (by decide +kernel)
  have readBase : readText files base = .ok lowerText := eq_ok_of_toOption (by decide +kernel)
  have level : mapping read upperText = .ok upper := rfl
  have dir : mapping read lowerText = .ok lower := rfl
  obtain ⟨laws, loads⟩ := laying_again_changes_nothing
  have runs := loads read reader files
  have self := (runs user base).1 upperText readUser
  have twice := (runs user base).2.1
  rw [level] at self
  rw [fileMapping, readBase, fileMapping, readUser] at twice
  simp only [bind, Except.bind, dir, level] at twice
  exact ⟨(laws lower upper (by decide) (by decide)).2.2.2, reader, self, twice, twice.trans rfl,
    (runs empty base).2.2 "" readEmpty (.inl rfl)⟩

/-- The value of a YAML document that does not contain itself. -/
def yamlTree (text : String) : Except Fault Value := do
  match (← Documents.yaml.read 1 text).value? with
  | some v => return v
  | none => throw (.document .tooDeep)

theorem treeReader_yamlTree : TreeReader yamlTree where
  named := by
    intro text v h
    obtain ⟨g, hg, h⟩ := bind_eq_ok_iff.mp h
    split at h
    · next w unfolded =>
      cases h
      obtain ⟨depth, -, rfl⟩ := Option.map_eq_some_iff.mp unfolded
      exact wellNamed_of_yaml hg depth
    · cases h
  empty := rfl

/-- The document in a text contains itself nowhere, and its value shows no serial number. -/
structure IsTree (text : String) : Prop where
  ends : ∀ {first g}, Documents.yaml.read first text = .ok g → g.height?.isSome = true
  alike : ∀ first, (Documents.yaml.read first text).map Documents.yaml.value = yamlTree text

theorem IsTree.layer {text : String} (h : IsTree text) (first : Nat) :
    (Documents.yaml.layer first text).map Prod.snd = mapping yamlTree text := by
  rw [Documents.layer, mapping, ← h.alike first]
  cases Documents.yaml.read first text with
  | error f => rfl
  | ok g =>
    simp only [bind, Except.bind, Except.map]
    cases rootEntries (Documents.yaml.value g) <;> rfl

/-- Where files hold trees, loading them needs nothing of YAML but their values. -/
theorem load_eq_of_trees {files : Files} {p base : Path} {lowerText upperText : String}
    (hl : readText files base = .ok lowerText) (hu : readText files p = .ok upperText)
    (lowerTree : IsTree lowerText) (upperTree : IsTree upperText) :
    load files p base = loadFrom (.trees yamlTree) files p base := by
  have lower := lowerTree.layer 1
  by_cases own : p = base
  · subst own
    rw [loadFrom_self, load, loadFrom, fileMapping, hl]
    simp only [bind, Except.bind, if_true, ← lower]
    cases Documents.yaml.layer 1 lowerText <;> rfl
  · rw [loadFrom_over own, load, loadFrom, fileMapping, fileMapping, hl, hu]
    simp only [bind, Except.bind, if_neg own, ← lower]
    cases Documents.yaml.layer 1 lowerText with
    | error f => rfl
    | ok below =>
      have upper := upperTree.layer (Documents.yaml.serials below.1)
      simp only [Except.map, ← upper]
      cases made : Documents.yaml.layer (Documents.yaml.serials below.1) upperText with
      | error f => rfl
      | ok above =>
        have ends : Documents.yaml.endlessOver above.1 below.1 = false := by
          obtain ⟨g, read, rest⟩ := bind_eq_ok_iff.mp made
          obtain ⟨es, -, pair⟩ := bind_eq_ok_iff.mp rest
          cases pair
          exact Yaml.Graph.endlessOver_of_height (upperTree.ends read) below.1
        simp only [ends]
        rfl

end Config

end Fulltext
