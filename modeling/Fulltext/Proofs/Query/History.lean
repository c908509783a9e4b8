import Fulltext.Proofs.Value.Put
import Fulltext.Query.Builder
import Mathlib.Data.List.Basic

namespace Fulltext

namespace Setting

/-- Settings of different families leave each other's parts of the query alone. -/
inductive Family where
  | index | search | page | order | fieldWeight | filter | matchMode
  deriving DecidableEq, Repr

def family : Setting → Family
  | .index .. => .index
  | .search .. => .search
  | .limit .. => .page
  | .order .. => .order
  | .orderExpr .. => .order
  | .fieldWeight .. => .fieldWeight
  | .filter .. => .filter
  | .matchMode .. => .matchMode

/-- What is wrong with a setting, on whatever builder it is made. -/
def verdict : Setting → Except Fault Unit
  | .search _ fields => fields.items.map fun _ => ()
  | .limit size offset => Builder.checkPage size offset
  | .fieldWeight name _ => if name.key?.isSome then .ok () else .error (.operand .notHashable)
  | .filter attr values flags => (Filter.Group.of attr values flags).map fun _ => ()
  | _ => .ok ()

def index? : Setting → Option Value
  | .index name => some name
  | _ => none

/-- An unset text is the empty one. -/
def search? : Setting → Option (Value × Except Fault (List Value))
  | .search text fields => some (text.orElse (.text ""), fields.items)
  | _ => none

def page? : Setting → Option (Value × Value)
  | .limit size offset => some (size, offset)
  | _ => none

def order? : Setting → Option (Value × Value)
  | .order attr descending =>
    some (attr, .sortMode (if descending.isSet then .attrDesc else .attrAsc))
  | .orderExpr expr => some (expr, .sortMode .expr)
  | _ => none

def weight? : Setting → Option (Value × Value)
  | .fieldWeight name weight => some (name, weight)
  | _ => none

def group? : Setting → Option (Except Fault Filter.Group)
  | .filter attr values flags => some (Filter.Group.of attr values flags)
  | _ => none

def matchMode? : Setting → Option Value
  | .matchMode mode => some mode
  | _ => none

/-- The search fields, if this setting gives any, can be listed. -/
def Readable (s : Setting) : Prop :=
  ∀ text fields, s = .search text fields → ∃ fs, fields.items = .ok fs

theorem readable_of_accepted {s : Setting} (h : s.verdict = .ok ()) : s.Readable := by
  rintro text fields rfl
  simp only [verdict] at h
  cases hf : fields.items with
  | ok fs => exact ⟨fs, rfl⟩
  | error f => simp [hf, Except.map] at h

end Setting

namespace Builder

/-- The settings that are not refused, each tried on the builder that the ones before it leave. -/
def taken (b : Builder) : List Setting → List Setting
  | [] => []
  | s :: ss =>
    match b.set s with
    | (c, .ok ()) => s :: c.taken ss
    | (c, .error _) => c.taken ss

theorem set_verdict (b : Builder) (s : Setting) : (b.set s).2 = s.verdict := by
  cases s with
  | search text fields =>
    simp only [set, Setting.verdict]
    cases fields.items <;> rfl
  | limit limit offset =>
    simp only [set, Setting.verdict]
    cases checkPage limit offset <;> rfl
  | fieldWeight name weight =>
    simp only [set, Setting.verdict]
    split <;> rfl
  | filter attr values flags =>
    simp only [set, Setting.verdict]
    cases Filter.Group.of attr values flags <;> rfl
  | _ => rfl

theorem taken_eq_filter (b : Builder) (ss : List Setting) :
    b.taken ss = ss.filter fun s => s.verdict.isOk := by
  induction ss generalizing b with
  | nil => rfl
  | cons s ss ih =>
    have h := b.set_verdict s
    rw [taken, List.filter_cons]
    cases hs : b.set s with
    | mk c r =>
      rw [hs] at h
      cases r with
      | ok _ => simp [← h, Except.isOk, Except.toBool, ih]
      | error f => simp [← h, Except.isOk, Except.toBool, ih]

/-- The builder after a setting that is not refused. -/
def write (b : Builder) : Setting → Builder
  | .index name => { b with index := name }
  | .search text fields =>
    { b with
      search := text.orElse (.text "")
      searchFields := fields.items.toOption.getD b.searchFields }
  | .limit limit offset => { b with limit := limit, offset := offset }
  | .order attr descending =>
    { b with
      sortField := attr
      sortMode := .sortMode (if descending.isSet then .attrDesc else .attrAsc) }
  | .orderExpr expr => { b with sortField := expr, sortMode := .sortMode .expr }
  | .fieldWeight name weight => { b with fieldWeights := b.fieldWeights.put name weight }
  | .filter attr values flags =>
    { b with filters := b.filters ++ (Filter.Group.of attr values flags).toOption.toList }
  | .matchMode mode => { b with matchMode := mode }

theorem set_of_accepted {s : Setting} (h : s.verdict = .ok ()) (b : Builder) :
    (b.set s).1 = b.write s := by
  cases s with
  | search text fields =>
    simp only [Setting.verdict] at h
    cases hf : fields.items with
    | ok fs => simp only [set, write, hf, Except.toOption, Option.getD_some]
    | error f => simp [hf, Except.map] at h
  | limit limit offset =>
    simp only [Setting.verdict] at h
    simp only [set, write, h]
  | fieldWeight name weight =>
    simp only [Setting.verdict] at h
    split at h
    · next hashable => simp only [set, write, if_pos hashable]
    · cases h
  | filter attr values flags =>
    simp only [Setting.verdict] at h
    cases hg : Filter.Group.of attr values flags with
    | ok g => simp only [set, write, hg, Except.toOption, Option.toList_some]
    | error f => simp [hg, Except.map] at h
  | _ => rfl

theorem set_of_refused {s : Setting} (readable : s.Readable) {f : Fault} (h : s.verdict = .error f)
    (b : Builder) : (b.set s).1 = b := by
  cases s with
  | search text fields =>
    obtain ⟨fs, hfs⟩ := readable text fields rfl
    simp [Setting.verdict, hfs, Except.map] at h
  | limit limit offset =>
    simp only [Setting.verdict] at h
    simp only [set, h]
  | fieldWeight name weight =>
    simp only [Setting.verdict] at h
    split at h
    · cases h
    · next unhashable => simp only [set, if_neg unhashable]
  | filter attr values flags =>
    simp only [Setting.verdict] at h
    cases hg : Filter.Group.of attr values flags with
    | ok g => simp [hg, Except.map] at h
    | error f => simp only [set, hg]
  | _ => cases h

/-- A run of settings is the writing of those that are taken. -/
theorem setAll_eq_write {ss : List Setting} (h : ∀ s ∈ ss, s.Readable) (b : Builder) :
    b.setAll ss = (b.taken ss).foldl write b := by
  rw [taken_eq_filter]
  induction ss generalizing b with
  | nil => rfl
  | cons s ss ih =>
    rw [List.forall_mem_cons] at h
    have run : b.setAll (s :: ss) = (b.set s).1.setAll ss := rfl
    rw [run, ih h.2, List.filter_cons]
    cases hv : s.verdict with
    | ok _ =>
      rw [set_of_accepted hv]
      rfl
    | error f =>
      rw [set_of_refused h.1 hv]
      rfl

theorem taken_of_accepted {ss : List Setting} (h : ∀ s ∈ ss, s.verdict = .ok ()) (b : Builder) :
    b.taken ss = ss := by
  rw [taken_eq_filter, List.filter_eq_self]
  intro s hs
  rw [h s hs]
  rfl

theorem accepted_of_mem_taken {b : Builder} {ss : List Setting} {s : Setting}
    (h : s ∈ b.taken ss) : s.verdict = .ok () := by
  rw [taken_eq_filter, List.mem_filter] at h
  cases hv : s.verdict with
  | ok _ => rfl
  | error f => simp [hv, Except.isOk, Except.toBool] at h

/-- What each accepted setting does to a part of the builder, carried through a run. -/
theorem part_setAll {α β : Type} (part : Builder → α) (given? : Setting → Option β) (op : α → β → α)
    {ss : List Setting} (readable : ∀ s ∈ ss, s.Readable)
    (step : ∀ s, s.verdict = .ok () → ∀ b : Builder,
      part (b.write s) = (given? s).elim (part b) (op (part b)))
    (b : Builder) : part (b.setAll ss) = ((b.taken ss).filterMap given?).foldl op (part b) := by
  have run : ∀ ts : List Setting, (∀ s ∈ ts, s.verdict = .ok ()) → ∀ c : Builder,
      part (ts.foldl write c) = (ts.filterMap given?).foldl op (part c) := by
    intro ts
    induction ts with
    | nil =>
      intro _ c
      rfl
    | cons s ts ih =>
      intro accepted c
      rw [List.forall_mem_cons] at accepted
      rw [List.foldl_cons, ih accepted.2, step s accepted.1]
      cases hg : given? s <;> simp [hg]
  rw [setAll_eq_write readable]
  exact run _ (fun _ => accepted_of_mem_taken) b

theorem foldl_last {α : Type} (d : α) (xs : List α) :
    xs.foldl (fun _ x => x) d = xs.getLast?.getD d := by
  induction xs generalizing d with
  | nil => rfl
  | cons x xs ih =>
    rw [List.foldl_cons, ih, List.getLast?_cons]
    rfl

section Last

variable {α : Type} (part : Builder → α) (given? : Setting → Option α) {ss : List Setting}
  (readable : ∀ s ∈ ss, s.Readable)
  (step : ∀ s, s.verdict = .ok () → ∀ b : Builder, part (b.write s) = (given? s).getD (part b))
  (b : Builder)

include readable step

theorem last_taken :
    part (b.setAll ss) = ((b.taken ss).filterMap given?).getLast?.getD (part b) := by
  rw [← foldl_last]
  apply part_setAll part given? _ readable
  intro s accepted c
  rw [step s accepted]
  cases given? s <;> rfl

/-- Settings that are never refused all count. -/
theorem last_given (never : ∀ s ∈ ss, (given? s).isSome → s.verdict = .ok ()) :
    part (b.setAll ss) = (ss.filterMap given?).getLast?.getD (part b) := by
  have all : (b.taken ss).filterMap given? = ss.filterMap given? := by
    rw [taken_eq_filter, List.filterMap_filter]
    apply List.filterMap_congr
    intro s hs
    cases hg : given? s with
    | none => exact ite_self _
    | some a =>
      have accepted := never s hs (by simp [hg])
      simp [accepted, Except.isOk, Except.toBool]
  rw [← all]
  exact last_taken part given? readable step b

end Last

/-- The query with the builder's parts. -/
def snapshot (b : Builder) : Query where
  index := b.index
  search := b.search
  searchFields := b.searchFields
  limit := b.limit
  offset := b.offset
  sortField := b.sortField
  sortMode := b.sortMode
  fieldWeights := b.fieldWeights
  filters := b.filters
  matchMode := b.matchMode

theorem build_of_distinct {b : Builder} (h : b.fieldWeights.Distinct) : b.build = .ok b.snapshot := by
  have all : Entries.putAll [] b.fieldWeights = b.fieldWeights := Entries.putAll_of_distinct h
  have weights : Value.toEntries (.list (b.fieldWeights.map fun e => .list [e.1, e.2])) =
      .ok b.fieldWeights := (Entries.putPairs_eq_putAll h.found).trans (congrArg Except.ok all)
  rw [build, Query.make, weights]
  rfl

end Builder

/-- What a query holds after settings on a builder. Settings of the page, weights and filters count
if they were not refused; the others, with search fields that can be listed, never are. -/
structure Query.Records (q : Query) (b : Builder) (ss : List Setting) : Prop where
  index : q.index = (ss.filterMap Setting.index?).getLast?.getD b.index
  search : (q.search, .ok q.searchFields) =
    (ss.filterMap Setting.search?).getLast?.getD (b.search, .ok b.searchFields)
  page : (q.limit, q.offset) =
    ((b.taken ss).filterMap Setting.page?).getLast?.getD (b.limit, b.offset)
  order : (q.sortField, q.sortMode) =
    (ss.filterMap Setting.order?).getLast?.getD (b.sortField, b.sortMode)
  fieldWeights : q.fieldWeights =
    b.fieldWeights.putAll ((b.taken ss).filterMap Setting.weight?)
  filters : q.filters.map .ok =
    b.filters.map .ok ++ (b.taken ss).filterMap Setting.group?
  matchMode : q.matchMode = (ss.filterMap Setting.matchMode?).getLast?.getD b.matchMode

namespace Builder

theorem records_setAll {ss : List Setting} (readable : ∀ s ∈ ss, s.Readable) (b : Builder) :
    (b.setAll ss).snapshot.Records b ss := by
  refine ⟨?index, ?search, ?page, ?order, ?fieldWeights, ?filters, ?matchMode⟩
  case index =>
    apply last_given (·.index) _ readable
    · intro s _ c
      cases s <;> rfl
    · intro s _ given
      cases s <;> first | rfl | cases given
  case search =>
    apply last_given (fun c => (c.search, Except.ok c.searchFields)) _ readable
    · intro s accepted c
      cases s with
      | search text fields =>
        cases hf : fields.items with
        | ok fs => simp [write, Setting.search?, hf, Except.toOption]
        | error f => simp [Setting.verdict, hf, Except.map] at accepted
      | _ => rfl
    · intro s hs given
      cases s with
      | search text fields =>
        obtain ⟨fs, hfs⟩ := readable _ hs text fields rfl
        simp [Setting.verdict, hfs, Except.map]
      | _ => cases given
  case page =>
    apply last_taken (fun c => (c.limit, c.offset)) _ readable
    intro s _ c
    cases s <;> rfl
  case order =>
    apply last_given (fun c => (c.sortField, c.sortMode)) _ readable
    · intro s _ c
      cases s <;> rfl
    · intro s _ given
      cases s <;> first | rfl | cases given
  case fieldWeights =>
    apply part_setAll (·.fieldWeights) Setting.weight? (fun es p => es.put p.1 p.2) readable
    intro s _ c
    cases s <;> rfl
  case filters =>
    have step : ∀ s, s.verdict = .ok () → ∀ c : Builder, (c.write s).filters.map Except.ok =
        s.group?.elim (c.filters.map Except.ok) fun g => c.filters.map Except.ok ++ [g] := by
      intro s accepted c
      cases s with
      | filter attr values flags =>
        cases hg : Filter.Group.of attr values flags with
        | ok g => simp [write, Setting.group?, hg, Except.toOption]
        | error f => simp [Setting.verdict, hg, Except.map] at accepted
      | _ => rfl
    have groups := part_setAll (fun c => c.filters.map Except.ok) Setting.group?
      (fun gs g => gs ++ [g]) readable step b
    rw [List.foldl_append_eq_append, ← List.flatMap_def, List.flatMap_singleton'] at groups
    exact groups
  case matchMode =>
    apply last_given (·.matchMode) _ readable
    · intro s _ c
      cases s <;> rfl
    · intro s _ given
      cases s <;> first | rfl | cases given

theorem set_distinct {b : Builder} (h : b.fieldWeights.Distinct) (s : Setting) :
    (b.set s).1.fieldWeights.Distinct := by
  cases s with
  | search text fields =>
    simp only [set]
    cases fields.items <;> exact h
  | limit limit offset =>
    simp only [set]
    cases checkPage limit offset <;> exact h
  | fieldWeight name weight =>
    simp only [set]
    split
    · next hashable =>
      obtain ⟨k, hk⟩ := Option.isSome_iff_exists.mp hashable
      exact h.put hk weight
    · exact h
  | filter attr values flags =>
    simp only [set]
    cases Filter.Group.of attr values flags <;> exact h
  | _ => exact h

theorem setAll_distinct {b : Builder} (h : b.fieldWeights.Distinct) (ss : List Setting) :
    (b.setAll ss).fieldWeights.Distinct := by
  induction ss generalizing b with
  | nil => exact h
  | cons s ss ih => exact ih (set_distinct h s)

theorem setEach_eq_ok_iff {b c : Builder} {ss : List Setting} :
    b.setEach ss = .ok c ↔ (∀ s ∈ ss, s.verdict = .ok ()) ∧ b.setAll ss = c := by
  induction ss generalizing b with
  | nil => simp [setEach, setAll]
  | cons s ss ih =>
    have verdict := b.set_verdict s
    have run : b.setAll (s :: ss) = (b.set s).1.setAll ss := rfl
    rw [List.forall_mem_cons, run, ← verdict, setEach]
    cases hs : b.set s with
    | mk b' r =>
      cases r with
      | ok _ => simpa using ih
      | error f => simp

/-- A builder to start from: a new one, or one with defaults. -/
def Seed (b : Builder) : Prop := b = {} ∨ ∃ d : Defaults, ofDefaults d = .ok b

theorem Seed.distinct {b : Builder} (h : b.Seed) : b.fieldWeights.Distinct := by
  have fresh : Entries.Distinct ({} : Builder).fieldWeights := by
    simp [Entries.Distinct, Entries.keys, Entries.names]
  rcases h with rfl | ⟨d, hd⟩
  · exact fresh
  · rw [ofDefaults, setEach_eq_ok_iff] at hd
    rw [← hd.2]
    exact setAll_distinct fresh _

end Builder

namespace Setting

theorem family_of_given (s : Setting) :
    (s.index?.isSome → s.family = .index) ∧ (s.search?.isSome → s.family = .search) ∧
    (s.page?.isSome → s.family = .page) ∧ (s.order?.isSome → s.family = .order) ∧
    (s.weight?.isSome → s.family = .fieldWeight) ∧ (s.group?.isSome → s.family = .filter) ∧
    (s.matchMode?.isSome → s.family = .matchMode) := by
  cases s <;> simp [index?, search?, page?, order?, weight?, group?, matchMode?, family]

section SameOrder

variable {β : Type} {given? : Setting → Option β} {f : Family} {ss ts : List Setting}

theorem filterMap_of_family (only : ∀ s, (given? s).isSome → s.family = f) (ss : List Setting) :
    (ss.filter fun s => s.family = f).filterMap given? = ss.filterMap given? := by
  rw [List.filterMap_filter]
  apply List.filterMap_congr
  intro s _
  cases hg : given? s with
  | none => exact ite_self _
  | some a => rw [if_pos (decide_eq_true (only s (by simp [hg])))]

theorem filterMap_of_order (only : ∀ s, (given? s).isSome → s.family = f)
    (h : (ss.filter fun s => s.family = f) = ts.filter fun s => s.family = f) :
    ss.filterMap given? = ts.filterMap given? := by
  rw [← filterMap_of_family only, h, filterMap_of_family only]

theorem filterMap_taken_of_order (only : ∀ s, (given? s).isSome → s.family = f)
    (h : (ss.filter fun s => s.family = f) = ts.filter fun s => s.family = f) (b : Builder) :
    (b.taken ss).filterMap given? = (b.taken ts).filterMap given? := by
  apply filterMap_of_order only
  rw [b.taken_eq_filter, b.taken_eq_filter, List.filter_comm, h, List.filter_comm]

end SameOrder

end Setting

namespace Query.Records

variable {q r : Query} {b : Builder} {ss ts : List Setting}

open Setting in
/-- All but the weights is fixed by the settings of the other families. -/
theorem agree (hq : q.Records b ss) (hr : r.Records b ts)
    (h : ∀ f ≠ Family.fieldWeight,
      (ss.filter fun s => s.family = f) = ts.filter fun s => s.family = f) :
    r = { q with fieldWeights := r.fieldWeights } := by
  have index : r.index = q.index := by
    rw [hr.index, hq.index, filterMap_of_order (fun s => (family_of_given s).1) (h .index nofun)]
  have search : (r.search, (.ok r.searchFields : Except Fault _)) = (q.search, .ok q.searchFields) := by
    rw [hr.search, hq.search,
      filterMap_of_order (fun s => (family_of_given s).2.1) (h .search nofun)]
  have page : (r.limit, r.offset) = (q.limit, q.offset) := by
    rw [hr.page, hq.page,
      filterMap_taken_of_order (fun s => (family_of_given s).2.2.1) (h .page nofun)]
  have order : (r.sortField, r.sortMode) = (q.sortField, q.sortMode) := by
    rw [hr.order, hq.order,
      filterMap_of_order (fun s => (family_of_given s).2.2.2.1) (h .order nofun)]
  have filters : r.filters = q.filters := by
    apply (List.map_inj_right (f := @Except.ok Fault Filter.Group) fun _ _ => Except.ok.inj).mp
    rw [hr.filters, hq.filters,
      filterMap_taken_of_order (fun s => (family_of_given s).2.2.2.2.2.1) (h .filter nofun)]
  have matchMode : r.matchMode = q.matchMode := by
    rw [hr.matchMode, hq.matchMode,
      filterMap_of_order (fun s => (family_of_given s).2.2.2.2.2.2) (h .matchMode nofun)]
  cases q
  cases r
  simp_all

end Query.Records

namespace Builder

theorem taken_append (b : Builder) (ss ts : List Setting) :
    b.taken (ss ++ ts) = b.taken ss ++ b.taken ts := by
  simp only [taken_eq_filter, List.filter_append]

theorem hashable_of_taken {b : Builder} {ss : List Setting} :
    ∀ p ∈ (b.taken ss).filterMap Setting.weight?, p.1.key?.isSome := by
  intro p hp
  obtain ⟨s, hs, given⟩ := List.mem_filterMap.mp hp
  have accepted := accepted_of_mem_taken hs
  cases s with
  | fieldWeight name weight =>
    obtain rfl := Option.some.inj given
    simp only [Setting.verdict] at accepted
    split at accepted
    · next hashable => exact hashable
    · cases accepted
  | _ => cases given

theorem weights_taken_fieldWeight (b : Builder) (name weight : Value) :
    (b.taken [.fieldWeight name weight]).filterMap Setting.weight? =
      if name.key?.isSome then [(name, weight)] else [] := by
  rw [taken_eq_filter]
  by_cases hashable : name.key?.isSome <;>
    simp [Setting.verdict, Setting.weight?, hashable, Except.isOk, Except.toBool]

/-- Weights of different names change places; a name that cannot be looked up is refused. -/
theorem weights_exchange {b : Builder} (h : b.fieldWeights.Distinct) (before after : List Setting)
    {name₁ name₂ : Value} (apart : ∀ k, name₁.key? = some k → name₂.key? ≠ some k)
    (weight₁ weight₂ : Value) :
    let weights := fun ss => b.fieldWeights.putAll ((b.taken ss).filterMap Setting.weight?)
    (weights (before ++ .fieldWeight name₁ weight₁ :: .fieldWeight name₂ weight₂ :: after)).Perm
      (weights (before ++ .fieldWeight name₂ weight₂ :: .fieldWeight name₁ weight₁ :: after)) := by
  intro weights
  have split : ∀ (s t : Setting), weights (before ++ s :: t :: after) =
      (((b.fieldWeights.putAll ((b.taken before).filterMap Setting.weight?)).putAll
        ((b.taken [s]).filterMap Setting.weight?)).putAll
          ((b.taken [t]).filterMap Setting.weight?)).putAll
            ((b.taken after).filterMap Setting.weight?) := by
    intro s t
    simp only [← Entries.putAll_append, ← List.filterMap_append, ← taken_append]
    simp [weights]
  rw [split, split]
  refine Entries.putAll_perm ?_
    (((h.putAll hashable_of_taken).putAll hashable_of_taken).putAll hashable_of_taken)
    hashable_of_taken
  rw [weights_taken_fieldWeight, weights_taken_fieldWeight]
  by_cases h₁ : name₁.key?.isSome
  · by_cases h₂ : name₂.key?.isSome
    · obtain ⟨k, hk⟩ := Option.isSome_iff_exists.mp h₁
      have different : name₁.key? ≠ name₂.key? := fun same => apart k hk (same ▸ hk)
      rw [if_pos h₁, if_pos h₂]
      exact Entries.put_put_perm _ different weight₁ weight₂
    · rw [if_neg h₂]
      exact .refl _
  · rw [if_neg h₁]
    exact .refl _

theorem build_setAll {b : Builder} (seed : b.Seed) (ss : List Setting) :
    (b.setAll ss).build = .ok (b.setAll ss).snapshot :=
  build_of_distinct (setAll_distinct seed.distinct ss)

/-- Whatever is set on a builder, its query is what the settings that count add up to. Settings that
keep their order inside each family give the same query, and if weights of different names change
places, only the order of the weights can change. -/
theorem build_records_settings (b : Builder) (seed : b.Seed) (ss : List Setting)
    (readable : ∀ s ∈ ss, s.Readable) :
    (∃ q, (b.setAll ss).build = .ok q ∧ q.Records b ss ∧
      ∀ before after, ss = before ++ after →
        (b.setAll before).fieldWeights.names <+: q.fieldWeights.names) ∧
    (∀ ts : List Setting,
      (∀ f, (ts.filter fun s => s.family = f) = ss.filter fun s => s.family = f) →
        (b.setAll ts).build = (b.setAll ss).build) ∧
    ∀ before after name₁ weight₁ name₂ weight₂,
      ss = before ++ .fieldWeight name₁ weight₁ :: .fieldWeight name₂ weight₂ :: after →
      (∀ k, name₁.key? = some k → name₂.key? ≠ some k) →
      ∃ q r, (b.setAll ss).build = .ok q ∧
        (b.setAll (before ++ .fieldWeight name₂ weight₂ :: .fieldWeight name₁ weight₁ ::
          after)).build = .ok r ∧
        r = { q with fieldWeights := r.fieldWeights } ∧ q.fieldWeights.Perm r.fieldWeights := by
  have records : ∀ ts : List Setting, (∀ s ∈ ts, s ∈ ss) → (b.setAll ts).snapshot.Records b ts :=
    fun ts among => records_setAll (fun s hs => readable s (among s hs)) b
  refine ⟨⟨_, build_setAll seed ss, records ss fun _ => id, ?places⟩, ?interleaved, ?exchanged⟩
  case places =>
    rintro before after rfl
    have run : b.setAll (before ++ after) = (b.setAll before).setAll after := List.foldl_append
    have later := records_setAll (fun s hs => readable s (List.mem_append_right before hs))
      (b.setAll before)
    rw [run, later.fieldWeights]
    exact Entries.names_prefix_putAll ..
  case interleaved =>
    intro ts order
    have among : ∀ s ∈ ts, s ∈ ss := by
      intro s hs
      have inside : s ∈ ts.filter fun t => t.family = s.family :=
        List.mem_filter.mpr ⟨hs, decide_eq_true rfl⟩
      rw [order] at inside
      exact (List.mem_filter.mp inside).1
    have same := (records ss fun _ => id).agree (records ts among) fun f _ => (order f).symm
    have weights : (b.setAll ts).snapshot.fieldWeights = (b.setAll ss).snapshot.fieldWeights := by
      rw [(records ts among).fieldWeights, (records ss fun _ => id).fieldWeights,
        Setting.filterMap_taken_of_order (fun s => (Setting.family_of_given s).2.2.2.2.1) (order _)]
    rw [build_setAll seed, build_setAll seed, same, weights]
  case exchanged =>
    rintro before after name₁ weight₁ name₂ weight₂ rfl apart
    have among : ∀ s ∈ before ++ .fieldWeight name₂ weight₂ :: .fieldWeight name₁ weight₁ :: after,
        s ∈ before ++ .fieldWeight name₁ weight₁ :: .fieldWeight name₂ weight₂ :: after :=
      fun s => ((List.Perm.swap ..).append_left before).mem_iff.mp
    have here := records _ fun _ => id
    have there := records _ among
    refine ⟨_, _, build_setAll seed _, build_setAll seed _, here.agree there ?_, ?_⟩
    · intro f other
      simp [List.filter_append, Setting.family, other.symm]
    · rw [here.fieldWeights, there.fieldWeights]
      exact weights_exchange seed.distinct before after apart weight₁ weight₂

/-- A refused page leaves the one before it, and a known name its place. -/
theorem build_records_settings_refused_page :
    let d : Defaults := { index := .text "books", fieldWeights := [(.text "title", .int 2)] }
    let b : Builder := { index := .text "books", fieldWeights := [(.text "title", .int 2)] }
    let ss : List Setting := [.search (.text "war") (.list [.text "title"]),
      .limit (.int 10) (.int 5), .fieldWeight (.text "body") (.int 3), .limit (.int 20) (.int (-1)),
      .filter (.text "lang") (.list [.int 1]) .null, .fieldWeight (.text "title") (.int 7)]
    ofDefaults d = .ok b ∧ (∀ s ∈ ss, s.Readable) ∧
      ∃ q, (b.setAll ss).build = .ok q ∧ q.index = .text "books" ∧
        (q.search, .ok q.searchFields) = (Value.text "war", Value.items (.list [.text "title"])) ∧
        (q.limit, q.offset) = (.int 10, .int 5) ∧
        q.filters.map .ok = [Filter.Group.of (.text "lang") (.list [.int 1]) .null] ∧
        q.fieldWeights = [(.text "title", .int 7), (.text "body", .int 3)] := by
  intro d b ss
  have seeded : ofDefaults d = .ok b := rfl
  have readable : ∀ s ∈ ss, s.Readable := by
    rintro s hs text fields rfl
    simp only [ss, List.mem_cons, Setting.search.injEq, reduceCtorEq, List.not_mem_nil,
      or_false] at hs
    obtain ⟨rfl, rfl⟩ := hs
    exact ⟨_, rfl⟩
  obtain ⟨⟨q, built, records, -⟩, -⟩ := build_records_settings b (.inr ⟨d, seeded⟩) ss readable
  exact ⟨seeded, readable, q, built, records.index.trans rfl, records.search.trans rfl,
    records.page.trans rfl, records.filters.trans rfl, records.fieldWeights.trans rfl⟩

end Builder

end Fulltext
