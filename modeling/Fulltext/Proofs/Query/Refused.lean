import Fulltext.Proofs.Query.History

namespace Fulltext.Builder

theorem readable_of_other {s : Setting} (other : s.family ≠ .search) : s.Readable := by
  rintro text fields rfl
  exact absurd rfl other

theorem fields_of_refused {text fields : Value} {f : Fault}
    (refused : (Setting.search text fields).verdict = .error f) : fields.items = .error f := by
  simp only [Setting.verdict] at refused
  cases listed : fields.items with
  | ok fs => simp [listed, Except.map] at refused
  | error g => simpa [listed, Except.map] using refused

/-- The text is in place before the fields are looked at. -/
theorem set_of_refused_search {text fields : Value} {f : Fault}
    (refused : (Setting.search text fields).verdict = .error f) (b : Builder) :
    (b.set (.search text fields)).1 = { b with search := text.orElse (.text "") } := by
  simp only [set, fields_of_refused refused]

/-- No other part of a query depends on the search text. -/
theorem build_search (b : Builder) (text : Value) :
    build { b with search := text } = b.build.map fun q => { q with search := text } := by
  simp only [build, Query.make]
  cases (Value.list (b.fieldWeights.map fun e => .list [e.1, e.2])).toEntries with
  | error f => rfl
  | ok weights => rfl

/-- A refused setting changes nothing at all, a search excepted. A refused search puts its text in
place and leaves the rest, so the query is the same exactly if the text is. -/
theorem refused_setting_keeps_query_iff (b : Builder) (s : Setting) (f : Fault)
    (refused : (b.set s).2 = .error f) :
    (s.family ≠ .search → (b.set s).1 = b) ∧
    (∀ text fields, s = .search text fields → fields.items = .error f ∧
      (b.set s).1.build = b.build.map fun q => { q with search := text.orElse (.text "") }) ∧
    ∀ q, b.build = .ok q →
      ((b.set s).1.build = .ok q ↔
        ∀ text fields, s = .search text fields → text.orElse (.text "") = q.search) := by
  rw [set_verdict] at refused
  have others : s.family ≠ .search → (b.set s).1 = b :=
    fun other => set_of_refused (readable_of_other other) refused b
  have searches : ∀ text fields, s = .search text fields → fields.items = .error f ∧
      (b.set s).1.build = b.build.map fun q => { q with search := text.orElse (.text "") } := by
    rintro text fields rfl
    have left := set_of_refused_search refused b
    exact ⟨fields_of_refused refused, left ▸ build_search b (text.orElse (.text ""))⟩
  refine ⟨others, searches, fun q built => ⟨fun kept => ?changed, fun repeated => ?kept⟩⟩
  case changed =>
    intro text fields hs
    have now := (searches text fields hs).2
    rw [kept, built] at now
    exact congrArg Query.search (Except.ok.inj now).symm
  case kept =>
    by_cases other : s.family = .search
    · cases s with
      | search text fields =>
        have now := (searches text fields rfl).2
        rw [built, repeated text fields rfl] at now
        exact now
      | _ => cases other
    · rw [others other, built]

/-- A filter without values and a search that repeats the text are refused; the query stays. -/
theorem refused_setting_keeps_query_iff_repeated_text :
    let b : Builder := { search := .text "war", fieldWeights := [(.text "title", .int 2)] }
    let filter : Setting := .filter (.text "lang") (.list []) .null
    let search : Setting := .search (.text "war") (.int 5)
    ∃ q, b.build = .ok q ∧ q.search = .text "war" ∧
      (b.set filter).2 = .error (.filter (.noValues "lang")) ∧ (b.set filter).1 = b ∧
      (b.set search).2 = .error (.operand .notIterable) ∧ (b.set search).1.build = .ok q := by
  intro b filter search
  have built : b.build = .ok b.snapshot := rfl
  have noValues : (b.set filter).2 = .error (.filter (.noValues "lang")) := rfl
  have noFields : (b.set search).2 = .error (.operand .notIterable) := rfl
  have kept := (refused_setting_keeps_query_iff b filter _ noValues).1 nofun
  have same := (refused_setting_keeps_query_iff b search _ noFields).2.2 _ built
  refine ⟨b.snapshot, built, rfl, noValues, kept, noFields, same.mpr ?_⟩
  intro text fields hs
  obtain ⟨rfl, -⟩ := Setting.search.inj hs
  rfl

/-- The fields of this search are refused, and its text stands in the next query. -/
theorem refused_fields_change_query :
    let b : Builder := {}
    let s : Setting := .search (.text "war") (.int 5)
    (b.set s).2 = .error (.operand .notIterable) ∧
      ∃ q r, b.build = .ok q ∧ (b.set s).1.build = .ok r ∧ q.search = .text "" ∧
        r.search = .text "war" ∧ r.same q = false := by
  intro b s
  exact ⟨rfl, b.snapshot, { b.snapshot with search := .text "war" }, rfl, rfl, rfl, rfl, rfl⟩

end Fulltext.Builder
