import Fulltext.Proofs.Client.Frame
import Fulltext.Proofs.Search.Corresponding

namespace Fulltext.Search

/-- Order, limits and weights are set before the filter column. -/
def ranking (q : Query) : List Call :=
  (if q.sortField.isSet then [.setSortMode (sortModeOf q) q.sortField] else []) ++
  (if q.limit.isSet then [.setLimits q.offset q.limit] else []) ++
  (if q.fieldWeights.isEmpty then [] else [.setFieldWeights (.map q.fieldWeights)])

def filtering (q : Query) : List Call :=
  if q.filters.isEmpty then [] else
    [.addComputedColumn (.text (Filter.expression q.filters)) (.text filterColumn),
      .setFilter (.text filterColumn) (.list [.int 1])]

def matching (q : Query) : List Call :=
  if hasMatchMode q then [.setMatchMode q.matchMode] else []

theorem settings_eq (q : Query) : settings q = ranking q ++ filtering q ++ matching q := by
  rw [settings, matching, hasMatchMode]
  cases q.matchMode <;> rfl

/-- The call that keeps the matches with a one in the filter column. -/
def setsFilter (c : Call) : Bool := c.method == .setFilter

/-- A call that has no part in filtering. -/
def FilterFree (c : Call) : Prop := c.isColumn = false ∧ setsFilter c = false

theorem filterFree_of_mem_ranking (q : Query) : ∀ c ∈ ranking q, FilterFree c := by
  simp only [ranking, List.forall_mem_append]
  refine ⟨⟨?sort, ?limits⟩, ?weights⟩
  all_goals split <;> simp [FilterFree, Call.isColumn, setsFilter, Call.method]

theorem isColumn_of_mem_ranking (q : Query) : ∀ c ∈ ranking q, c.isColumn = false :=
  fun c hc => (filterFree_of_mem_ranking q c hc).1

theorem method_of_mem_ranking (q : Query) : ∀ c ∈ ranking q, c.method ≠ .addQuery := by
  simp only [ranking, List.forall_mem_append]
  refine ⟨⟨?sort, ?limits⟩, ?weights⟩
  all_goals split <;> simp [Call.method]

theorem filterFree_of_mem_matching (q : Query) : ∀ c ∈ matching q, FilterFree c := by
  rw [matching]
  split <;> simp [FilterFree, Call.isColumn, setsFilter, Call.method]

variable {σ : Type}

/-- Whether or not the search text can be put together, a submission makes its settings and then
calls that have no part in filtering. -/
theorem submit_made (b : Backend σ) (q : Query) (t : Trace σ) :
    ∃ rest, (∀ c ∈ rest, FilterFree c) ∧
      let calls := ranking q ++ (filtering q ++ rest)
      let r := (submit b q).runFrom t
      r.2.calls = t.calls ++ b.made calls t.world ∧
        r.2.world = b.worldAfter (b.made calls t.world) t.world := by
  cases ht : Query.text (escaped b q t.world) q.searchFields with
  | ok text =>
    refine ⟨matching q ++ [.escapeString q.search, .addQuery text q.index, .runQueries], ?_, ?_⟩
    · rw [List.forall_mem_append]
      exact ⟨filterFree_of_mem_matching q,
        by simp [FilterFree, Call.isColumn, setsFilter, Call.method]⟩
    · have split : schedule q text = ranking q ++ (filtering q ++
          (matching q ++ [.escapeString q.search, .addQuery text q.index, .runQueries])) := by
        simp only [schedule, opening, settings_eq, List.append_assoc, List.cons_append,
          List.nil_append]
      have sent := submit_follows ht
      rw [split] at sent
      exact ⟨sent.calls, sent.world (submit_accounts b q)⟩
  | error f =>
    refine ⟨matching q ++ [.escapeString q.search], ?_, ?_⟩
    · rw [List.forall_mem_append]
      exact ⟨filterFree_of_mem_matching q,
        by simp [FilterFree, Call.isColumn, setsFilter, Call.method]⟩
    · have split : opening q =
          ranking q ++ (filtering q ++ (matching q ++ [.escapeString q.search])) := by
        simp only [opening, settings_eq, List.append_assoc]
      have sent := submit_fails ht
      rw [split] at sent
      exact ⟨sent.calls, sent.world (submit_accounts b q)⟩

/-- A submission carries along what shows in no answer. -/
theorem submit_of_commutes {b : Backend σ} {h : σ → σ} (hb : ∀ c, b.Commutes h c) (q : Query)
    {t u : Trace σ} (hu : u.world = h t.world) :
    ((submit b q).runFrom u).1 = ((submit b q).runFrom t).1 ∧
      ((submit b q).runFrom u).2.world = h ((submit b q).runFrom t).2.world := by
  have itself : Corresponds (fun c c' => c = c' ∧ b.Commutes h c) q q := {
    settings := Backend.forall₂_of_commutes fun c _ => hb c
    escape := ⟨rfl, hb _⟩
    text := fun _ => rfl
    send := fun _ => ⟨rfl, hb _⟩
    run := ⟨rfl, hb _⟩ }
  obtain ⟨result, world, -⟩ := submit_inStep Backend.inStep_of_commutes itself hu
  exact ⟨result.symm, world⟩

end Fulltext.Search
