import Fulltext.Proofs.Backend.InStep
import Fulltext.Proofs.Search.Submission

namespace Fulltext.Search

variable {σ τ : Type}

open Session

/-- What two queries send corresponds part by part; their fields give any search text one scope. -/
structure Corresponds (C : Call → Call → Prop) (q r : Query) : Prop where
  settings : List.Forall₂ C (settings q) (settings r)
  escape : C (.escapeString q.search) (.escapeString r.search)
  text : ∀ escaped, Query.text escaped q.searchFields = Query.text escaped r.searchFields
  send : ∀ text, C (.addQuery text q.index) (.addQuery text r.index)
  run : C .runQueries .runQueries

namespace Corresponds

variable {C : Call → Call → Prop} {q r : Query}

theorem opening (h : Corresponds C q r) : List.Forall₂ C (opening q) (opening r) :=
  List.rel_append h.settings (.cons h.escape .nil)

theorem schedule (h : Corresponds C q r) (text : Value) :
    List.Forall₂ C (schedule q text) (schedule r text) :=
  List.rel_append h.opening (.cons (h.send text) (.cons h.run .nil))

end Corresponds

section

variable {b : Backend σ} {d : Backend τ} {C : Call → Call → Prop} {R : σ → τ → Prop} {q r : Query}

/-- Both submissions follow calls that correspond, and both would come to one result. -/
theorem follows_of_corresponds (h : b.InStep d C R) (sent : Corresponds C q r) {t : Trace σ}
    {u : Trace τ} (worlds : R t.world u.world) :
    ∃ cs ds result, List.Forall₂ C cs ds ∧ Follows b (submit b q) t cs result ∧
      Follows d (submit d r) u ds result := by
  have escapedEq : escaped b q t.world = escaped d r u.world :=
    h.valueAfter sent.settings sent.escape worlds
  cases text : Query.text (escaped b q t.world) q.searchFields with
  | error f =>
    have text' : Query.text (escaped d r u.world) r.searchFields = .error f := by
      rw [← escapedEq, ← sent.text, text]
    exact ⟨_, _, _, sent.opening, submit_fails text, submit_fails text'⟩
  | ok sentText =>
    have text' : Query.text (escaped d r u.world) r.searchFields = .ok sentText := by
      rw [← escapedEq, ← sent.text, text]
    have before : List.Forall₂ C (opening q ++ [.addQuery sentText q.index])
        (opening r ++ [.addQuery sentText r.index]) :=
      List.rel_append sent.opening (.cons (sent.send sentText) .nil)
    have responseEq : response b q sentText t.world = response d r sentText u.world :=
      h.valueAfter before sent.run worlds
    have second := submit_follows text'
    rw [← responseEq] at second
    exact ⟨_, _, _, sent.schedule sentText, submit_follows text, second⟩

theorem submit_inStep (h : b.InStep d C R) (sent : Corresponds C q r) {t : Trace σ} {u : Trace τ}
    (worlds : R t.world u.world) :
    let first := (submit b q).runFrom t
    let second := (submit d r).runFrom u
    first.1 = second.1 ∧ R first.2.world second.2.world ∧
      ∃ cs ds, first.2.calls = t.calls ++ cs ∧ second.2.calls = u.calls ++ ds ∧
        List.Forall₂ C cs ds := by
  intro first second
  obtain ⟨cs, ds, result, calls, one, other⟩ := follows_of_corresponds h sent worlds
  obtain ⟨made, fault, -⟩ := h.run calls worlds
  refine ⟨?result, ?worlds, _, _, one.calls, other.calls, made⟩
  case result =>
    cases stopped : b.fault? cs t.world with
    | some f =>
      have stopped' : d.fault? ds u.world = some f := fault.symm.trans stopped
      exact (one.stops f stopped).trans (other.stops f stopped').symm
    | none =>
      have answered : d.fault? ds u.world = none := fault.symm.trans stopped
      exact (one.ends stopped).1.trans (other.ends answered).1.symm
  case worlds =>
    have here : first.2.world = _ := one.world (submit_accounts b q)
    have there : second.2.world = _ := other.world (submit_accounts d r)
    rw [here, there]
    exact (h.run made worlds).2.2

end

end Fulltext.Search
