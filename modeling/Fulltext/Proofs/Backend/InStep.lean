import Fulltext.Proofs.Backend.InTurn
import Mathlib.Data.List.Forall2

namespace Fulltext.Backend

variable {σ τ : Type}

/-- One step of two backends that are asked related calls. -/
structure InStep (b : Backend σ) (d : Backend τ) (C : Call → Call → Prop) (R : σ → τ → Prop) :
    Prop where
  answer : ∀ {c c' v w}, C c c' → R v w → (b.perform c v).answer = (d.perform c' w).answer
  world : ∀ {c c' v w}, C c c' → R v w → R (b.perform c v).world (d.perform c' w).world

namespace InStep

variable {b : Backend σ} {d : Backend τ} {C : Call → Call → Prop} {R : σ → τ → Prop}
  {cs ds : List Call} {v : σ} {w : τ}

theorem run (h : b.InStep d C R) (calls : List.Forall₂ C cs ds) (worlds : R v w) :
    List.Forall₂ C (b.made cs v) (d.made ds w) ∧ b.fault? cs v = d.fault? ds w ∧
      R (b.worldAfter cs v) (d.worldAfter ds w) := by
  induction calls generalizing v w with
  | nil => exact ⟨.nil, rfl, worlds⟩
  | @cons c c' cs ds first rest ih =>
    have answer := h.answer first worlds
    obtain ⟨made, fault, after⟩ := ih (h.world first worlds)
    cases ha : (b.perform c v).answer with
    | error f =>
      rw [ha] at answer
      simp only [Backend.made, fault?, ha, ← answer]
      exact ⟨.cons first .nil, trivial, after⟩
    | ok a =>
      rw [ha] at answer
      simp only [Backend.made, fault?, ha, ← answer]
      exact ⟨.cons first made, fault, after⟩

theorem valueAfter (h : b.InStep d C R) (calls : List.Forall₂ C cs ds) {c c' : Call}
    (last : C c c') (worlds : R v w) : b.valueAfter cs c v = d.valueAfter ds c' w := by
  have answer := h.answer last (h.run calls worlds).2.2
  rw [Backend.valueAfter, Backend.valueAfter, answerAfter, answerAfter, answer]

end InStep

/-- A change of the world that shows in no answer to the call, and that the call carries along. -/
def Commutes (b : Backend σ) (h : σ → σ) (c : Call) : Prop :=
  ∀ w, b.perform c (h w) = { b.perform c w with world := h (b.perform c w).world }

section Commutes

variable {b : Backend σ} {h : σ → σ} {cs : List Call}

/-- The same call, on a world and on the world that the change makes of it. -/
theorem inStep_of_commutes :
    b.InStep b (fun c c' => c = c' ∧ b.Commutes h c) (fun v w => w = h v) where
  answer := by
    rintro c _ v _ ⟨rfl, carried⟩ rfl
    rw [carried v]
  world := by
    rintro c _ v _ ⟨rfl, carried⟩ rfl
    rw [carried v]

theorem forall₂_of_commutes (hc : ∀ c ∈ cs, b.Commutes h c) :
    List.Forall₂ (fun c c' => c = c' ∧ b.Commutes h c) cs cs :=
  List.forall₂_same.mpr fun c hm => ⟨rfl, hc c hm⟩

theorem made_of_commutes (hc : ∀ c ∈ cs, b.Commutes h c) (w : σ) :
    b.made cs (h w) = b.made cs w := by
  have made := (inStep_of_commutes.run (forall₂_of_commutes hc) (v := w) rfl).1
  have same : List.Forall₂ Eq (b.made cs w) (b.made cs (h w)) := made.imp fun _ _ both => both.1
  rw [List.forall₂_eq_eq_eq] at same
  exact same.symm

theorem fault?_of_commutes (hc : ∀ c ∈ cs, b.Commutes h c) (w : σ) :
    b.fault? cs (h w) = b.fault? cs w :=
  (inStep_of_commutes.run (forall₂_of_commutes hc) rfl).2.1.symm

theorem worldAfter_of_commutes (hc : ∀ c ∈ cs, b.Commutes h c) (w : σ) :
    b.worldAfter cs (h w) = h (b.worldAfter cs w) :=
  (inStep_of_commutes.run (forall₂_of_commutes hc) rfl).2.2

end Commutes

end Fulltext.Backend
