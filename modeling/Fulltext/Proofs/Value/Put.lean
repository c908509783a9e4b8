import Fulltext.Proofs.Value.Entries
import Fulltext.Value.Convert

namespace Fulltext.Entries

theorem keys_append (es fs : Entries) : keys (es ++ fs) = es.keys ++ fs.keys := by
  simp [keys, names]

theorem put_of_new {es : Entries} {name : Value} (h : name.key? ∉ es.keys) (v : Value) :
    es.put name v = es ++ [(name, v)] := by
  induction es with
  | nil => rfl
  | cons e es ih =>
    obtain ⟨name', v'⟩ := e
    rw [keys_cons, List.mem_cons, not_or] at h
    rw [put, if_neg (Ne.symm h.1), ih h.2]
    rfl

theorem putAll_of_distinct {es ps : Entries} (h : Distinct (es ++ ps)) :
    es.putAll ps = es ++ ps := by
  induction ps generalizing es with
  | nil => exact (List.append_nil es).symm
  | cons p ps ih =>
    obtain ⟨name, v⟩ := p
    have once := h.2
    rw [keys_append, keys_cons] at once
    have new : name.key? ∉ es.keys := by
      intro known
      have apart := (List.nodup_append.mp once).2.2 _ known name.key? List.mem_cons_self
      exact apart rfl
    have rest : putAll (es ++ [(name, v)]) ps = es ++ [(name, v)] ++ ps := ih (by simpa using h)
    rw [List.append_assoc, List.singleton_append] at rest
    rw [← rest, ← put_of_new new v]
    rfl

theorem Distinct.found {es : Entries} (h : es.Distinct) : ∀ p ∈ es, p.1.key?.isSome := by
  intro p hp
  rw [Option.isSome_iff_ne_none]
  intro none
  have listed : p.1.key? ∈ es.keys := List.mem_map_of_mem (List.mem_map_of_mem hp)
  exact h.1 (none ▸ listed)

theorem putPairs_eq_putAll {es ps : Entries} (found : ∀ p ∈ ps, p.1.key?.isSome) :
    Value.putPairs es (ps.map fun e => .list [e.1, e.2]) = .ok (es.putAll ps) := by
  induction ps generalizing es with
  | nil => rfl
  | cons p ps ih =>
    rw [List.forall_mem_cons] at found
    simp only [List.map_cons, Value.putPairs, Value.items, bind, Except.bind, found.1, if_true]
    exact ih found.2

theorem Distinct.perm {es fs : Entries} (h : es.Distinct) (p : es.Perm fs) : fs.Distinct := by
  have pk : es.keys.Perm fs.keys := (p.map fun e : Value × Value => e.1).map Value.key?
  exact ⟨fun e => h.1 (pk.mem_iff.mpr e), pk.nodup_iff.mp h.2⟩

theorem put_perm {es fs : Entries} (p : es.Perm fs) (h : es.Distinct) (name v : Value) :
    (es.put name v).Perm (fs.put name v) := by
  induction p with
  | nil => exact .refl _
  | cons e p ih =>
    obtain ⟨name', v'⟩ := e
    by_cases known : name'.key? = name.key?
    · simp only [put, if_pos known]
      exact p.cons _
    · simp only [put, if_neg known]
      exact (ih h.of_cons.2).cons _
  | swap e f es =>
    obtain ⟨name₁, v₁⟩ := e
    obtain ⟨name₂, v₂⟩ := f
    have apart : name₁.key? ≠ name₂.key? := by
      intro same
      have once := h.2
      rw [keys_cons, keys_cons, same] at once
      exact (List.nodup_cons.mp once).1 List.mem_cons_self
    by_cases h₁ : name₁.key? = name.key?
    · have h₂ : name₂.key? ≠ name.key? := fun h₂ => apart (h₁.trans h₂.symm)
      simp only [put, if_pos h₁, if_neg h₂]
      exact .swap ..
    · by_cases h₂ : name₂.key? = name.key?
      · simp only [put, if_neg h₁, if_pos h₂]
        exact .swap ..
      · simp only [put, if_neg h₁, if_neg h₂]
        exact .swap ..
  | trans p q ihp ihq => exact (ihp h).trans (ihq (h.perm p))

theorem put_put_perm (es : Entries) {name₁ name₂ : Value} (apart : name₁.key? ≠ name₂.key?)
    (v₁ v₂ : Value) : ((es.put name₁ v₁).put name₂ v₂).Perm ((es.put name₂ v₂).put name₁ v₁) := by
  induction es with
  | nil =>
    simp only [put, if_neg apart, if_neg apart.symm]
    exact .swap ..
  | cons e es ih =>
    obtain ⟨name, v⟩ := e
    by_cases h₁ : name.key? = name₁.key?
    · have h₂ : name.key? ≠ name₂.key? := fun h₂ => apart (h₁.symm.trans h₂)
      simp only [put, if_pos h₁, if_neg h₂]
      exact .refl _
    · by_cases h₂ : name.key? = name₂.key?
      · simp only [put, if_neg h₁, if_pos h₂]
        exact .refl _
      · simp only [put, if_neg h₁, if_neg h₂]
        exact ih.cons _

theorem putAll_append (es ps qs : Entries) : es.putAll (ps ++ qs) = (es.putAll ps).putAll qs := by
  rw [putAll, List.foldl_append]
  rfl

theorem names_prefix_putAll (es ps : Entries) : es.names <+: (es.putAll ps).names := by
  induction ps generalizing es with
  | nil => exact List.prefix_rfl
  | cons p ps ih =>
    have first : es.names <+: (es.put p.1 p.2).names := by
      rw [names_put]
      split
      · exact List.prefix_rfl
      · exact List.prefix_append ..
    exact first.trans (ih _)

theorem Distinct.putAll {es ps : Entries} (h : es.Distinct)
    (found : ∀ p ∈ ps, p.1.key?.isSome) : (es.putAll ps).Distinct := by
  induction ps generalizing es with
  | nil => exact h
  | cons p ps ih =>
    rw [List.forall_mem_cons] at found
    obtain ⟨k, hk⟩ := Option.isSome_iff_exists.mp found.1
    exact ih (h.put hk p.2) found.2

theorem putAll_perm {es fs ps : Entries} (p : es.Perm fs) (h : es.Distinct)
    (found : ∀ p ∈ ps, p.1.key?.isSome) : (es.putAll ps).Perm (fs.putAll ps) := by
  induction ps generalizing es fs with
  | nil => exact p
  | cons q ps ih =>
    rw [List.forall_mem_cons] at found
    obtain ⟨k, hk⟩ := Option.isSome_iff_exists.mp found.1
    exact ih (put_perm p h q.1 q.2) (h.put hk q.2) found.2

end Fulltext.Entries
