import Fulltext.Config.Merge
import Fulltext.Proofs.Value.Entries

namespace Fulltext.Entries

/-- What is left of a value where an upper layer is laid over a lower one. -/
def overlay : Option Value → Option Value → Option Value
  | some v, lower => some (v.over lower)
  | none, lower => lower

theorem over_of_not_maps {v : Value} {lower : Option Value}
    (h : ∀ u l, v = .map u → lower ≠ some (.map l)) : v.over lower = v := by
  cases v with
  | map u =>
    cases lower with
    | none => rw [Value.over]; simp
    | some w =>
      cases w with
      | map l => exact absurd rfl (h u l rfl)
      | _ => rw [Value.over]; simp
  | _ => rw [Value.over]; simp

@[simp] theorem over_maps (u l : Entries) : (Value.map u).over (some (.map l)) = .map (l.merge u) := by
  rw [Value.over, merge]

theorem overlay_none (v : Option Value) : overlay v none = v := by
  cases v with
  | none => rfl
  | some v => rw [overlay, over_of_not_maps (by simp)]

theorem merge_cons {name : Value} {k : Key} (hk : name.key? = some k) (v : Value)
    (lower upper : Entries) :
    lower.merge ((name, v) :: upper) = (lower.put name (v.over (lower.get? k))).merge upper := by
  rw [merge, mergeOver, hk]
  rfl

theorem get?_merge {upper : Entries} (hu : upper.Distinct) (lower : Entries) (k : Key) :
    (lower.merge upper).get? k = overlay (upper.get? k) (lower.get? k) := by
  induction upper generalizing lower with
  | nil => rfl
  | cons e upper ih =>
    obtain ⟨name, v⟩ := e
    obtain ⟨⟨j, hj, new⟩, rest⟩ := hu.of_cons
    rw [merge_cons hj, ih rest, get?_put _ hj, get?_cons, hj]
    by_cases hk : j = k
    · subst hk
      simp [new, overlay]
    · simp [hk]

/-- The names of the lower layer stand first and as they are, then those that only the upper layer
has. -/
theorem names_merge {upper : Entries} (hu : upper.Distinct) (lower : Entries) :
    (lower.merge upper).names =
      lower.names ++ upper.names.filter fun name => name.key? ∉ lower.keys := by
  induction upper generalizing lower with
  | nil => simp [merge, mergeOver, names]
  | cons e upper ih =>
    obtain ⟨name, v⟩ := e
    obtain ⟨⟨j, hj, new⟩, rest⟩ := hu.of_cons
    rw [merge_cons hj, ih rest, names_put, keys_put]
    by_cases hk : name.key? ∈ lower.keys
    · simp [hk, names]
    · have others : (names upper).filter (fun n => n.key? ∉ lower.keys ++ [name.key?]) =
          (names upper).filter fun n => n.key? ∉ lower.keys := by
        refine List.filter_congr fun n hn => ?_
        have other : n.key? ≠ name.key? := by
          rw [get?_eq_none_iff, ← hj] at new
          exact fun e => new (e ▸ List.mem_map_of_mem hn)
        simp [other]
      simp only [if_neg hk, others]
      simp [hk, names]

theorem Distinct.merge {lower upper : Entries} (hl : lower.Distinct) (hu : upper.Distinct) :
    (lower.merge upper).Distinct := by
  induction upper generalizing lower with
  | nil => exact hl
  | cons e upper ih =>
    obtain ⟨name, v⟩ := e
    obtain ⟨⟨j, hj, -⟩, rest⟩ := hu.of_cons
    rw [merge_cons hj]
    exact ih (hl.put hj _) rest

theorem mem_keys_merge {upper : Entries} (hu : upper.Distinct) (lower : Entries) (k : Option Key) :
    k ∈ (lower.merge upper).keys ↔ k ∈ lower.keys ∨ k ∈ upper.keys := by
  rw [keys, names_merge hu, List.map_append, List.mem_append]
  by_cases hk : k ∈ lower.keys
  · exact ⟨fun _ => .inl hk, fun _ => .inl hk⟩
  · refine or_congr Iff.rfl ?_
    simp only [List.mem_map, List.mem_filter, decide_eq_true_eq]
    constructor
    · rintro ⟨n, hn, e⟩
      exact List.mem_map.mpr ⟨n, hn.1, e⟩
    · intro h
      obtain ⟨n, hn, e⟩ := List.mem_map.mp h
      exact ⟨n, ⟨hn, e ▸ hk⟩, e⟩

end Fulltext.Entries
