import Fulltext.Value.Basic

namespace Fulltext

namespace Entries

def names (es : Entries) : List Value := es.map (·.1)

/-- What the names are found by. -/
def keys (es : Entries) : List (Option Key) := es.names.map Value.key?

/-- Every name can be found, and no two of them by the same key. -/
def Distinct (es : Entries) : Prop := none ∉ es.keys ∧ es.keys.Nodup

theorem distinct_nil : Distinct [] := by simp [Distinct, keys, names]

@[simp] theorem keys_cons (name v : Value) (es : Entries) :
    keys ((name, v) :: es) = name.key? :: es.keys := rfl

theorem get?_cons (name v : Value) (es : Entries) (k : Key) :
    get? ((name, v) :: es) k = if name.key? = some k then some v else get? es k := by
  by_cases h : name.key? = some k
  · simp [get?, h]
  · simp [get?, h]

theorem get?_eq_none_iff {es : Entries} {k : Key} : es.get? k = none ↔ some k ∉ es.keys := by
  induction es with
  | nil => simp [get?, keys, names]
  | cons e es ih =>
    obtain ⟨name, v⟩ := e
    rw [get?_cons]
    by_cases h : name.key? = some k
    · simp [h]
    · simp [h, Ne.symm h, ih]

theorem get?_put (es : Entries) {name : Value} {k : Key} (hk : name.key? = some k) (v : Value)
    (j : Key) : (es.put name v).get? j = if k = j then some v else es.get? j := by
  induction es with
  | nil => simp [put, get?_cons, hk]
  | cons e es ih =>
    obtain ⟨name', v'⟩ := e
    by_cases h : name'.key? = name.key?
    · rw [put, if_pos h, get?_cons, get?_cons, h, hk]
      by_cases hj : k = j <;> simp [hj]
    · rw [put, if_neg h, get?_cons, get?_cons, ih]
      by_cases hj : name'.key? = some j
      · have other : k ≠ j := fun e => h (by rw [hj, hk, e])
        simp [hj, other]
      · simp [hj]

/-- A name that is new comes last; a known one keeps its place and its spelling. -/
theorem names_put (es : Entries) (name v : Value) :
    (es.put name v).names = if name.key? ∈ es.keys then es.names else es.names ++ [name] := by
  induction es with
  | nil => simp [put, names, keys]
  | cons e es ih =>
    obtain ⟨name', v'⟩ := e
    by_cases h : name'.key? = name.key?
    · simp [put, h, names]
    · have known : name.key? ∈ keys ((name', v') :: es) ↔ name.key? ∈ keys es := by
        simp [Ne.symm h]
      rw [put, if_neg h]
      by_cases hm : name.key? ∈ keys es
      · rw [if_pos hm] at ih
        rw [if_pos (known.mpr hm)]
        exact congrArg (name' :: ·) ih
      · rw [if_neg hm] at ih
        rw [if_neg (mt known.mp hm)]
        exact congrArg (name' :: ·) ih

theorem keys_put (es : Entries) (name v : Value) :
    (es.put name v).keys = if name.key? ∈ es.keys then es.keys else es.keys ++ [name.key?] := by
  rw [keys, names_put]
  split
  · rfl
  · rw [List.map_append, List.map_singleton]
    rfl

theorem Distinct.of_cons {name v : Value} {es : Entries} (h : Distinct ((name, v) :: es)) :
    (∃ k, name.key? = some k ∧ es.get? k = none) ∧ es.Distinct := by
  obtain ⟨found, once⟩ := h
  rw [keys_cons, List.mem_cons, not_or] at found
  rw [keys_cons, List.nodup_cons] at once
  obtain ⟨k, hk⟩ := Option.ne_none_iff_exists'.mp (Ne.symm found.1)
  exact ⟨⟨k, hk, get?_eq_none_iff.mpr (hk ▸ once.1)⟩, found.2, once.2⟩

theorem mem_of_get? {es : Entries} {k : Key} {v : Value} (h : es.get? k = some v) :
    ∃ name, (name, v) ∈ es := by
  obtain ⟨e, he, rfl⟩ := Option.map_eq_some_iff.mp h
  exact ⟨e.1, List.mem_of_find?_eq_some he⟩

/-- A name leads to what is entered with it. -/
theorem Distinct.mem_iff {es : Entries} (h : es.Distinct) (name v : Value) :
    (name, v) ∈ es ↔ name ∈ es.names ∧ name.key?.bind es.get? = some v := by
  induction es with
  | nil => simp [names]
  | cons e es ih =>
    obtain ⟨name', v'⟩ := e
    obtain ⟨⟨k, hk, new⟩, rest⟩ := h.of_cons
    have split : name ∈ names ((name', v') :: es) ↔ name = name' ∨ name ∈ names es :=
      List.mem_cons
    rw [List.mem_cons, Prod.mk.injEq, ih rest, split]
    by_cases same : name.key? = some k
    · have apart : name ∉ names es := by
        intro listed
        rw [get?_eq_none_iff, ← same] at new
        exact new (List.mem_map_of_mem listed)
      simp [same, apart, get?_cons, hk, eq_comm]
    · have other : name ≠ name' := fun e => same (e ▸ hk)
      cases hn : name.key? with
      | none => simp [other]
      | some j =>
        have differs : k ≠ j := fun e => same (e ▸ hn)
        simp [other, get?_cons, hk, differs]

theorem get?_append (es fs : Entries) (k : Key) :
    get? (es ++ fs) k = (es.get? k).or (fs.get? k) := by
  induction es with
  | nil => rfl
  | cons e es ih =>
    obtain ⟨name, v⟩ := e
    rw [List.cons_append, get?_cons, get?_cons, ih]
    by_cases h : name.key? = some k
    · simp [h]
    · simp [h]

theorem get?_filter (es : Entries) (ks : List (Option Key)) (k : Key) :
    get? (es.filter fun e => e.1.key? ∉ ks) k = if some k ∈ ks then none else es.get? k := by
  induction es with
  | nil => simp [get?]
  | cons e es ih =>
    obtain ⟨name, v⟩ := e
    rw [List.filter_cons, get?_cons]
    by_cases hn : name.key? ∈ ks
    · by_cases hk : name.key? = some k
      · simpa [hn, hk, hk ▸ hn] using ih
      · simpa [hn, hk] using ih
    · by_cases hk : name.key? = some k
      · simp [get?_cons, hk, hk ▸ hn]
      · simpa [hn, get?_cons, hk] using ih

/-- Mappings of the same names in the same order are equal if they hold the same under each. -/
theorem Distinct.ext {es fs : Entries} (h : es.Distinct) (names_eq : es.names = fs.names)
    (get?_eq : ∀ k, es.get? k = fs.get? k) : es = fs := by
  induction es generalizing fs with
  | nil => exact (List.map_eq_nil_iff.mp names_eq.symm).symm
  | cons e es ih =>
    obtain ⟨name, v⟩ := e
    cases fs with
    | nil => cases names_eq
    | cons e' fs =>
      obtain ⟨name', v'⟩ := e'
      obtain ⟨rfl, rest⟩ : name = name' ∧ names es = names fs := List.cons.inj names_eq
      obtain ⟨⟨k, hk, new⟩, distinct⟩ := h.of_cons
      have new' : get? fs k = none := by
        rw [get?_eq_none_iff] at new ⊢
        rwa [keys, ← rest]
      obtain rfl : v = v' := by simpa [get?_cons, hk] using get?_eq k
      refine congrArg ((name, v) :: ·) (ih distinct rest fun j => ?_)
      by_cases hj : k = j
      · rw [← hj, new, new']
      · simpa [get?_cons, hk, hj] using get?_eq j

theorem Distinct.put {es : Entries} (h : es.Distinct) {name : Value} {k : Key}
    (hk : name.key? = some k) (v : Value) : (es.put name v).Distinct := by
  rw [Distinct, keys_put]
  split
  · exact h
  · next new =>
    refine ⟨?_, ?_⟩
    · simp [h.1, hk]
    · rw [List.nodup_append]
      refine ⟨h.2, by simp, fun a ha b hb e => new ?_⟩
      rw [List.mem_singleton] at hb
      exact hb ▸ e ▸ ha

end Entries

namespace Value

def isMap : Value → Bool
  | map _ => true
  | _ => false

mutual

/-- Every mapping that a path leads to has distinct names. -/
def wellNamed : Value → Bool
  | map es => wellNamedEntries es
  | _ => true

def wellNamedEntries : List (Value × Value) → Bool
  | [] => true
  | (name, v) :: es =>
    name.key?.isSome && (Entries.keys es).all (· != name.key?) && v.wellNamed &&
      wellNamedEntries es

end

theorem wellNamed_of_not_map {v : Value} (h : v.isMap = false) : v.wellNamed = true := by
  cases v with
  | map es => cases h
  | _ => rfl

end Value

namespace Entries

def WellNamed (es : Entries) : Prop := Value.wellNamedEntries es = true

instance (es : Entries) : Decidable es.WellNamed := inferInstanceAs (Decidable (_ = true))

theorem WellNamed.of_cons {name v : Value} {es : Entries} (h : WellNamed ((name, v) :: es)) :
    name.key?.isSome = true ∧ name.key? ∉ es.keys ∧ v.wellNamed = true ∧ es.WellNamed := by
  rw [WellNamed, Value.wellNamedEntries] at h
  simp only [Bool.and_eq_true, List.all_eq_true, bne_iff_ne] at h
  obtain ⟨⟨⟨found, new⟩, inner⟩, rest⟩ := h
  exact ⟨found, fun hm => new _ hm rfl, inner, rest⟩

theorem WellNamed.distinct {es : Entries} (h : es.WellNamed) : es.Distinct := by
  induction es with
  | nil => simp [Distinct, keys, names]
  | cons e es ih =>
    obtain ⟨found, new, -, rest⟩ := h.of_cons
    obtain ⟨all, once⟩ := ih rest
    refine ⟨?_, ?_⟩
    · rw [keys_cons, List.mem_cons, not_or]
      exact ⟨fun e => by simp [← e] at found, all⟩
    · rw [keys_cons, List.nodup_cons]
      exact ⟨new, once⟩

theorem WellNamed.get? {es : Entries} (h : es.WellNamed) {k : Key} {v : Value}
    (hv : es.get? k = some v) : v.wellNamed = true := by
  induction es with
  | nil => cases hv
  | cons e es ih =>
    obtain ⟨-, -, inner, rest⟩ := h.of_cons
    rw [get?_cons] at hv
    split at hv
    · exact Option.some.inj hv ▸ inner
    · exact ih rest hv

theorem WellNamed.of_get? {es : Entries} (h : es.Distinct)
    (inner : ∀ k v, es.get? k = some v → v.wellNamed = true) : es.WellNamed := by
  induction es with
  | nil => rfl
  | cons e es ih =>
    obtain ⟨name, v⟩ := e
    obtain ⟨⟨k, hk, new⟩, rest⟩ := h.of_cons
    have here : v.wellNamed = true := inner k v (by rw [get?_cons, if_pos hk])
    have below : WellNamed es := by
      refine ih rest fun j w hw => inner j w ?_
      have other : k ≠ j := fun e => by rw [e, hw] at new; cases new
      rwa [get?_cons, hk, if_neg fun e => other (Option.some.inj e)]
    have apart : ∀ j ∈ keys es, j ≠ name.key? := by
      intro j hj same
      rw [get?_eq_none_iff, ← hk, ← same] at new
      exact new hj
    rw [WellNamed, Value.wellNamedEntries]
    simp only [Bool.and_eq_true, List.all_eq_true, bne_iff_ne]
    exact ⟨⟨⟨by rw [hk]; rfl, apart⟩, here⟩, below⟩

theorem WellNamed.put {es : Entries} (h : es.WellNamed) {name v : Value} {k : Key}
    (hk : name.key? = some k) (hv : v.wellNamed = true) : (es.put name v).WellNamed := by
  refine .of_get? (h.distinct.put hk v) fun j w hw => ?_
  rw [get?_put es hk] at hw
  split at hw
  · exact Option.some.inj hw ▸ hv
  · exact h.get? hw

end Entries

end Fulltext
