import Fulltext.Filter.Expression
import Fulltext.Proofs.Filter.Grammar
import Fulltext.Proofs.Filter.Group
import Mathlib.Data.List.SplitBy

namespace Fulltext.Filter

/-- A truth assignment says which values an attribute has. -/
abbrev Assignment := String → String → Bool

def Test.holds (r : Assignment) (t : Test) : Bool := t.values.any (r t.attr)

def Factor.holds (r : Assignment) (f : Factor) : Bool := f.negated ^^ f.tests.all (Test.holds r)

/-- `NOT` binds before `AND`, and `AND` before `OR`. -/
def Reading.holds (r : Assignment) (e : Reading) : Bool := e.any fun term => term.all (Factor.holds r)

theorem Series.intercalate {α : Type} {sep : String} {item : α → String → Prop} {f : α → String}
    {as : List α} (hne : as ≠ []) (h : ∀ a ∈ as, item a (f a)) :
    Series sep item as (sep.intercalate (as.map f)) := by
  induction as with
  | nil => exact absurd rfl hne
  | cons a as ih =>
    have first := h a List.mem_cons_self
    cases as with
    | nil => simpa using Series.one first
    | cons b bs =>
      have rest := ih (List.cons_ne_nil b bs) fun c hc => h c (List.mem_cons_of_mem a hc)
      rw [List.map_cons, List.map_cons, String.intercalate_cons_cons, ← List.map_cons]
      exact .more first rest

theorem testText {attr : String} {vs : List String} (ha : Plain attr) (hne : vs ≠ [])
    (hv : ∀ v ∈ vs, Plain v) : TestText ⟨attr, vs⟩ (membership attr vs) := by
  have values : Series ", " WordText vs (", ".intercalate (vs.map id)) :=
    Series.intercalate hne fun v h => .plain (hv v h)
  rw [List.map_id] at values
  exact .membership ha values

namespace Group

def Plain (g : Group) : Prop := Filter.Plain g.attr ∧ ∀ v ∈ g.values, Filter.Plain v.shown

instance (g : Group) : Decidable g.Plain :=
  inferInstanceAs (Decidable (Filter.Plain g.attr ∧ ∀ v ∈ g.values, Filter.Plain v.shown))

/-- The attribute has all values of the group or at least one, or else, if it excludes. -/
def holds (r : Assignment) (g : Group) : Bool :=
  g.exclude ^^
    if g.everyValue then g.values.all fun v => r g.attr v.shown
    else g.values.any fun v => r g.attr v.shown

/-- The tests of words for an attribute: one for each word, or one for all. -/
def testsOf (each : Bool) (attr : String) (words : List String) : List Test :=
  if each then words.map fun w => ⟨attr, [w]⟩ else [⟨attr, words⟩]

/-- What the expression of the group reads as. -/
def factor (g : Group) : Factor :=
  ⟨g.exclude, testsOf g.everyValue g.attr (g.values.map Value.shown)⟩

theorem factor_holds (r : Assignment) (g : Group) : g.factor.holds r = g.holds r := by
  rw [factor, holds, Factor.holds, testsOf]
  cases g.everyValue with
  | true => simp [Test.holds, Function.comp_def]
  | false => simp [Test.holds, Function.comp_def]

theorem tests_eq (g : Group) :
    g.tests = g.factor.tests.map fun t => membership t.attr t.values := by
  rw [tests, factor, testsOf]
  cases g.everyValue with
  | true => simp
  | false => simp

theorem plain_of_mem_tests {g : Group} (hp : g.Plain) (hv : g.values ≠ []) {t : Test}
    (ht : t ∈ g.factor.tests) :
    Filter.Plain t.attr ∧ t.values ≠ [] ∧ ∀ w ∈ t.values, Filter.Plain w := by
  have words : ∀ w ∈ g.values.map Value.shown, Filter.Plain w := by
    intro w hw
    obtain ⟨v, hmem, rfl⟩ := List.mem_map.mp hw
    exact hp.2 v hmem
  rw [factor, testsOf] at ht
  cases he : g.everyValue with
  | true =>
    simp only [he, if_true] at ht
    obtain ⟨w, hw, rfl⟩ := List.mem_map.mp ht
    refine ⟨hp.1, List.cons_ne_nil w [], fun w' hw' => ?_⟩
    obtain rfl := List.mem_singleton.mp hw'
    exact words _ hw
  | false =>
    simp only [he, Bool.false_eq_true, if_false, List.mem_singleton] at ht
    subst t
    exact ⟨hp.1, by simpa using hv, words⟩

theorem factor_tests_ne_nil {g : Group} (hv : g.values ≠ []) : g.factor.tests ≠ [] := by
  rw [factor, testsOf]
  cases g.everyValue with
  | true => simpa using hv
  | false => exact List.cons_ne_nil _ _

theorem factorText {g : Group} (hp : g.Plain) (hv : g.values ≠ []) :
    FactorText g.factor g.expression := by
  have tests : Series " AND " TestText g.factor.tests (" AND ".intercalate g.tests) := by
    rw [tests_eq]
    refine Series.intercalate (factor_tests_ne_nil hv) fun t ht => ?_
    obtain ⟨attr, values, words⟩ := plain_of_mem_tests hp hv ht
    exact testText attr values words
  rw [factor] at tests ⊢
  rw [Group.expression]
  cases g.exclude with
  | true => exact .negative tests
  | false =>
    simp only [String.empty_append, if_false, Bool.false_eq_true]
    exact .positive tests

end Group

/-- Runs of groups of which each but the first of all begins with an alternative. -/
def blocks (gs : List Group) : List (List Group) := gs.splitBy fun _ h => !h.alternative

def reading (gs : List Group) : Reading := (blocks gs).map (·.map Group.factor)

theorem blocks_alternative (g : Group) {h : Group} (ha : h.alternative = true) (gs : List Group) :
    blocks (g :: h :: gs) = [g] :: blocks (h :: gs) := by
  have split := List.splitBy_append_cons (r := fun _ h : Group => !h.alternative) (l := [g]) (a := h) gs (by simp [ha])
  exact split

/-- A group before one that is no alternative goes to the block of that one. -/
theorem blocks_further (g : Group) {h : Group} (ha : h.alternative = false) (gs : List Group) :
    ∃ b bs, blocks (h :: gs) = b :: bs ∧ blocks (g :: h :: gs) = (g :: b) :: bs := by
  obtain ⟨flat, full, chains, ends⟩ := List.splitBy_eq_iff.mp (rfl : blocks (h :: gs) = _)
  cases hb : blocks (h :: gs) with
  | nil =>
    rw [hb] at flat
    cases flat
  | cons b bs =>
    rw [hb] at flat full chains ends
    have begins : b.head? = some h := by
      cases b with
      | nil => exact absurd List.mem_cons_self full
      | cons c cs => simpa using congrArg List.head? flat.symm
    refine ⟨b, bs, rfl, List.splitBy_eq_iff.mpr ⟨?_, ?_, ?_, ?_⟩⟩
    · rw [flat]
      rfl
    · simpa using fun hn : [] ∈ bs => full (List.mem_cons_of_mem b hn)
    · intro m hm
      rcases List.mem_cons.mp hm with rfl | hm
      · refine List.isChain_cons.mpr ⟨?_, chains b List.mem_cons_self⟩
        simp [begins, ha]
      · exact chains m (List.mem_cons_of_mem b hm)
    · rw [List.isChain_cons] at ends ⊢
      refine ⟨fun c hc => ?_, ends.2⟩
      obtain ⟨-, hc', last⟩ := ends.1 c hc
      exact ⟨List.cons_ne_nil g b, hc', last⟩

theorem reading_alternative (g : Group) {h : Group} (ha : h.alternative = true) (gs : List Group) :
    reading (g :: h :: gs) = [g.factor] :: reading (h :: gs) := by
  rw [reading, blocks_alternative g ha]
  rfl

theorem reading_further (g : Group) {h : Group} (ha : h.alternative = false) (gs : List Group) :
    ∃ f term e, reading (h :: gs) = (f :: term) :: e ∧
      reading (g :: h :: gs) = (g.factor :: f :: term) :: e := by
  obtain ⟨b, bs, hb, hg⟩ := blocks_further g ha gs
  have full : b ≠ [] := List.ne_nil_of_mem_splitBy (hb ▸ List.mem_cons_self : b ∈ blocks (h :: gs))
  obtain ⟨k, ks, rfl⟩ := List.exists_cons_of_ne_nil full
  rw [reading, reading, hb, hg]
  exact ⟨_, _, _, rfl, rfl⟩

theorem expression_cons_cons (g h : Group) (gs : List Group) :
    expression (g :: h :: gs) = g.expression ++ h.join ++ expression (h :: gs) := by
  simp [expression, String.append_assoc]

theorem Reads.further {f : Factor} {s t : String} {term : List Factor} {e : Reading}
    (h : Reads (term :: e) t) (hf : FactorText f s) :
    Reads ((f :: term) :: e) (s ++ " AND " ++ t) := by
  cases h with
  | one hs => exact .one (.more hf hs)
  | more hs hes =>
    have terms : Reads ((f :: term) :: e) _ := .more (.more hf hs) hes
    simpa only [String.append_assoc] using terms

theorem reads_expression {gs : List Group} (hne : gs ≠ [])
    (hp : ∀ g ∈ gs, g.Plain ∧ g.values ≠ []) : Reads (reading gs) (expression gs) := by
  induction gs with
  | nil => exact absurd rfl hne
  | cons g gs ih =>
    have first := Group.factorText (hp g List.mem_cons_self).1 (hp g List.mem_cons_self).2
    cases gs with
    | nil =>
      have whole : expression [g] = g.expression := by simp [expression]
      rw [whole]
      exact .one (.one first)
    | cons h gs =>
      have rest := ih (List.cons_ne_nil h gs) fun k hk => hp k (List.mem_cons_of_mem g hk)
      rw [expression_cons_cons, Group.join]
      cases ha : h.alternative with
      | true =>
        rw [reading_alternative g ha]
        exact .more (.one first) rest
      | false =>
        obtain ⟨f, term, e, hh, hg⟩ := reading_further g ha gs
        rw [hh] at rest
        rw [hg]
        exact rest.further first

theorem reading_holds (r : Assignment) (gs : List Group) :
    (reading gs).holds r = true ↔ ∃ b ∈ blocks gs, ∀ g ∈ b, g.holds r = true := by
  rw [reading, Reading.holds, List.any_map, List.any_eq_true]
  constructor
  · rintro ⟨b, hb, h⟩
    refine ⟨b, hb, fun g hg => ?_⟩
    rw [← Group.factor_holds]
    exact List.all_eq_true.mp h _ (List.mem_map_of_mem hg)
  · rintro ⟨b, hb, h⟩
    refine ⟨b, hb, List.all_eq_true.mpr fun f hf => ?_⟩
    obtain ⟨g, hg, rfl⟩ := List.mem_map.mp hf
    rw [Group.factor_holds]
    exact h g hg

/-- The expression of groups has exactly one reading. It holds if all groups of some block do. -/
theorem expression_has_one_meaning (gs : List Group) (hne : gs ≠ [])
    (hgs : ∀ g ∈ gs, g.Made ∧ g.Plain) :
    ∃ e, Reads e (expression gs) ∧ (∀ e', Reads e' (expression gs) → e' = e) ∧
      ∀ r : Assignment, e.holds r = true ↔
        ∃ b ∈ gs.splitBy fun _ h => !h.alternative, ∀ g ∈ b, g.holds r = true := by
  have read : Reads (reading gs) (expression gs) :=
    reads_expression hne fun g hg => ⟨(hgs g hg).2, (hgs g hg).1.values_ne_nil⟩
  exact ⟨reading gs, read, fun e' h => h.unique read, fun r => reading_holds r gs⟩

/-- `NOT (IN(tag, a) AND IN(tag, b)) AND (IN(lang, 1, 2)) OR (IN(year, 9))` negates the conjunction
as a whole, and its last group stands alone. -/
theorem expression_has_one_meaning_mixed :
    let gs : List Group := [⟨"tag", [.text "a", .text "b"], 3⟩, ⟨"lang", [.int 1, .int 2], 0⟩,
      ⟨"year", [.int 9], 4⟩]
    gs ≠ [] ∧ (∀ g ∈ gs, g.Made ∧ g.Plain) ∧
      ∃ e, Reads e (expression gs) ∧ ∀ r : Assignment, e.holds r =
        (!(r "tag" "a" && r "tag" "b") && (r "lang" "1" || r "lang" "2") || r "year" "9") := by
  intro gs
  have made : ∀ g ∈ gs, g.Made ∧ g.Plain := by
    intro g hg
    simp only [gs, List.mem_cons, List.not_mem_nil, or_false] at hg
    rcases hg with rfl | rfl | rfl
    · exact ⟨⟨.text "tag", .list [.text "a", .text "b"], .int 3, .inl rfl⟩, by decide⟩
    · exact ⟨⟨.text "lang", .list [.int 1, .int 2], .int 0, .inl rfl⟩, by decide⟩
    · exact ⟨⟨.text "year", .list [.int 9], .int 4, .inl rfl⟩, by decide⟩
  obtain ⟨e, read, -, meaning⟩ := expression_has_one_meaning gs (List.cons_ne_nil _ _) made
  refine ⟨List.cons_ne_nil _ _, made, e, read, fun r => ?_⟩
  have cut : gs.splitBy (fun _ h => !h.alternative) = [[⟨"tag", [.text "a", .text "b"], 3⟩,
    ⟨"lang", [.int 1, .int 2], 0⟩], [⟨"year", [.int 9], 4⟩]] := rfl
  have tag : Group.holds r ⟨"tag", [.text "a", .text "b"], 3⟩ =
    (true ^^ (r "tag" "a" && (r "tag" "b" && true))) := rfl
  have lang : Group.holds r ⟨"lang", [.int 1, .int 2], 0⟩ =
    (false ^^ (r "lang" "1" || (r "lang" "2" || false))) := rfl
  have year : Group.holds r ⟨"year", [.int 9], 4⟩ = (false ^^ (r "year" "9" || false)) := rfl
  rw [Bool.eq_iff_iff, meaning, cut]
  simp [tag, lang, year]

end Fulltext.Filter
