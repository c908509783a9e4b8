import Fulltext.Proofs.Filter.Meaning

namespace Fulltext.Filter

def Factor.written (f : Factor) : String :=
  (if f.negated then "NOT " else "") ++ "(" ++
    " AND ".intercalate (f.tests.map fun t => membership t.attr t.values) ++ ")"

namespace Group

/-- Groups that show the same. A single value shows nothing of whether every value is asked for. -/
def Alike (g h : Group) : Prop :=
  g.attr = h.attr ∧ g.values.map Value.shown = h.values.map Value.shown ∧ g.exclude = h.exclude ∧
    (g.everyValue = h.everyValue ∨ g.values.length = 1)

instance (g h : Group) : Decidable (g.Alike h) :=
  inferInstanceAs (Decidable (g.attr = h.attr ∧
    g.values.map Value.shown = h.values.map Value.shown ∧ g.exclude = h.exclude ∧
      (g.everyValue = h.everyValue ∨ g.values.length = 1)))

theorem expression_eq_written (g : Group) : g.expression = g.factor.written := by
  rw [expression, tests_eq]
  rfl

end Group

/-- What the expression shows of a group that is not the first. -/
def Group.shown (g : Group) : Bool × Factor := (g.alternative, g.factor)

def shownText (s : Bool × Factor) : String := (if s.1 then " OR " else " AND ") ++ s.2.written

theorem expression_cons (g : Group) (gs : List Group) :
    expression (g :: gs) = g.factor.written ++ String.join ((gs.map Group.shown).map shownText) := by
  rw [expression, Group.expression_eq_written, List.map_map]
  congr 2
  refine List.map_congr_left fun h _ => ?_
  rw [Group.expression_eq_written]
  rfl

/-- Groups that show the same one by one have one expression. -/
theorem expression_of_shown {gs hs : List Group} (h : gs.map Group.shown = hs.map Group.shown) :
    expression gs = expression hs := by
  cases gs with
  | nil =>
    cases hs with
    | nil => rfl
    | cons k hs => simp at h
  | cons g gs =>
    cases hs with
    | nil => simp at h
    | cons k hs =>
      have lists := List.cons.inj h
      have first : g.factor = k.factor := (Prod.mk.inj lists.1).2
      rw [expression_cons, expression_cons, first, lists.2]

end Fulltext.Filter
