namespace Fulltext.Filter

/-- A character that is none of the signs which end a name or a value. -/
def isPlain (c : Char) : Bool := c != '(' && c != ')' && c != ','

def Plain (s : String) : Prop := ∀ c ∈ s.toList, isPlain c = true

instance (s : String) : Decidable (Plain s) :=
  List.decidableBAll (fun c => isPlain c = true) s.toList

/-- The test of an attribute for membership in a list of values. -/
structure Test where
  attr : String
  values : List String
  deriving DecidableEq, Repr

/-- A conjunction of tests in brackets, negated as a whole or not. -/
structure Factor where
  negated : Bool
  tests : List Test
  deriving DecidableEq, Repr

/-- Terms with `OR` between them, each of factors with `AND` between them. -/
abbrev Reading := List (List Factor)

/-- One item or more, with `sep` between them. -/
inductive Series {α : Type} (sep : String) (item : α → String → Prop) : List α → String → Prop
  | one {a : α} {s : String} (h : item a s) : Series sep item [a] s
  | more {a : α} {as : List α} {s t : String} (h : item a s) (hs : Series sep item as t) :
      Series sep item (a :: as) (s ++ sep ++ t)

inductive WordText : String → String → Prop
  | plain {w : String} (h : Plain w) : WordText w w

inductive TestText : Test → String → Prop
  | membership {a s : String} {vs : List String} (ha : Plain a) (hv : Series ", " WordText vs s) :
      TestText ⟨a, vs⟩ ("IN(" ++ a ++ ", " ++ s ++ ")")

inductive FactorText : Factor → String → Prop
  | positive {ts : List Test} {s : String} (h : Series " AND " TestText ts s) :
      FactorText ⟨false, ts⟩ ("(" ++ s ++ ")")
  | negative {ts : List Test} {s : String} (h : Series " AND " TestText ts s) :
      FactorText ⟨true, ts⟩ ("NOT " ++ "(" ++ s ++ ")")

def Reads : Reading → String → Prop := Series " OR " (Series " AND " FactorText)

/-- A text of an item ends where it does, whatever comes after it of what `Follow` admits. -/
def Delimited {α : Type} (item : α → String → Prop) (Follow : String → Prop) : Prop :=
  ∀ {a b : α} {s t r u : String}, item a s → item b t → Follow r → Follow u →
    s ++ r = t ++ u → a = b ∧ r = u

theorem Delimited.series {α : Type} {sep : String} {item : α → String → Prop}
    {Follow End : String → Prop} (h : Delimited item Follow) (hsep : ∀ x, Follow (sep ++ x))
    (hend : ∀ r, End r → Follow r) (hstop : ∀ r, End r → ∀ x, r ≠ sep ++ x) :
    Delimited (Series sep item) End := by
  intro as bs s t r u hs ht hr hu heq
  induction hs generalizing bs t with
  | one ha =>
    cases ht with
    | one hb =>
      obtain ⟨rfl, rest⟩ := h ha hb (hend _ hr) (hend _ hu) heq
      exact ⟨rfl, rest⟩
    | more hb hbs =>
      -- the one series ends where the other has a separator
      rw [String.append_assoc, String.append_assoc] at heq
      obtain ⟨-, rest⟩ := h ha hb (hend _ hr) (hsep _) heq
      exact absurd rest (hstop _ hr _)
  | more ha has ih =>
    rw [String.append_assoc, String.append_assoc] at heq
    cases ht with
    | one hb =>
      obtain ⟨-, rest⟩ := h ha hb (hsep _) (hend _ hu) heq
      exact absurd rest.symm (hstop _ hu _)
    | more hb hbs =>
      rw [String.append_assoc, String.append_assoc] at heq
      obtain ⟨rfl, rest⟩ := h ha hb (hsep _) (hsep _) heq
      obtain ⟨rfl, tail⟩ := ih hbs ((String.append_right_inj sep).mp rest)
      exact ⟨rfl, tail⟩

/-- What comes after a name or a value: the sign that ends it comes first. -/
def Signed (r : String) : Prop := (∃ x, r = ", " ++ x) ∨ ∃ x, r = ")" ++ x

theorem Signed.takeWhile {r : String} (h : Signed r) : r.toList.takeWhile isPlain = [] := by
  rcases h with ⟨x, rfl⟩ | ⟨x, rfl⟩ <;> simp [isPlain]

/-- A word ends with the first character that no word holds. -/
theorem delimited_of_takeWhile {p : Char → Bool} {word : String → String → Prop}
    {Follow : String → Prop} (holds : ∀ {w s}, word w s → s = w ∧ ∀ c ∈ w.toList, p c = true)
    (ends : ∀ {r}, Follow r → r.toList.takeWhile p = []) : Delimited word Follow := by
  intro a b s t r u hs ht hr hu heq
  obtain ⟨rfl, ha⟩ := holds hs
  obtain ⟨rfl, hb⟩ := holds ht
  have lists := congrArg String.toList heq
  rw [String.toList_append, String.toList_append] at lists
  have words : s.toList = t.toList := by
    have taken := congrArg (List.takeWhile p) lists
    rw [List.takeWhile_append_of_pos ha, List.takeWhile_append_of_pos hb, ends hr, ends hu,
      List.append_nil, List.append_nil] at taken
    exact taken
  rw [words, List.append_cancel_left_eq] at lists
  exact ⟨String.toList_inj.mp words, String.toList_inj.mp lists⟩

theorem wordText_delimited : Delimited WordText Signed := by
  refine delimited_of_takeWhile (p := isPlain) (fun h => ?_) Signed.takeWhile
  obtain ⟨plain⟩ := h
  exact ⟨rfl, plain⟩

def Closed (r : String) : Prop := ∃ x, r = ")" ++ x

theorem comma_ne_close (x y : String) : ")" ++ x ≠ ", " ++ y := by
  intro h
  have lists := congrArg String.toList h
  simp at lists

theorem and_ne_close (x y : String) : ")" ++ x ≠ " AND " ++ y := by
  intro h
  have lists := congrArg String.toList h
  simp at lists

theorem valuesText_delimited : Delimited (Series ", " WordText) Closed :=
  wordText_delimited.series (fun x => .inl ⟨x, rfl⟩) (fun _ h => .inr h)
    (fun r h x => by obtain ⟨y, rfl⟩ := h; exact comma_ne_close y x)

theorem testText_delimited : Delimited TestText fun _ => True := by
  intro a b s t r u hs ht _ _ heq
  obtain ⟨ha, hvs⟩ := hs
  obtain ⟨hb, hws⟩ := ht
  simp only [String.append_assoc, String.append_right_inj] at heq
  obtain ⟨rfl, values⟩ := wordText_delimited (.plain ha) (.plain hb) (.inl ⟨_, rfl⟩)
    (.inl ⟨_, rfl⟩) heq
  obtain ⟨rfl, rest⟩ := valuesText_delimited hvs hws ⟨_, rfl⟩ ⟨_, rfl⟩
    ((String.append_right_inj ", ").mp values)
  exact ⟨rfl, (String.append_right_inj ")").mp rest⟩

theorem testsText_delimited : Delimited (Series " AND " TestText) Closed :=
  testText_delimited.series (fun _ => trivial) (fun _ _ => trivial)
    (fun r h x => by obtain ⟨y, rfl⟩ := h; exact and_ne_close y x)

theorem factorText_delimited : Delimited FactorText fun _ => True := by
  have signs (x y : String) : "(" ++ x ≠ "NOT " ++ y := by
    intro h
    have lists := congrArg String.toList h
    simp at lists
  have inner {a b : List Test} {s t r u : String} (hs : Series " AND " TestText a s)
      (ht : Series " AND " TestText b t)
      (h : "(" ++ (s ++ (")" ++ r)) = "(" ++ (t ++ (")" ++ u))) : a = b ∧ r = u := by
    obtain ⟨rfl, rest⟩ := testsText_delimited hs ht ⟨_, rfl⟩ ⟨_, rfl⟩
      ((String.append_right_inj "(").mp h)
    exact ⟨rfl, (String.append_right_inj ")").mp rest⟩
  intro a b s t r u hs ht _ _ heq
  cases hs with
  | positive hs =>
    cases ht with
    | positive ht =>
      simp only [String.append_assoc] at heq
      obtain ⟨rfl, rest⟩ := inner hs ht heq
      exact ⟨rfl, rest⟩
    | negative ht =>
      simp only [String.append_assoc] at heq
      exact absurd heq (signs _ _)
  | negative hs =>
    cases ht with
    | positive ht =>
      simp only [String.append_assoc] at heq
      exact absurd heq.symm (signs _ _)
    | negative ht =>
      simp only [String.append_assoc] at heq
      obtain ⟨rfl, rest⟩ := inner hs ht ((String.append_right_inj "NOT ").mp heq)
      exact ⟨rfl, rest⟩

theorem termText_delimited :
    Delimited (Series " AND " FactorText) fun r => ∀ x, r ≠ " AND " ++ x :=
  factorText_delimited.series (fun _ => trivial) (fun _ _ => trivial) fun _ h => h

/-- A text has at most one reading. -/
theorem Reads.unique {e e' : Reading} {s : String} (h : Reads e s) (h' : Reads e' s) : e = e' := by
  have joins (x y : String) : " OR " ++ x ≠ " AND " ++ y := by
    intro h
    have lists := congrArg String.toList h
    simp at lists
  have ends {r : String} (hr : r = "") (x : String) : r ≠ " AND " ++ x ∧ r ≠ " OR " ++ x := by
    subst r
    constructor <;> intro h <;> simpa using congrArg String.toList h
  have whole : Delimited Reads fun r => r = "" :=
    termText_delimited.series joins (fun _ hr x => (ends hr x).1) fun _ hr x => (ends hr x).2
  exact (whole h h' rfl rfl rfl).1

end Fulltext.Filter
