import Fulltext.Proofs.Filter.Meaning
import Fulltext.Proofs.Search.Corresponding

namespace Fulltext

namespace Query

open Fulltext.Filter

/-- A character that does not end a name in a scope. -/
def isNameChar (c : Char) : Bool := c != ',' && c != ')'

def FieldName (s : String) : Prop := ∀ c ∈ s.toList, isNameChar c = true

instance (s : String) : Decidable (FieldName s) :=
  List.decidableBAll (fun c => isNameChar c = true) s.toList

/-- The text for an escaped text, which has no scope if it is empty. -/
def scopedText (fields : List String) (escaped : String) : String :=
  if escaped = "" then "" else
    (if fields.isEmpty then "@*" else "@(" ++ ",".intercalate fields ++ ")") ++ " " ++ escaped

theorem sentText_text (fields : List String) (escaped : String) :
    sentText fields (.text escaped) = .text (scopedText fields escaped) := by
  rw [sentText, scopedText]
  by_cases empty : escaped = ""
  · simp [Value.isSet, empty]
  · simp [Value.isSet, Value.shown, empty]

theorem scopedText_empty (fields : List String) : scopedText fields "" = "" := rfl

theorem scopedText_nil {e : String} (he : e ≠ "") : scopedText [] e = "@* " ++ e := by
  rw [scopedText, if_neg he]
  rfl

theorem scopedText_of_fields {fs : List String} (hfs : fs ≠ []) {e : String} (he : e ≠ "") :
    scopedText fs e = "@(" ++ (",".intercalate fs ++ (")" ++ (" " ++ e))) := by
  have filled : ¬fs.isEmpty = true := fun none => hfs (List.isEmpty_iff.mp none)
  rw [scopedText, if_neg he, if_neg filled]
  simp only [String.append_assoc]

theorem scopedText_eq_empty_iff (fs : List String) (e : String) :
    scopedText fs e = "" ↔ e = "" := by
  constructor
  · intro h
    by_contra he
    rw [scopedText, if_neg he] at h
    have lists := congrArg String.toList h
    simp at lists
  · rintro rfl
    exact scopedText_empty fs

/-- All fields and some of them are told apart by the second character. -/
theorem scopedText_nil_ne {gs : List String} (hgs : gs ≠ []) {e : String} (he : e ≠ "")
    (f : String) : scopedText [] e ≠ scopedText gs f := by
  intro h
  by_cases hf : f = ""
  · rw [hf, scopedText_empty, scopedText_eq_empty_iff] at h
    exact he h
  · rw [scopedText_nil he, scopedText_of_fields hgs hf] at h
    have lists := congrArg String.toList h
    simp at lists

/-- A name stands for itself. -/
def NameText (w s : String) : Prop := s = w ∧ FieldName w

/-- What comes after a name begins with a character that ends it. -/
def EndsName (r : String) : Prop := r.toList.takeWhile isNameChar = []

theorem name_delimited : Delimited NameText EndsName := delimited_of_takeWhile id id

theorem EndsName.of_closed {r : String} (h : Closed r) : EndsName r := by
  obtain ⟨x, rfl⟩ := h
  simp [EndsName, isNameChar]

theorem bracket_ne_comma (x y : String) : ")" ++ x ≠ "," ++ y := by
  intro h
  have lists := congrArg String.toList h
  simp at lists

/-- The names of a scope end at its bracket, each at its comma. -/
theorem names_delimited : Delimited (Series "," NameText) Closed :=
  name_delimited.series (fun x => by simp [EndsName, isNameChar]) (fun _ h => .of_closed h)
    (fun r h x => by obtain ⟨y, rfl⟩ := h; exact bracket_ne_comma y x)

theorem names_series {fs : List String} (hne : fs ≠ []) (hfs : ∀ n ∈ fs, FieldName n) :
    Series "," NameText fs (",".intercalate fs) := by
  have names : Series "," NameText fs (",".intercalate (fs.map id)) :=
    Series.intercalate hne fun n hn => ⟨rfl, hfs n hn⟩
  rw [List.map_id] at names
  exact names

/-- The text for an escaped text tells the fields and the escaped text. -/
theorem scopedText_inj {fs gs : List String} (plain : ∀ n ∈ fs ++ gs, FieldName n) {e f : String}
    (he : e ≠ "") (hf : f ≠ "") (h : scopedText fs e = scopedText gs f) : fs = gs ∧ e = f := by
  rw [List.forall_mem_append] at plain
  by_cases hfs : fs = []
  · subst fs
    by_cases hgs : gs = []
    · subst gs
      rw [scopedText_nil he, scopedText_nil hf] at h
      exact ⟨rfl, (String.append_right_inj "@* ").mp h⟩
    · exact absurd h (scopedText_nil_ne hgs he f)
  · by_cases hgs : gs = []
    · subst gs
      exact absurd h.symm (scopedText_nil_ne hfs hf e)
    · rw [scopedText_of_fields hfs he, scopedText_of_fields hgs hf, String.append_right_inj] at h
      obtain ⟨fields, rest⟩ := names_delimited (names_series hfs plain.1)
        (names_series hgs plain.2) ⟨_, rfl⟩ ⟨_, rfl⟩ h
      exact ⟨fields, (String.append_right_inj " ").mp ((String.append_right_inj ")").mp rest)⟩

theorem scopedText_eq_iff {fs gs : List String} (plain : ∀ n ∈ fs ++ gs, FieldName n)
    {e f : String} : scopedText fs e = scopedText gs f ↔ e = f ∧ (e = "" ∨ fs = gs) := by
  constructor
  · intro h
    have empty : e = "" ↔ f = "" := by
      rw [← scopedText_eq_empty_iff fs, h, scopedText_eq_empty_iff]
    by_cases he : e = ""
    · exact ⟨he.trans (empty.mp he).symm, .inl he⟩
    · obtain ⟨fields, escaped⟩ := scopedText_inj plain he (mt empty.mpr he) h
      exact ⟨escaped, .inr fields⟩
  · rintro ⟨rfl, rfl | rfl⟩
    · rw [scopedText_empty, scopedText_empty]
    · rfl

end Query

/-- Calls that differ in nothing but the search text that is to be escaped. -/
inductive Call.ButSearch (s s' : Value) : Call → Call → Prop
  | same {c : Call} (h : c.method ≠ .escapeString) : ButSearch s s' c c
  | escape : ButSearch s s' (.escapeString s) (.escapeString s')

namespace Search

open Session

variable {σ τ : Type}

theorem queryText_of_escaped {b : Backend σ} {q : Query} {t : Trace σ} {fs : List String}
    {e : String} (hq : q.searchFields = fs.map .text)
    (he : (b.perform (.escapeString q.search) t.world).answer = .ok (.text e)) :
    ((queryText b q).runFrom t).1 = .ok (.text (Query.scopedText fs e)) := by
  have follows : Follows b (queryText b q) t [.escapeString q.search]
      (Query.text (b.valueAfter [] (.escapeString q.search) t.world) q.searchFields) :=
    (Follows.call ..).bind fun _ _ => Follows.lift _
  have value : b.valueAfter [] (.escapeString q.search) t.world = .text e := by
    rw [Backend.valueAfter, show b.answerAfter [] (.escapeString q.search) t.world = _ from he]
    rfl
  have answered : b.fault? [.escapeString q.search] t.world = none := by
    rw [Backend.fault?, he]
    rfl
  rw [(follows.ends answered).1, value, hq, Query.text_map_text, Query.sentText_text]

/-- Only a text that the backend has escaped is queued, and it is queued in its scope. -/
theorem submit_queues_escaped (b : Backend σ) (q : Query) (t : Trace σ) :
    ∃ asked, ((submit b q).runFrom t).2.calls = t.calls ++ asked ∧
      ∀ text index, .addQuery text index ∈ asked →
        ∃ v, b.answerAfter (settings q) (.escapeString q.search) t.world = .ok v ∧
          Query.text v q.searchFields = .ok text := by
  have before : ∀ c ∈ opening q, c.method ≠ .addQuery := by
    rw [opening, List.forall_mem_append]
    exact ⟨fun c hc => (method_of_mem_settings q c hc).2.1, by simp [Call.method]⟩
  cases ht : Query.text (escaped b q t.world) q.searchFields with
  | error f =>
    refine ⟨_, (submit_fails ht).calls, fun text index queued => ?_⟩
    exact absurd rfl (before _ (Backend.mem_of_mem_made queued))
  | ok sent =>
    refine ⟨_, (submit_follows ht).calls, fun text index queued => ?_⟩
    cases stopped : b.fault? (opening q) t.world with
    | some f =>
      -- Nothing is queued before the text is escaped.
      rw [schedule, Backend.made_append_of_fault stopped] at queued
      exact absurd rfl (before _ (Backend.mem_of_mem_made queued))
    | none =>
      have same : text = sent := by
        rcases List.mem_append.mp (Backend.mem_of_mem_made queued) with early | late
        · exact absurd rfl (before _ early)
        · simp only [List.mem_cons, Call.addQuery.injEq, reduceCtorEq, List.not_mem_nil,
            or_false] at late
          exact late.1
      exact ⟨_, Backend.answerAfter_of_answered stopped, same ▸ ht⟩

/-- Queries that differ in their search texts send the same apart from the text to escape. -/
theorem corresponds_butSearch (q : Query) (other : Value) :
    Corresponds (Call.ButSearch q.search other) q { q with search := other } where
  settings := List.forall₂_same.mpr fun c hc => .same (method_of_mem_settings q c hc).1
  escape := .escape
  text := fun _ => rfl
  send := fun _ => .same (by simp [Call.method])
  run := .same (by simp [Call.method])

/-- The texts for two queries are equal exactly if the escaped texts are and, unless these are empty,
the fields are; all fields are never taken for some of them, whatever their names. What is queued is
an escaped text in its scope, and searches that are escaped alike show in no other call. -/
theorem query_text_tells_scope_and_escaped (q r : Query) (fs gs : List String)
    (hq : q.searchFields = fs.map .text) (hr : r.searchFields = gs.map .text)
    (b : Backend σ) (d : Backend τ) (t : Trace σ) (u : Trace τ) (e f : String)
    (he : (b.perform (.escapeString q.search) t.world).answer = .ok (.text e))
    (hf : (d.perform (.escapeString r.search) u.world).answer = .ok (.text f)) :
    (∃ x y : String,
      ((queryText b q).runFrom t).1 = .ok (.text x) ∧
      ((queryText d r).runFrom u).1 = .ok (.text y) ∧
      (x = "" ↔ e = "") ∧ (y = "" ↔ f = "") ∧
      ((∀ n ∈ fs ++ gs, Query.FieldName n) → (x = y ↔ e = f ∧ (e = "" ∨ fs = gs))) ∧
      (fs = [] → gs ≠ [] → e ≠ "" → x ≠ y)) ∧
    (∀ t : Trace σ, ∃ asked,
      ((execute (.opened b) q).runFrom t).2.calls = t.calls ++ asked ∧
      ∀ text index, .addQuery text index ∈ asked →
        ∃ v, b.answerAfter (settings q) (.escapeString q.search) t.world = .ok v ∧
          Query.text v q.searchFields = .ok text) ∧
    ∀ (other : Value) (R : σ → σ → Prop) (v w : σ),
      b.InStep b (Call.ButSearch q.search other) R → R v w →
      let first := (execute (.opened b) q).runFrom { world := v }
      let second := (execute (.opened b) { q with search := other }).runFrom { world := w }
      List.Forall₂ (Call.ButSearch q.search other) first.2.calls second.2.calls ∧
        first.1 = second.1 := by
  refine ⟨?texts, submit_queues_escaped b q, fun other R v w inStep worlds => ?unread⟩
  case texts =>
    refine ⟨Query.scopedText fs e, Query.scopedText gs f, queryText_of_escaped hq he,
      queryText_of_escaped hr hf, Query.scopedText_eq_empty_iff fs e,
      Query.scopedText_eq_empty_iff gs f, fun plain => Query.scopedText_eq_iff plain, ?_⟩
    rintro rfl hgs hne
    exact Query.scopedText_nil_ne hgs hne f
  case unread =>
    intro first second
    obtain ⟨result, -, cs, ds, one, two, alike⟩ :=
      submit_inStep (t := { world := v }) (u := { world := w }) inStep
        (corresponds_butSearch q other) worlds
    have calls : first.2.calls = cs := one
    have calls' : second.2.calls = ds := two
    rw [calls, calls']
    exact ⟨alike, result⟩

/-- A text that looks like a scope is queued under all fields, one with an empty name is queued under
a field, and the mark that the backend takes out shows nowhere else. -/
theorem query_text_tells_scope_and_escaped_empty_name :
    let q : Query := {
      index := .text "books", search := .text "() war!", searchFields := [], limit := .null,
      offset := .int 0, sortField := .null, sortMode := .null, fieldWeights := [], filters := [],
      matchMode := .null }
    let r : Query := { q with search := .text "war", searchFields := [.text ""] }
    let b : Backend Unit := ⟨fun c w => ⟨match c with
      | .escapeString (.text s) => .ok (.text (String.ofList (s.toList.filter (· != '!'))))
      | _ => .ok .null, [], w⟩⟩
    let t : Trace Unit := { world := () }
    let other : Value := .text "()! war"
    let first := (execute (.opened b) q).runFrom t
    let second := (execute (.opened b) { q with search := other }).runFrom t
    q.searchFields = ([] : List String).map .text ∧ r.searchFields = [""].map .text ∧
    (b.perform (.escapeString q.search) ()).answer = .ok (.text "() war") ∧
    (b.perform (.escapeString r.search) ()).answer = .ok (.text "war") ∧
    (∀ n ∈ [] ++ [""], Query.FieldName n) ∧
    b.InStep b (Call.ButSearch q.search other) (fun _ _ => True) ∧
    (∃ x y : String, ((queryText b q).runFrom t).1 = .ok (.text x) ∧
      ((queryText b r).runFrom t).1 = .ok (.text y) ∧ x ≠ "" ∧ y ≠ "" ∧
      (x = y ↔ "() war" = "war" ∧ ("() war" = "" ∨ [] = [""])) ∧ x ≠ y) ∧
    first.2.calls = [.escapeString q.search, .addQuery (.text "@* () war") (.text "books"),
      .runQueries] ∧
    List.Forall₂ (Call.ButSearch q.search other) first.2.calls second.2.calls ∧
    first.1 = second.1 := by
  intro q r b t other first second
  have hq : q.searchFields = ([] : List String).map .text := rfl
  have hr : r.searchFields = [""].map .text := rfl
  have he : (b.perform (.escapeString q.search) ()).answer = .ok (.text "() war") := rfl
  have hf : (b.perform (.escapeString r.search) ()).answer = .ok (.text "war") := rfl
  have ho : (b.perform (.escapeString other) ()).answer = .ok (.text "() war") := rfl
  have plain : ∀ n ∈ [] ++ [""], Query.FieldName n := by decide
  have inStep : b.InStep b (Call.ButSearch q.search other) (fun _ _ => True) := {
    answer := by
      intro c c' _ _ calls _
      cases calls with
      | same => rfl
      | escape => exact he.trans ho.symm
    world := fun _ _ => trivial }
  obtain ⟨⟨x, y, hx, hy, empty, empty', same, unscoped⟩, -, unread⟩ :=
    query_text_tells_scope_and_escaped q r [] [""] hq hr b b t t "() war" "war" he hf
  obtain ⟨calls, result⟩ := unread other (fun _ _ => True) () () inStep trivial
  have texts : x ≠ "" ∧ y ≠ "" := ⟨mt empty.mp (by decide), mt empty'.mp (by decide)⟩
  have apart : x ≠ y := unscoped rfl (by decide) (by decide)
  exact ⟨hq, hr, he, hf, plain, inStep, ⟨x, y, hx, hy, texts.1, texts.2, same plain, apart⟩, rfl,
    calls, result⟩

end Search

end Fulltext
