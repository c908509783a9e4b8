import Fulltext.Backend.Script
import Fulltext.Proofs.Filter.Distinct
import Fulltext.Proofs.Search.Column
import Fulltext.Proofs.Value.Same

namespace Fulltext

/-- Calls with equal arguments. The expression of a column, the text to escape and the text to send
are the same, and weights are equal pair by pair. -/
inductive Call.Alike : Call → Call → Prop
  | setSortMode {mode mode' clause clause' : Value} (modes : mode.same mode' = true)
    (clauses : clause.same clause' = true) :
    Alike (.setSortMode mode clause) (.setSortMode mode' clause')
  | setLimits {offset offset' limit limit' : Value} (offsets : offset.same offset' = true)
    (limits : limit.same limit' = true) :
    Alike (.setLimits offset limit) (.setLimits offset' limit')
  | setFieldWeights {es fs : Entries} (weights : Query.samePairs es fs = true) :
    Alike (.setFieldWeights (.map es)) (.setFieldWeights (.map fs))
  | addComputedColumn (expr label : Value) :
    Alike (.addComputedColumn expr label) (.addComputedColumn expr label)
  | setFilter (attr values : Value) : Alike (.setFilter attr values) (.setFilter attr values)
  | setMatchMode {mode mode' : Value} (modes : mode.same mode' = true) :
    Alike (.setMatchMode mode) (.setMatchMode mode')
  | escapeString (text : Value) : Alike (.escapeString text) (.escapeString text)
  | addQuery (text : Value) {index index' : Value} (indexes : index.same index' = true) :
    Alike (.addQuery text index) (.addQuery text index')
  | runQueries : Alike .runQueries .runQueries

theorem Call.Alike.method {c c' : Call} (h : c.Alike c') : c.method = c'.method := by
  cases h <;> rfl

/-- A scripted backend looks at the method of a call and at the text to escape, and alike calls agree
in both. -/
theorem Script.inStep (s : Script) :
    s.backend.InStep s.backend Call.Alike (List.Forall₂ Call.Alike) where
  answer := by
    intro c c' v w alike _
    simp only [backend, alike.method]
    split
    · rfl
    · cases failure : s.failureOf? c'.method.name with
      | some f => rfl
      | none => cases alike <;> rfl
  world := by
    intro c c' v w alike received
    simp only [backend, alike.method]
    split
    · exact received
    · exact List.rel_append received (.cons alike .nil)

namespace Query

/-- Equality of queries, part by part. -/
structure Agrees (q r : Query) : Prop where
  index : q.index.same r.index = true
  search : q.search.same r.search = true
  searchFields : List.Forall₂ (fun a b => a.same b = true) q.searchFields r.searchFields
  limit : q.limit.same r.limit = true
  offset : q.offset.same r.offset = true
  sortField : q.sortField.same r.sortField = true
  sortMode : q.sortMode.same r.sortMode = true
  fieldWeights : samePairs q.fieldWeights r.fieldWeights = true
  filters : Filter.sameGroups q.filters r.filters = true
  matchMode : q.matchMode.same r.matchMode = true

theorem agrees_of_same {q r : Query} (h : q.same r = true) : q.Agrees r := by
  simp only [same, Bool.and_eq_true] at h
  obtain ⟨⟨⟨⟨⟨⟨⟨⟨⟨index, search⟩, fields⟩, limit⟩, offset⟩, sortField⟩, sortMode⟩, weights⟩,
    filters⟩, matchMode⟩ := h
  exact ⟨index, search, Value.forall₂_of_sameItems fields, limit, offset, sortField, sortMode,
    weights, filters, matchMode⟩

theorem isEmpty_of_samePairs : ∀ {es fs : Entries}, samePairs es fs = true →
    es.isEmpty = fs.isEmpty
  | [], [], _ => rfl
  | _ :: _, _ :: _, _ => rfl

theorem fieldNames_of_forall₂ {xs ys : List Value}
    (h : List.Forall₂ (fun a b => a.same b = true) xs ys) : fieldNames xs = fieldNames ys := by
  induction h with
  | nil => rfl
  | @cons x y xs ys first rest ih =>
    by_cases named : ∃ s, x = .text s
    · obtain ⟨s, hx⟩ := named
      have hy := (Value.eq_text_iff_of_same first s).mp hx
      rw [hx, hy, fieldNames, fieldNames, ih]
    · have unnamed : ¬∃ s, y = .text s := by
        rintro ⟨s, hy⟩
        exact named ⟨s, (Value.eq_text_iff_of_same first s).mpr hy⟩
      have refused : ∀ (v : Value) (vs : List Value), (¬∃ s, v = .text s) →
          fieldNames (v :: vs) = .error (.operand .notJoinable) := by
        intro v vs other
        cases v with
        | text s => exact absurd ⟨s, rfl⟩ other
        | _ => rfl
      rw [refused x xs named, refused y ys unnamed]

/-- Equal search fields scope a text alike, or are refused alike. -/
theorem text_of_forall₂ {xs ys : List Value}
    (h : List.Forall₂ (fun a b => a.same b = true) xs ys) (escaped : Value) :
    text escaped xs = text escaped ys := by
  have empty := Value.isEmpty_of_length_eq h.length_eq
  rw [text, text, scope, scope, empty, fieldNames_of_forall₂ h]

end Query

namespace Filter

theorem isEmpty_of_sameGroups : ∀ {gs hs : List Group}, sameGroups gs hs = true →
    gs.isEmpty = hs.isEmpty
  | [], [], _ => rfl
  | _ :: _, _ :: _, _ => rfl

/-- Equal groups whose values are written alike are shown alike. -/
theorem shown_of_sameGroups {gs hs : List Group} (h : sameGroups gs hs = true)
    (written : gs.map (fun g => g.values.map Value.shown) =
      hs.map fun g => g.values.map Value.shown) :
    gs.map Group.shown = hs.map Group.shown := by
  induction gs generalizing hs with
  | nil =>
    cases hs with
    | nil => rfl
    | cons k hs => cases h
  | cons g gs ih =>
    cases hs with
    | nil => cases h
    | cons k hs =>
      simp only [sameGroups, Group.same, Bool.and_eq_true, beq_iff_eq] at h
      obtain ⟨⟨⟨subject, -⟩, flags⟩, rest⟩ := h
      obtain ⟨values, others⟩ := List.cons.inj written
      have first : g.shown = k.shown := by
        simp only [Group.shown, Group.factor, Group.attr, Group.alternative, Group.exclude,
          Group.everyValue, subject, flags, values]
      rw [List.map_cons, List.map_cons, first, ih rest others]

end Filter

namespace Search

/-- Calls that are due together and are alike. -/
theorem alike_of_due {due due' : Prop} [Decidable due] [Decidable due'] (both : due ↔ due')
    {cs ds : List Call} (h : List.Forall₂ Call.Alike cs ds) :
    List.Forall₂ Call.Alike (if due then cs else []) (if due' then ds else []) := by
  by_cases hd : due
  · rw [if_pos hd, if_pos (both.mp hd)]
    exact h
  · rw [if_neg hd, if_neg (mt both.mpr hd)]
    exact .nil

section

variable {q r : Query} (h : q.Agrees r)

include h

theorem same_sortModeOf : (sortModeOf q).same (sortModeOf r) = true := by
  have given : ∀ p : Query, p.sortMode ≠ .null → sortModeOf p = p.sortMode := by
    intro p other
    rw [sortModeOf]
    split
    · next null => exact absurd null other
    · rfl
  have unset := Value.eq_null_iff_of_same h.sortMode
  by_cases null : q.sortMode = .null
  · rw [sortModeOf, sortModeOf, null, unset.mp null]
    rfl
  · rw [given q null, given r (mt unset.mpr null)]
    exact h.sortMode

theorem alike_ranking : List.Forall₂ Call.Alike (ranking q) (ranking r) := by
  have sorted : q.sortField.isSet = true ↔ r.sortField.isSet = true := by
    rw [Value.isSet_of_same h.sortField]
  have limited : q.limit.isSet = true ↔ r.limit.isSet = true := by
    rw [Value.isSet_of_same h.limit]
  have weights : List.Forall₂ Call.Alike
      (if q.fieldWeights.isEmpty then [] else [Call.setFieldWeights (.map q.fieldWeights)])
      (if r.fieldWeights.isEmpty then [] else [Call.setFieldWeights (.map r.fieldWeights)]) := by
    rw [Query.isEmpty_of_samePairs h.fieldWeights]
    split
    · exact .nil
    · exact .cons (.setFieldWeights h.fieldWeights) .nil
  rw [ranking, ranking]
  exact List.rel_append (List.rel_append
    (alike_of_due sorted (.cons (.setSortMode (same_sortModeOf h) h.sortField) .nil))
    (alike_of_due limited (.cons (.setLimits h.offset h.limit) .nil))) weights

theorem alike_matching : List.Forall₂ Call.Alike (matching q) (matching r) := by
  have asks : ∀ p : Query, hasMatchMode p = true ↔ p.matchMode ≠ .null := by
    intro p
    rw [hasMatchMode]
    split
    · next null => simp [null]
    · next other => exact iff_of_true rfl other
  have both : hasMatchMode q = true ↔ hasMatchMode r = true := by
    rw [asks q, asks r, ne_eq, ne_eq, Value.eq_null_iff_of_same h.matchMode]
  rw [matching, matching]
  exact alike_of_due both (.cons (.setMatchMode h.matchMode) .nil)

theorem alike_filtering (expr : Filter.expression q.filters = Filter.expression r.filters) :
    List.Forall₂ Call.Alike (filtering q) (filtering r) := by
  rw [filtering, filtering, Filter.isEmpty_of_sameGroups h.filters, expr]
  split
  · exact .nil
  · exact .cons (.addComputedColumn _ _) (.cons (.setFilter _ _) .nil)

/-- All that equal queries send is alike if their filters have one expression. -/
theorem corresponds_of_agrees (search : q.search = r.search)
    (expr : Filter.expression q.filters = Filter.expression r.filters) :
    Corresponds Call.Alike q r where
  settings := by
    rw [settings_eq, settings_eq]
    exact List.rel_append (List.rel_append (alike_ranking h) (alike_filtering h expr))
      (alike_matching h)
  escape := search ▸ .escapeString q.search
  text := Query.text_of_forall₂ h.searchFields
  send := fun text => .addQuery text h.index
  run := .runQueries

end

/-- What alike calls have in common to the letter: the expression of a column, the text to escape. -/
def shared? : Call → Option Value
  | .addComputedColumn expr _ => some expr
  | .escapeString text => some text
  | _ => none

theorem shared_of_alike {cs ds : List Call} (h : List.Forall₂ Call.Alike cs ds) :
    cs.filterMap shared? = ds.filterMap shared? := by
  induction h with
  | nil => rfl
  | @cons c d cs ds first rest ih =>
    have shared : shared? c = shared? d := by
      cases first <;> rfl
    rw [List.filterMap_cons, List.filterMap_cons, shared, ih]

theorem shared_schedule (q : Query) (text : Value) :
    (schedule q text).filterMap shared? =
      (if q.filters.isEmpty then [] else [.text (Filter.expression q.filters)]) ++ [q.search] := by
  have before : (ranking q).filterMap shared? = [] := by
    simp only [ranking, List.filterMap_append]
    split <;> split <;> split <;> rfl
  have after : (matching q).filterMap shared? = [] := by
    rw [matching]
    split <;> rfl
  have column : (filtering q).filterMap shared? =
      if q.filters.isEmpty then [] else [.text (Filter.expression q.filters)] := by
    rw [filtering]
    split <;> rfl
  have escape : [Call.escapeString q.search].filterMap shared? = [q.search] := rfl
  have sent : [Call.addQuery text q.index, .runQueries].filterMap shared? = [] := rfl
  simp only [schedule, opening, settings_eq, List.filterMap_append, before, after, column, escape,
    sent, List.nil_append, List.append_nil]

/-- A backend that answers every call with nothing is sent the whole schedule. -/
theorem calls_of_silent (q : Query) :
    let b : Backend Unit := ⟨fun _ w => ⟨.ok .null, [], w⟩⟩
    ((execute (.opened b) q).runFrom { world := () }).2.calls = schedule q .null := by
  intro b
  have text : Query.text (escaped b q ()) q.searchFields = .ok .null := rfl
  have sent : Session.Follows b (execute (.opened b) q) { world := () } (schedule q .null) _ :=
    submit_follows text
  have answered := Backend.fault?_of_answers (b := b) (fun _ _ => ⟨.null, rfl⟩) (schedule q .null) ()
  rw [sent.calls, Backend.made_of_answered answered]
  rfl

/-- Equal queries are sent alike, to whatever backend that answers alike calls alike, exactly if they
search for the very same and their filters have one expression. They do search for the same if that is
a text, and have one expression if the values are written alike. A refused connection ends both
alike. -/
theorem equal_queries_sent_alike_iff (q r : Query) (same : q.same r = true) :
    ((∃ s, q.search = .text s) → q.search = r.search) ∧
    (q.filters.map (fun g => g.values.map Value.shown) =
        r.filters.map (fun g => g.values.map Value.shown) →
      Filter.expression q.filters = Filter.expression r.filters) ∧
    ((∀ (σ : Type) (b : Backend σ) (R : σ → σ → Prop) (v w : σ),
        b.InStep b Call.Alike R → R v w →
        let first := (execute (.opened b) q).runFrom { world := v }
        let second := (execute (.opened b) r).runFrom { world := w }
        List.Forall₂ Call.Alike first.2.calls second.2.calls ∧ first.1 = second.1) ↔
      q.search = r.search ∧ Filter.expression q.filters = Filter.expression r.filters) ∧
    ∀ (σ : Type) (f : Failure) (w : σ), (execute (.refused f) q).runFrom { world := w } =
      (execute (.refused f) r).runFrom { world := w } := by
  have agrees := Query.agrees_of_same same
  have empty := Filter.isEmpty_of_sameGroups agrees.filters
  refine ⟨?search, fun written => ?written, ⟨fun sent => ?apart, ?alike⟩, fun _ _ _ => rfl⟩
  case search =>
    rintro ⟨s, text⟩
    rw [text, (Value.eq_text_iff_of_same agrees.search s).mp text]
  case written => exact Filter.expression_of_shown (Filter.shown_of_sameGroups agrees.filters written)
  case apart =>
    -- A backend that is told everything and answers nothing sees the search and the column of each.
    let b : Backend Unit := ⟨fun _ w => ⟨.ok .null, [], w⟩⟩
    have silent : b.InStep b Call.Alike fun _ _ => True := ⟨fun _ _ => rfl, fun _ _ => trivial⟩
    have calls := (sent Unit b (fun _ _ => True) () () silent trivial).1
    rw [calls_of_silent q, calls_of_silent r] at calls
    have shared := shared_of_alike calls
    rw [shared_schedule, shared_schedule, empty] at shared
    cases none : r.filters.isEmpty with
    | true =>
      rw [none] at shared empty
      rw [List.isEmpty_iff.mp none, List.isEmpty_iff.mp empty]
      exact ⟨(List.cons.inj shared).1, rfl⟩
    | false =>
      rw [none] at shared
      obtain ⟨column, search⟩ := List.cons.inj shared
      exact ⟨(List.cons.inj search).1, Value.text.inj column⟩
  case alike =>
    rintro ⟨search, expr⟩ σ b R v w inStep worlds first second
    have sent := corresponds_of_agrees agrees search expr
    obtain ⟨result, -, cs, ds, one, other, alike⟩ :=
      submit_inStep (t := { world := v }) (u := { world := w }) inStep sent worlds
    have calls : first.2.calls = cs := one
    have calls' : second.2.calls = ds := other
    rw [calls, calls']
    exact ⟨alike, result⟩

/-- A limit and modes that are equal as numbers and no more, sent to a backend that refuses the last
call. -/
theorem equal_queries_sent_alike_iff_numbers :
    let q : Query := {
      index := .text "books", search := .text "war", searchFields := [.text "title"],
      limit := .int 1, offset := .int 0, sortField := .text "year",
      sortMode := .sortMode .attrAsc, fieldWeights := [(.text "title", .int 1)],
      filters := [⟨"lang", [.int 1], 1⟩], matchMode := .matchMode .any }
    let r : Query := { q with
      limit := .bool true, offset := .bool false, sortMode := .int 2,
      fieldWeights := [(.text "title", .bool true)], matchMode := .int 1 }
    let s : Script := { failure? := some ("run_queries", ⟨.ordinary "OSError", "down"⟩) }
    let first := (execute (.opened s.backend) q).runFrom { world := [] }
    let second := (execute (.opened s.backend) r).runFrom { world := [] }
    q.same r = true ∧ (∃ t, q.search = .text t) ∧
    s.backend.InStep s.backend Call.Alike (List.Forall₂ Call.Alike) ∧
    Filter.expression q.filters = Filter.expression r.filters ∧
    List.Forall₂ Call.Alike first.2.calls second.2.calls ∧ first.1 = second.1 ∧
    second.2.calls = [.setSortMode (.int 2) (.text "year"),
      .setLimits (.bool false) (.bool true), .setFieldWeights (.map [(.text "title", .bool true)]),
      .addComputedColumn (.text "NOT (IN(lang, 1))") (.text "_filter"),
      .setFilter (.text "_filter") (.list [.int 1]), .setMatchMode (.int 1),
      .escapeString (.text "war"), .addQuery (.text "@(title) war") (.text "books"),
      .runQueries] := by
  intro q r s first second
  have same : q.same r = true := rfl
  have text : ∃ t, q.search = .text t := ⟨"war", rfl⟩
  obtain ⟨search, written, sent, -⟩ := equal_queries_sent_alike_iff q r same
  have expr := written rfl
  obtain ⟨calls, result⟩ := sent.mpr ⟨search text, expr⟩ _ s.backend _ [] [] s.inStep .nil
  exact ⟨same, text, s.inStep, expr, calls, result, rfl⟩

/-- One and one point zero are equal, and each is written its own way. One and true are equal, and a
backend need not answer them alike. -/
theorem equal_queries_sent_apart :
    let q : Query := {
      index := .null, search := .text "", searchFields := [], limit := .int 1, offset := .int 0,
      sortField := .null, sortMode := .null, fieldWeights := [],
      filters := [⟨"lang", [.int 1], 0⟩], matchMode := .null }
    let r : Query := { q with
      filters := [⟨"lang", [.float (.finite false 4503599627370496 (-52))], 0⟩] }
    let s : Query := { q with limit := .bool true }
    let b : Backend (List Call) := Script.backend {}
    let refusal : Fault := .failure ⟨.ordinary "TypeError", "limit"⟩
    let picky : Backend Unit := ⟨fun c w => match c with
      | .setLimits _ (.bool _) => ⟨.error refusal, [], w⟩
      | _ => ⟨.ok .null, [], w⟩⟩
    (q.same r = true ∧ b.InStep b Call.Alike (List.Forall₂ Call.Alike) ∧
      ((execute (.opened b) q).runFrom { world := [] }).2.calls =
        [.setLimits (.int 0) (.int 1), .addComputedColumn (.text "(IN(lang, 1))") (.text "_filter"),
          .setFilter (.text "_filter") (.list [.int 1]), .escapeString (.text ""),
          .addQuery (.text "") .null, .runQueries] ∧
      ((execute (.opened b) r).runFrom { world := [] }).2.calls =
        [.setLimits (.int 0) (.int 1), .addComputedColumn (.text "(IN(lang, 1.0))") (.text "_filter"),
          .setFilter (.text "_filter") (.list [.int 1]), .escapeString (.text ""),
          .addQuery (.text "") .null, .runQueries]) ∧
    q.same s = true ∧ Filter.expression q.filters = Filter.expression s.filters ∧
      ((execute (.opened picky) q).runFrom { world := () }).1 = .ok .failed ∧
      ((execute (.opened picky) s).runFrom { world := () }).1 = .error refusal := by
  intro q r s b refusal picky
  exact ⟨⟨rfl, Script.inStep {}, rfl, rfl⟩, rfl, rfl, rfl, rfl⟩

end Search

end Fulltext
