import Fulltext.Proofs.Backend.InTurn
import Fulltext.Search.Execution

namespace Fulltext

namespace Query

/-- The text that goes to the daemon: an empty one as it is, and any other after its scope. -/
def sentText (fields : List String) (escaped : Value) : Value :=
  if escaped.isSet then
    .text ((if fields.isEmpty then "@*" else "@(" ++ ",".intercalate fields ++ ")") ++ " " ++
      escaped.shown)
  else escaped

theorem fieldNames_map_text (fields : List String) :
    fieldNames (fields.map .text) = .ok fields := by
  induction fields with
  | nil => rfl
  | cons f fs ih =>
    rw [List.map_cons, fieldNames, ih]
    rfl

theorem scope_map_text (fields : List String) :
    scope (fields.map .text) =
      .ok (if fields.isEmpty then "@*" else "@(" ++ ",".intercalate fields ++ ")") := by
  rw [scope, fieldNames_map_text, List.isEmpty_map]
  cases fields with
  | nil => rfl
  | cons f fs => rfl

theorem text_map_text (escaped : Value) (fields : List String) :
    text escaped (fields.map .text) = .ok (sentText fields escaped) := by
  rw [text, sentText, scope_map_text]
  cases escaped.isSet with
  | false => rfl
  | true => rfl

end Query

namespace Search

variable {σ : Type}

/-- The calls that configure a backend. A limit of zero asks for nothing, a match mode of zero is a
mode, and an unset sort mode is sent as zero. -/
def settings (q : Query) : List Call :=
  (if q.sortField.isSet then
    [.setSortMode (match q.sortMode with | .null => .int 0 | mode => mode) q.sortField] else []) ++
  (if q.limit.isSet then [.setLimits q.offset q.limit] else []) ++
  (if q.fieldWeights.isEmpty then [] else [.setFieldWeights (.map q.fieldWeights)]) ++
  (if q.filters.isEmpty then [] else
    [.addComputedColumn (.text (Filter.expression q.filters)) (.text "_filter"),
      .setFilter (.text "_filter") (.list [.int 1])]) ++
  (match q.matchMode with | .null => [] | mode => [.setMatchMode mode])

/-- Settings neither escape nor queue a text, and run nothing. -/
theorem method_of_mem_settings (q : Query) : ∀ c ∈ settings q,
    c.method ≠ .escapeString ∧ c.method ≠ .addQuery ∧ c.method ≠ .runQueries := by
  simp only [settings, List.forall_mem_append]
  refine ⟨⟨⟨⟨?sort, ?limits⟩, ?weights⟩, ?filters⟩, ?mode⟩
  all_goals split <;> simp [Call.method]

/-- The calls up to the one that escapes the search text. -/
def opening (q : Query) : List Call := settings q ++ [.escapeString q.search]

/-- All calls for a query whose search text is sent as `text`. -/
def schedule (q : Query) (text : Value) : List Call :=
  opening q ++ [.addQuery text q.index, .runQueries]

/-- The search text as the configured backend escapes it. -/
def escaped (b : Backend σ) (q : Query) (w : σ) : Value :=
  b.valueAfter (settings q) (.escapeString q.search) w

open Session

/-- The first part of a submission: it makes the calls that configure the backend. -/
def configure (b : Backend σ) (q : Query) : Session σ Unit := do
  callIf q.sortField.isSet b (.setSortMode (sortModeOf q) q.sortField)
  callIf q.limit.isSet b (.setLimits q.offset q.limit)
  callIf (!q.fieldWeights.isEmpty) b (.setFieldWeights (.map q.fieldWeights))
  sendFilters b q.filters
  callIf (hasMatchMode q) b (.setMatchMode q.matchMode)

/-- The last part of a submission: it queues a search text and runs the queue. -/
def runText (b : Backend σ) (q : Query) (text : Value) : Session σ Outcome := do
  note .debug ("Search query: index=" ++ q.index.shown ++ " query=" ++ text.written)
  discard (call b (.addQuery text q.index))
  let response ← call b .runQueries
  let success := hasResponse response
  note .debug ("Search run finished: success=" ++ (Value.bool success).shown)
  return ⟨success, response⟩

theorem submit_eq (b : Backend σ) (q : Query) :
    submit b q = (do configure b q; let text ← queryText b q; runText b q text) := by
  simp only [submit, configure, runText, bind_assoc]

theorem sendFilters_follows (b : Backend σ) (gs : List Filter.Group) (t : Trace σ) :
    Follows b (sendFilters b gs) t
      (if gs.isEmpty then [] else
        [.addComputedColumn (.text (Filter.expression gs)) (.text "_filter"),
          .setFilter (.text "_filter") (.list [.int 1])]) (.ok ()) := by
  cases gs with
  | nil => exact .pure ()
  | cons g gs =>
    exact (Follows.note ..).bind fun _ _ =>
      (Follows.call ..).discard.bind fun _ _ => (Follows.call ..).discard

theorem configure_follows (b : Backend σ) (q : Query) (t : Trace σ) :
    Follows b (configure b q) t (settings q) (.ok ()) := by
  have weights : (if q.fieldWeights.isEmpty then [] else [Call.setFieldWeights (.map q.fieldWeights)]) =
      if !q.fieldWeights.isEmpty then [Call.setFieldWeights (.map q.fieldWeights)] else [] := by
    cases q.fieldWeights.isEmpty <;> rfl
  have mode : (match q.matchMode with | .null => [] | mode => [Call.setMatchMode mode]) =
      if hasMatchMode q then [Call.setMatchMode q.matchMode] else [] := by
    rw [hasMatchMode]
    cases q.matchMode <;> rfl
  rw [settings, weights, mode]
  simp only [List.append_assoc]
  exact (Follows.callIf ..).bind fun _ _ => (Follows.callIf ..).bind fun _ _ =>
    (Follows.callIf ..).bind fun _ _ => (sendFilters_follows b q.filters _).bind fun _ _ =>
      Follows.callIf ..

/-- Once the backend is configured, the search text is escaped and scoped. -/
theorem queryText_follows (b : Backend σ) (q : Query) {t u : Trace σ}
    (hu : u.world = b.worldAfter (settings q) t.world) :
    Follows b (queryText b q) u [.escapeString q.search]
      (Query.text (escaped b q t.world) q.searchFields) := by
  have value : escaped b q t.world = b.valueAfter [] (.escapeString q.search) u.world := by
    rw [hu]
    rfl
  rw [value]
  exact (Follows.call ..).bind fun _ _ => Follows.lift _

/-- What the backend answers to the last call of a schedule. -/
def response (b : Backend σ) (q : Query) (text : Value) (w : σ) : Value :=
  b.valueAfter (opening q ++ [.addQuery text q.index]) .runQueries w

theorem runText_follows (b : Backend σ) (q : Query) (text : Value) (t : Trace σ) :
    Follows b (runText b q text) t [.addQuery text q.index, .runQueries]
      (let v := b.valueAfter [.addQuery text q.index] .runQueries t.world
       .ok ⟨hasResponse v, v⟩) := by
  refine (Follows.note ..).bind fun u hu => (Follows.call ..).discard.bind fun v hv => ?_
  have world : v.world = b.worldAfter [.addQuery text q.index] t.world := by
    rw [hv, hu]
    rfl
  have answer : b.valueAfter [] .runQueries v.world =
      b.valueAfter [.addQuery text q.index] .runQueries t.world := by
    rw [world]
    rfl
  rw [← answer]
  exact (Follows.call .runQueries).bind fun _ _ => (Follows.note ..).bind fun _ _ => .pure _

theorem submit_follows {b : Backend σ} {q : Query} {t : Trace σ} {text : Value}
    (h : Query.text (escaped b q t.world) q.searchFields = .ok text) :
    Follows b (submit b q) t (schedule q text)
      (let v := response b q text t.world
       .ok ⟨hasResponse v, v⟩) := by
  rw [submit_eq, schedule, opening, List.append_assoc]
  refine (configure_follows b q t).bind fun u hu => ?_
  refine Follows.bind (h ▸ queryText_follows b q hu) fun v hv => ?_
  have answer : response b q text t.world =
      b.valueAfter [.addQuery text q.index] .runQueries v.world := by
    rw [hv, hu, ← Backend.worldAfter_append, response, Backend.valueAfter, Backend.valueAfter,
      Backend.answerAfter, Backend.worldAfter_append]
    rfl
  rw [answer]
  exact runText_follows b q text v

/-- Search fields that cannot be joined end a submission once the search text is escaped. -/
theorem submit_fails {b : Backend σ} {q : Query} {t : Trace σ} {f : Fault}
    (h : Query.text (escaped b q t.world) q.searchFields = .error f) :
    Follows b (submit b q) t (opening q) (.error f) := by
  rw [submit_eq, opening]
  refine (configure_follows b q t).bind fun u hu => ?_
  exact Follows.bind_error _ (h ▸ queryText_follows b q hu)

theorem submit_relays (b : Backend σ) (q : Query) : Relays b (submit b q) := by
  have filters : Relays b (sendFilters b q.filters) := by
    cases q.filters with
    | nil => exact .pure ()
    | cons g gs =>
      exact (Relays.debug _).bind fun _ => (Relays.call _).discard.bind fun _ =>
        (Relays.call _).discard
  have text : Relays b (queryText b q) := (Relays.call _).bind fun _ => .lift _
  exact (Relays.callIf _ _).bind fun _ => (Relays.callIf _ _).bind fun _ =>
    (Relays.callIf _ _).bind fun _ => filters.bind fun _ => (Relays.callIf _ _).bind fun _ =>
    text.bind fun _ => (Relays.debug _).bind fun _ => (Relays.call _).discard.bind fun _ =>
    (Relays.call _).bind fun _ => (Relays.debug _).bind fun _ => .pure _

theorem submit_accounts (b : Backend σ) (q : Query) : Accounts b (submit b q) :=
  (submit_relays b q).accounts

/-- An execution makes the calls of its schedule up to the first that is not answered, and nothing
after it; a connection that is refused makes none. -/
theorem execute_makes_schedule (q : Query) (fields : List String)
    (hf : q.searchFields = fields.map .text) (t : Trace σ) :
    (∀ f : Failure, f.isFatal = false →
      let r := (execute (.refused f) q).runFrom t
      r.1 = .ok ⟨false, .null⟩ ∧ r.2.calls = t.calls ∧ r.2.world = t.world) ∧
    ∀ b : Backend σ,
      let calls := schedule q (Query.sentText fields (escaped b q t.world))
      let r := (execute (.opened b) q).runFrom t
      r.2.calls = t.calls ++ b.made calls t.world ∧
      (∀ f, b.fault? calls t.world = some f → r.1 = .error f) ∧
      (b.fault? calls t.world = none →
        b.made calls t.world = calls ∧
        ∃ v, b.answerAfter calls.dropLast .runQueries t.world = .ok v ∧
          ∃ success, r.1 = .ok ⟨success, v⟩ ∧ (success = true ↔ v ≠ .null)) := by
  refine ⟨?_, ?_⟩
  · intro f hfatal
    simp only [execute, hfatal]
    exact ⟨rfl, rfl, rfl⟩
  · intro b calls r
    have text : Query.text (escaped b q t.world) q.searchFields =
        .ok (Query.sentText fields (escaped b q t.world)) := by
      rw [hf, Query.text_map_text]
    have sent : Follows b (execute (.opened b) q) t calls _ := submit_follows text
    refine ⟨sent.calls, sent.stops, fun answered => ⟨Backend.made_of_answered answered, ?_⟩⟩
    have split : calls = calls.dropLast ++ [.runQueries] := by
      simp [calls, schedule]
    have last := Backend.answerAfter_of_answered (split ▸ answered)
    have value : b.valueAfter calls.dropLast .runQueries t.world =
        response b q (Query.sentText fields (escaped b q t.world)) t.world := by
      simp [calls, schedule, response]
    refine ⟨_, last, _, value ▸ (sent.ends answered).1, ?_⟩
    cases b.valueAfter calls.dropLast .runQueries t.world <;> simp [hasResponse]

/-- A backend that refuses the filter column gets the sort mode, the column and the refused call. -/
theorem execute_makes_schedule_refused_filter :
    let q : Query := {
      index := .text "books", search := .text "war", searchFields := [.text "title"],
      limit := .int 0, offset := .int 0, sortField := .text "year", sortMode := .null,
      fieldWeights := [], filters := [⟨"lang", [.int 1], 0⟩], matchMode := .int 0 }
    let down : Failure := ⟨.ordinary "OSError", "down"⟩
    let b : Backend Unit := ⟨fun c w =>
      ⟨match c with | .setFilter .. => .error (.failure down) | _ => .ok .null, [], w⟩⟩
    let r := (execute (.opened b) q).runFrom { world := () }
    q.searchFields = ["title"].map .text ∧
    r.1 = .error (.failure down) ∧
    r.2.calls = [.setSortMode (.int 0) (.text "year"),
      .addComputedColumn (.text (Filter.expression q.filters)) (.text "_filter"),
      .setFilter (.text "_filter") (.list [.int 1])] := by
  intro q down b r
  have fields : q.searchFields = ["title"].map .text := rfl
  have sent := (execute_makes_schedule q ["title"] fields { world := () }).2 b
  exact ⟨fields, sent.2.1 _ rfl, sent.1.trans rfl⟩

end Search

end Fulltext
