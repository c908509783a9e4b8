import Fulltext.Proofs.Client.Frame

namespace Fulltext.Client

/-- A call to the adapter, and how the client behaves when it comes. -/
structure Turn where
  client : Behaviour
  call : Fulltext.Call

namespace Turn

def reply (turn : Turn) (s : State) : Reply State := (adapter turn.client).perform turn.call s

/-- The column that is appended: one that is asked for and not refused. -/
def column? (turn : Turn) (s : State) : Option String :=
  match turn.call, (turn.reply s).answer with
  | .addComputedColumn expr label, .ok _ => some (", " ++ expr.shown ++ " AS " ++ label.shown)
  | _, _ => none

end Turn

/-- A call that is not answered does not keep the next one from coming. -/
def play : List Turn → State → State
  | [], s => s
  | turn :: turns, s => play turns (turn.reply s).world

/-- The columns that are appended in turn. -/
def columns : List Turn → State → List String
  | [], _ => []
  | turn :: turns, s => (turn.column? s).toList ++ columns turns (turn.reply s).world

/-- The adapter refuses a column exactly if the client refuses the select list with it. -/
theorem column_refused_iff (b : Behaviour) (expr label : Value) (s : State) (f : Fault) :
    ((adapter b).perform (.addComputedColumn expr label) s).answer = .error f ↔
      b.answer (.setSelect (s.withColumn expr label)) = .error f := by
  rw [column_perform]
  cases b.answer (.setSelect (s.withColumn expr label)) <;> simp [Except.map]

namespace Turn

/-- What a turn does to the select list. -/
theorem select?_reply (turn : Turn) (s : State) :
    (turn.reply s).world.select? =
      match turn.column? s with
      | some column => some (.text (s.selected ++ column))
      | none => s.select? := by
  obtain ⟨b, c⟩ := turn
  have kept (other : c.isColumn = false) : ((adapter b).worldAfter [c] s).select? = s.select? :=
    select?_worldAfter b (by simpa using other) s
  cases c with
  | addComputedColumn expr label =>
    simp only [column?, reply, column_perform]
    cases b.answer (.setSelect (s.withColumn expr label)) with
    | error f => rfl
    | ok v => simp [Except.map, State.withColumn, String.append_assoc]
  | _ => exact kept rfl

theorem column?_ne_empty {turn : Turn} {s : State} {column : String}
    (h : turn.column? s = some column) : column ≠ "" := by
  rw [column?] at h
  split at h
  · cases h
    intro empty
    have lists := congrArg String.toList empty
    simp at lists
  · cases h

theorem column?_of_refused {turn : Turn} {s : State}
    (h : turn.call.isColumn = false ∨ ∃ f, (turn.reply s).answer = .error f) :
    turn.column? s = none := by
  rw [column?]
  split
  · next call answer =>
    rcases h with other | ⟨f, refused⟩
    · rw [call] at other
      cases other
    · rw [answer] at refused
      cases refused
  · rfl

end Turn

/-- All columns are selected at most once, by the first column that is accepted. -/
theorem select?_play (turns : List Turn) (s : State) :
    (play turns s).select? =
      if columns turns s = [] then s.select?
      else some (.text (s.selected ++ String.join (columns turns s))) := by
  induction turns generalizing s with
  | nil => rfl
  | cons turn turns ih =>
    have step := turn.select?_reply s
    rw [play, ih, columns]
    cases hc : turn.column? s with
    | none =>
      rw [hc] at step
      rw [selected_congr step, step]
      rfl
    | some column =>
      -- From here on the list is a text that is not empty, so it is never taken for all columns again.
      rw [hc] at step
      have nonempty : s.selected ++ column ≠ "" := by
        simp [Turn.column?_ne_empty hc]
      rw [selected_of_text step nonempty, step]
      by_cases last : columns turns (turn.reply s).world = []
      · simp [last]
      · simp [last, String.append_assoc]

theorem selected_of_initial (initial : Option String) (received : List Call) :
    (State.mk (initial.map .text) received).selected = (initial.filter (· ≠ "")).getD "*" := by
  cases initial with
  | none => rfl
  | some text =>
    by_cases empty : text = ""
    · rw [empty]
      rfl
    · rw [selected_of_text rfl empty]
      simp [Option.filter, empty]

/-- Whatever is asked of the adapter and however the client answers, the select list is what it was at
first until a column is accepted, and then that list, or all columns if it was empty or not there,
with the accepted columns after it in their order. No other call changes it, and no refused one; a
column is refused exactly if the client refuses the list with it. -/
theorem select_list_keeps_accepted_columns (initial : Option String) (received : List Call)
    (turns : List Turn) :
    let s : State := ⟨initial.map .text, received⟩
    let accepted := columns turns s
    (play turns s).select? =
      (if accepted = [] then initial.map .text
        else some (.text ((initial.filter (· ≠ "")).getD "*" ++ String.join accepted))) ∧
    (∀ (turn : Turn) (s : State),
      turn.call.isColumn = false ∨ (∃ f, (turn.reply s).answer = .error f) →
        (turn.reply s).world.select? = s.select?) ∧
    ∀ (b : Behaviour) (expr label : Value) (s : State) (f : Fault),
      ((adapter b).perform (.addComputedColumn expr label) s).answer = .error f ↔
        b.answer (.setSelect (s.withColumn expr label)) = .error f := by
  intro s accepted
  refine ⟨?_, fun turn s refused => ?_, column_refused_iff⟩
  · rw [select?_play, selected_of_initial]
  · have step := turn.select?_reply s
    rw [Turn.column?_of_refused refused] at step
    exact step

/-- The first column is refused, the second one turns the empty list into all columns, and the run
between them and the last one answers nothing. -/
example :
    let down : Fault := .failure ⟨.ordinary "OSError", "down"⟩
    let client : Behaviour := ⟨fun _ => .ok .null, false⟩
    let column (expr label : String) : Fulltext.Call := .addComputedColumn (.text expr) (.text label)
    (play [⟨{ client with answer := fun _ => .error down }, column "a" "x"⟩,
      ⟨client, column "b" "y"⟩, ⟨client, .runQueries⟩, ⟨client, column "c" "z"⟩]
      ⟨some (.text ""), []⟩).select? = some (.text "*, b AS y, c AS z") := rfl

end Fulltext.Client
