import Fulltext.Config.Expect
import Fulltext.Log.Level
import Fulltext.Query.Builder
import Fulltext.Text.Upper

namespace Fulltext

/-- Where log records go. -/
structure Runtime where
  level : Log.Level
  toFile : Bool
  dir : String
  action : String
  deriving DecidableEq, Repr

/-- Configured query defaults. -/
structure QueryConfig where
  index : Option String
  limit : Option Whole
  offset : Whole
  matchMode : Option MatchMode
  fieldWeights : List (String × Whole)
  deriving DecidableEq, Repr

structure Config where
  runtime : Runtime
  query : QueryConfig
  deriving DecidableEq, Repr

namespace Config

/-- A log section of the right types, whose level may name nothing. -/
structure RuntimeDraft where
  level : String
  toFile : Bool
  dir : String
  action : String
  deriving DecidableEq, Repr

/-- The value of a key, or the default of one that is not there. -/
def valueOf (es : Entries) (key : String) (default : Value) : Value :=
  (es.named? key).getD default

def readRuntime (raw : Value) : Except Fault RuntimeDraft := do
  let es ← sectionOf raw "log" false
  let level ← expectString (valueOf es "level" (.text "INFO")) "log.level"
  let toFile ← expectBool (valueOf es "to_file" (.bool false)) "log.to_file"
  let dir ← expectString (valueOf es "dir" (.text "log")) "log.dir"
  let action ← expectString (valueOf es "action" (.text "query")) "log.action"
  return ⟨Text.upper (Text.trim level), toFile, dir, Text.trim action⟩

/-- A match mode by name, in any case and between blanks, or by number. -/
def readMatchMode (v : Value) : Except Fault (Option MatchMode) :=
  match v with
  | .null => .ok none
  | .text s =>
    match MatchMode.ofName? (Text.upper (Text.trim s)) with
    | some m => .ok (some m)
    | none => .error (.config (.unknownModeName (MatchMode.every.map MatchMode.name)))
  | v => do
    let w ← expectInt v "query.match_mode"
    match MatchMode.ofNumber? w.number with
    | some m => return some m
    | none =>
      if Nat.pow 10 Reading.digitLimit ≤ w.number.natAbs then throw (.operand .malformedNumber)
      else throw (.config (.unknownModeNumber w.number))

def readQuery (raw : Value) : Except Fault QueryConfig := do
  let es ← sectionOf raw "query" false
  let index ← expectOptionalString (valueOf es "index" .null) "query.index"
  let limit ← expectOptionalInt (valueOf es "limit" .null) "query.limit"
  let offset ← expectInt (valueOf es "offset" (.int 0)) "query.offset"
  let matchMode ← readMatchMode (valueOf es "match_mode" .null)
  let fieldWeights ← expectIntMapping (valueOf es "field_weights" .null) "query.field_weights"
  return ⟨index, limit, offset, matchMode, fieldWeights⟩

/-- A log section whose level is known and, if there is to be a file, whose path is not blank. -/
def checkRuntime (d : RuntimeDraft) : Except Fault Runtime :=
  match Log.Level.ofName? d.level with
  | none => .error (.config (.unknownLevel Log.Level.sortedNames))
  | some level =>
    if d.toFile && Text.allBlank d.dir then .error (.config .emptyDir)
    else if d.toFile && d.action == "" then .error (.config .emptyAction)
    else .ok ⟨level, d.toFile, d.dir, d.action⟩

def checkWeights : List (String × Whole) → Except Fault Unit
  | [] => .ok ()
  | (name, w) :: ws =>
    if w.number ≤ 0 then .error (.config (.weightNotPositive name)) else checkWeights ws

/-- Query defaults in range. -/
def checkQuery (q : QueryConfig) : Except Fault Unit := do
  if q.limit.any (·.number < 0) then throw (.config .negativeLimit)
  if q.offset.number < 0 then throw (.config .negativeOffset)
  checkWeights q.fieldWeights

def parse (raw : Value) : Except Fault Config := do
  let runtime ← readRuntime raw
  let query ← readQuery raw
  let runtime ← checkRuntime runtime
  checkQuery query
  return ⟨runtime, query⟩

end Config

/-- The defaults that a builder starts from. -/
def QueryConfig.defaults (q : QueryConfig) : Defaults where
  index := q.index.elim .null .text
  limit := q.limit.elim .null Whole.value
  offset := q.offset.value
  matchMode := q.matchMode.elim .null .matchMode
  fieldWeights := q.fieldWeights.map fun e => (.text e.1, e.2.value)

/-- A builder with the configured defaults. -/
def Config.builder (c : Config) : Except Fault Builder :=
  Builder.ofDefaults c.query.defaults

end Fulltext
