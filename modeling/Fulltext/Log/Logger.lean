import Fulltext.Config.Basic
import Fulltext.Log.FileTree
import Fulltext.Log.Line

namespace Fulltext.Log

/-- Records at `level` and above are written, to the error stream or to a file. -/
inductive Handler where
  | stream (level : Int)
  | file (level : Int) (location : Location)
  deriving DecidableEq, Repr

def Handler.level : Handler → Int
  | stream level => level
  | file level _ => level

structure Logger where
  level : Int := 0
  propagate : Bool := true
  handlers : List Handler := []
  deriving DecidableEq, Repr

/-- The logger with everything it writes to. -/
structure Journal where
  logger : Logger := {}
  files : FileTree := {}
  errors : String := ""
  deriving DecidableEq, Repr

/-- What a level name stands for. -/
inductive LevelName where
  | level (number : Int)
  | formatText
  | styleTable
  deriving DecidableEq, Repr

/-- The names that are known, some of which are not names of levels. -/
def levelName? : String → Option LevelName
  | "CRITICAL" | "FATAL" => some (.level 50)
  | "ERROR" => some (.level 40)
  | "WARNING" | "WARN" => some (.level 30)
  | "INFO" => some (.level 20)
  | "DEBUG" => some (.level 10)
  | "NOTSET" => some (.level 0)
  | "BASIC_FORMAT" => some .formatText
  | "_STYLES" => some .styleTable
  | _ => none

/-- The number of a level named in any case; a name that is not known stands for INFO. -/
def levelOf (v : Value) : Except Fault Int :=
  match v.orElse (.text "INFO") with
  | .text s =>
    match levelName? (Text.upper s) with
    | some (.level n) => .ok n
    | some .formatText => .error (.operand .unknownLevelText)
    | some .styleTable => .error (.operand .notALevel)
    | none => .ok 20
  | .foreign (.bytes _) => .error (.operand .wrongArguments)
  | _ => .error (.operand .noSuchMember)

/-- How a logger is to be set up. -/
structure Setup where
  level : Value := .text "INFO"
  action : Value := .null
  toFile : Value := .bool false
  dir : Value := .text "log"
  deriving Repr

def pathOf : Value → Except Fault Path
  | .text s => .ok (.ofText s)
  | _ => .error (.operand .notPathText)

/-- The directory and the log file: the action names both, the moment only the file. -/
def logPaths (m : Moment) (dir action : Value) : Except Fault (Path × Path) := do
  let base ← pathOf (dir.orElse (.text "log"))
  let below ← pathOf action
  let dir := base.join below
  return (dir, dir.join (.ofText (action.shown ++ "_" ++ m.digits ++ ".log")))

/-- Open the log file if there is to be one. -/
def openLogFile (m : Moment) (s : Setup) (t : FileTree) :
    Except Fault (Option (Path × Location)) × FileTree :=
  if s.toFile.isSet && s.action.isSet then
    match logPaths m s.dir s.action with
    | .error f => (.error f, t)
    | .ok (dir, path) =>
      match t.makeDirs dir.slashes dir.parts.reverse with
      | (.error f, t) => (.error (.file f), t)
      | (.ok (), t) =>
        match t.openFile path with
        | .error f => (.error (.file f), t)
        | .ok (l, t) => (.ok (some (path, l)), t)
  else (.ok none, t)

/-- The logger of a set-up: a file gets every record from DEBUG on, whatever the stream gets. -/
def loggerFor (level : Int) : Option Location → Logger
  | none => ⟨level, false, [.stream level]⟩
  | some l => ⟨min Level.debug.number level, false, [.stream level, .file Level.debug.number l]⟩

/-- Set the logger up anew. The handlers are replaced only when nothing more can fail. -/
def configure (m : Moment) (s : Setup) (j : Journal) : Except Fault (Option Path) × Journal :=
  match levelOf s.level with
  | .error f => (.error f, j)
  | .ok level =>
    match openLogFile m s j.files with
    | (.error f, t) => (.error f, { j with files := t })
    | (.ok opened, t) =>
      (.ok (opened.map (·.1)),
        { j with logger := loggerFor level (opened.map (·.2)), files := t })

/-- The set-up that a configuration asks for. -/
def Setup.ofRuntime (r : Runtime) : Setup :=
  ⟨.text r.level.name, .text r.action, .bool r.toFile, .text r.dir⟩

/-- A logger without a level of its own takes the one of the loggers above it. -/
def Logger.effectiveLevel (l : Logger) : Int :=
  if l.level = 0 then Level.warning.number else l.level

def Logger.enabled (l : Logger) (level : Int) : Bool := 0 < level && l.effectiveLevel ≤ level

/-- Give a record to one handler. -/
def write (m : Moment) (level : Int) (message : String) (j : Journal) (h : Handler) : Journal :=
  if level < h.level then j
  else
    match h with
    | .stream _ => { j with errors := j.errors ++ line m level message }
    | .file _ l => { j with files := j.files.append l (line m level message) }

/-- A record goes to every handler; where there is none, the bare message of a warning or worse goes
to the error stream. -/
def emit (m : Moment) (level : Int) (message : String) (j : Journal) : Journal :=
  if !j.logger.enabled level then j
  else if j.logger.handlers.isEmpty then
    if Level.warning.number ≤ level then { j with errors := j.errors ++ message ++ "\n" } else j
  else j.logger.handlers.foldl (write m level message) j

end Fulltext.Log
