import Fulltext.Text.Quoted

namespace Fulltext

/-- A value of a kind that the operation on it cannot use. -/
inductive OperandFault where
  | notIterable
  | notHashable
  | notOrdered
  | notSized
  | notIndexed
  | notJoinable
  | notNumeric
  | notPathText
  | notALevel
  | wrongArguments
  | wrongPairLength
  | malformedNumber
  | notANumber
  | unknownLevelText
  | infinite
  | noSuchMember
  | noSuchEntry
  deriving DecidableEq, Repr

/-- A filter group that says nothing. -/
inductive FilterFault where
  | blankAttribute
  | noValues (attr : String)
  deriving DecidableEq, Repr

/-- A page below zero. -/
inductive PageFault where
  | negativeLimit
  | negativeOffset
  deriving DecidableEq, Repr

/-- What a configuration value has to be. -/
inductive Expected where
  | object
  | string
  | boolean
  | integer
  deriving DecidableEq, Repr

inductive ConfigFault where
  | missing (key : String)
  | wrongType (key : String) (expected : Expected)
  | keysNotStrings (key : String)
  | unknownModeName (names : List String)
  | unknownModeNumber (number : Int)
  | unknownLevel (names : List String)
  | emptyDir
  | emptyAction
  | negativeLimit
  | negativeOffset
  | weightNotPositive (name : String)
  | rootNotMapping
  deriving DecidableEq, Repr

/-- A file that cannot be read, or cannot be made. -/
inductive FileFault where
  | missing
  | notADirectory
  | isADirectory
  | occupied
  | nameTooLong
  | nulInPath
  | notUtf8
  deriving DecidableEq, Repr

/-- A document that does not parse, one with a scalar that does not suit its tag, or one that is
nested too deeply or without end. -/
inductive DocumentFault where
  | malformed
  | unsuitableNumber
  | unsuitableTruth
  | emptyNumber
  | excessiveNumber
  | unsuitableTime
  | timeNotText
  | tooDeep
  deriving DecidableEq, Repr

/-- A `fatal` failure ends the program that meets it and is never turned into an outcome; a failed
`lookup` reports the name it missed in quotes. -/
inductive FailureKind where
  | fatal (name : String)
  | lookup
  | ordinary (name : String)
  deriving DecidableEq, Repr

/-- A failure raised outside this library: by a connector, a backend or a client. -/
structure Failure where
  kind : FailureKind
  message : String
  deriving DecidableEq, Repr

namespace Failure

def isFatal (f : Failure) : Bool :=
  match f.kind with
  | .fatal _ => true
  | _ => false

/-- The text of the failure in a log line. -/
def report (f : Failure) : String :=
  match f.kind with
  | .lookup => Text.quoted f.message
  | _ => f.message

end Failure

inductive Fault where
  | operand (f : OperandFault)
  | filter (f : FilterFault)
  | page (f : PageFault)
  | config (f : ConfigFault)
  | file (f : FileFault)
  | document (f : DocumentFault)
  | notOffered
  | failure (f : Failure)
  deriving DecidableEq, Repr

/-- Names in quotes between brackets. -/
def nameList (names : List String) : String :=
  "[" ++ ", ".intercalate (names.map Text.quoted) ++ "]"

def Expected.phrase : Expected → String
  | .object => "an object"
  | .string => "a string"
  | .boolean => "a boolean"
  | .integer => "an integer"

def FilterFault.message : FilterFault → String
  | .blankAttribute => "Filter attribute must not be empty"
  | .noValues attr => "Filter on " ++ attr ++ " must have at least one value"

def PageFault.message : PageFault → String
  | .negativeLimit => "limit must not be negative"
  | .negativeOffset => "offset must not be negative"

def ConfigFault.message : ConfigFault → String
  | .missing key => "Missing required config: " ++ key
  | .wrongType key expected => key ++ " must be " ++ expected.phrase
  | .keysNotStrings key => key ++ " keys must be strings"
  | .unknownModeName names => "query.match_mode must be one of " ++ nameList names
  | .unknownModeNumber n => "query.match_mode has unknown value: " ++ toString n
  | .unknownLevel names => "log.level must be one of " ++ nameList names
  | .emptyDir => "log.dir must not be empty when log.to_file=true"
  | .emptyAction => "log.action must not be empty when log.to_file=true"
  | .negativeLimit => "query.limit must be null or >= 0"
  | .negativeOffset => "query.offset must be >= 0"
  | .weightNotPositive name => "query.field_weights." ++ name ++ " must be positive"
  | .rootNotMapping => "Config root must be a mapping/object"

/-- The wording of the causes that have one. -/
def Fault.message? : Fault → Option String
  | .filter f => some f.message
  | .page f => some f.message
  | .config f => some f.message
  | .notOffered => some ""
  | .failure f => some f.message
  | .operand _ => none
  | .file _ => none
  | .document _ => none

theorem bind_eq_ok_iff {ε α β : Type} {x : Except ε α} {k : α → Except ε β} {b : β} :
    x >>= k = .ok b ↔ ∃ a, x = .ok a ∧ k a = .ok b := by
  cases x with
  | error f => simp [bind, Except.bind]
  | ok a => simp [bind, Except.bind]

theorem throw_unless_eq_ok_iff {ε α : Type} {p : Prop} [Decidable p] {e : ε}
    {k : PUnit → Except ε α} {a : α} :
    (if p then throw e >>= k else k ⟨⟩) = .ok a ↔ ¬p ∧ k ⟨⟩ = .ok a := by
  by_cases h : p
  · simp [h, throw, throwThe, MonadExceptOf.throw, bind, Except.bind]
  · simp [h]

end Fulltext
