import Fulltext.Client.Adapter

namespace Fulltext

/-- Rules for escaping a search text. -/
inductive Escaping where
  | unchanged
  | hyphen
  | operators
  | empty
  | nothing
  deriving DecidableEq, Repr

namespace Escaping

/-- The operators of the query language. -/
def isOperator (c : Char) : Bool := "=()|-!@~\"&/\\^$".toList.contains c

def escapeIf (p : Char → Bool) (s : String) : String :=
  String.ofList (s.toList.flatMap fun c => if p c then ['\\', c] else [c])

def apply (e : Escaping) (v : Value) : Except Fault Value :=
  match e, v with
  | unchanged, v => .ok v
  | hyphen, .text s => .ok (.text (escapeIf (· == '-') s))
  | hyphen, _ => .error (.operand .noSuchMember)
  | operators, .text s => .ok (.text (escapeIf isOperator s))
  | operators, _ => .error (.operand .notIterable)
  | empty, _ => .ok (.text "")
  | nothing, _ => .ok .null

end Escaping

/-- Methods are named as the backend or the client names them. -/
structure Script where
  response : Value := .null
  escaping : Escaping := .unchanged
  failure? : Option (String × Failure) := none
  missing : List Method := []

namespace Script

/-- The scripted failure of a method, if there is one. -/
def failureOf? (s : Script) (method : String) : Option Failure :=
  match s.failure? with
  | some (m, f) => if m = method then some f else none
  | none => none

/-- A backend that keeps the calls it offers an answer to. -/
def backend (s : Script) : Backend (List Call) where
  perform c received :=
    if s.missing.contains c.method then ⟨.error .notOffered, [], received⟩
    else
      let answer : Except Fault Value :=
        match s.failureOf? c.method.name, c with
        | some f, _ => .error (.failure f)
        | none, .escapeString text => s.escaping.apply text
        | none, .runQueries => .ok s.response
        | none, _ => .ok .null
      ⟨answer, [], received ++ [c]⟩

/-- A client that can tell `lastError?` if there is one. -/
def client (s : Script) (lastError? : Option Value) : Client.Behaviour where
  answer c :=
    match s.failureOf? c.method.name, c with
    | some f, _ => .error (.failure f)
    | none, .escapeString text => s.escaping.apply text
    | none, .runQueries => .ok s.response
    | none, .getLastError => .ok (lastError?.getD .null)
    | none, _ => .ok .null
  tellsLastError := lastError?.isSome

end Script

end Fulltext
