import Fulltext.Backend.Call
import Fulltext.Fault
import Fulltext.Log.Level

namespace Fulltext

/-- What a backend does with a call: its answer, the records it logs, and its world afterwards. -/
structure Reply (σ : Type) where
  answer : Except Fault Value
  log : List Log.Record
  world : σ

structure Backend (σ : Type) where
  perform : Call → σ → Reply σ

/-- The world of the backend with everything asked of it and everything logged. -/
structure Trace (σ : Type) where
  world : σ
  calls : List Call := []
  log : List Log.Record := []

abbrev Session (σ α : Type) := ExceptT Fault (StateM (Trace σ)) α

namespace Session

variable {σ α : Type}

/-- What a session gives and the trace it leaves. -/
def runFrom (s : Session σ α) (t : Trace σ) : Except Fault α × Trace σ := s.run.run t

/-- The call is on the trace whether or not it is answered. -/
def call (b : Backend σ) (c : Call) : Session σ Value := fun t =>
  let r := b.perform c t.world
  (r.answer, { world := r.world, calls := t.calls ++ [c], log := t.log ++ r.log })

def note (level : Log.Level) (message : String) : Session σ Unit := fun t =>
  (.ok (), { t with log := t.log ++ [⟨level, message⟩] })

/-- Make a call only if it is due. -/
def callIf (due : Bool) (b : Backend σ) (c : Call) : Session σ Unit :=
  if due then discard (call b c) else pure ()

end Session

end Fulltext
