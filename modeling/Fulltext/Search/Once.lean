import Fulltext.Search.Execution

namespace Fulltext.Search

/-- A query and the connections its uses will get, the first use the first, with the world that
each connection starts from. -/
structure Plan (σ : Type) where
  query : Query
  connect : Nat → σ → Connection σ × σ

/-- How far a search has come. -/
structure Progress (σ : Type) where
  connects : Nat
  outcome? : Option Outcome
  trace : Trace σ

/-- The uses of a search. -/
inductive Use where
  | execute | outcome | errorCode | countTotal | count | lastId | hasResponse | query
  deriving DecidableEq, Repr

/-- What a use answers. -/
inductive Answer where
  | value (v : Value)
  | flag (b : Bool)
  | outcome (o : Outcome)
  | query (q : Query)

variable {σ : Type}

def start (world : σ) : Progress σ := ⟨0, none, { world := world }⟩

/-- The outcome, run for if there is none yet. A fault leaves none, so the next use tries again. -/
def touch (p : Plan σ) (s : Progress σ) : Except Fault Outcome × Progress σ :=
  match s.outcome? with
  | some o => (.ok o, s)
  | none =>
    let (c, world) := p.connect s.connects s.trace.world
    match (execute c p.query).runFrom { s.trace with world := world } with
    | (.ok o, t) => (.ok o, ⟨s.connects + 1, some o, t⟩)
    | (.error f, t) => (.error f, ⟨s.connects + 1, none, t⟩)

/-- What a use reads off an outcome. -/
def Use.read (u : Use) (o : Outcome) : Except Fault Answer :=
  match u with
  | .errorCode => return .value (.int (← o.errorCode))
  | .countTotal => return .value (← o.countTotal)
  | .count => return .value (← o.count)
  | .lastId => return .value o.lastId
  | .outcome => return .outcome o
  | _ => return .value o.response

/-- One use of a search. Asking whether there is an outcome, or for the query, does not run it. -/
def use (p : Plan σ) (u : Use) (s : Progress σ) : Except Fault Answer × Progress σ :=
  match u with
  | .hasResponse => (.ok (.flag s.outcome?.isSome), s)
  | .query => (.ok (.query p.query), s)
  | u =>
    match touch p s with
    | (.ok o, s) => (u.read o, s)
    | (.error f, s) => (.error f, s)

end Fulltext.Search
