import PlaceGateway.Context
/-! Scripted runs of call contexts on a clock that moves only when told or awaited. -/

namespace PlaceGateway.Scenario.Context

inductive Work where
  | atOnce
  | after (d : Duration)
  | never

inductive Step where
  | make (id : String) (timeout : Option Duration)
  | tighten (id source : String) (timeout : Duration)
  | child (id source : String)
  | cancel (id : String)
  | advance (d : Duration)
  | check (id : String)
  | done (id : String)
  | run (id : String) (work : Work) (error : Option CallError)

inductive Reply where
  | nothing
  | ok
  | finished
  | stillWaiting
  | failed (error : CallError)

def Reply.ofResult : Except CallError Unit → Reply
  | .ok () => finished
  | .error e => failed e

structure State where
  now : Instant
  tokens : Tokens
  contexts : Table CallContext

structure Answer where
  reply : Reply
  context : Option (Bool × Option Instant)
  now : Instant

namespace State

def initial : State := ⟨0, .empty, .empty⟩

def patience : Duration := .ofSeconds 3600

def freshToken (s : State) : TokenId := toString s.tokens.size

def context (s : State) (id : String) : CallContext := (s.contexts.get? id).getD ⟨"", none⟩

def put (s : State) (id : String) (ctx : CallContext) : State :=
  { s with contexts := s.contexts.set id ctx }

def seen? (s : State) (ctx : CallContext) (due : Option Instant) (result : Except CallError Unit) :
    Option Reply :=
  (ctx.run? .cancellation s.tokens s.now
    (if due.any (Instant.hasFired s.now) then some result else none)).map .ofResult

def await (s : State) (ctx : CallContext) (due : Option Instant) (result : Except CallError Unit) :
    State × Reply :=
  match s.seen? ctx due result with
  | some reply => (s, reply)
  | none =>
    let timers := ctx.deadline.toList ++ due.toList
    let arrivals := timers.map (Instant.arrival s.now)
    let s := { s with now := arrivals.foldl min (Instant.arrival s.now (s.now + patience.nanos)) }
    (s, (s.seen? ctx due result).getD .stillWaiting)

def step (s : State) : Step → Option (State × Reply)
  | .make id timeout =>
    let ctx : CallContext := ⟨s.freshToken, none⟩
    let t := { s with tokens := s.tokens.root ctx.token }
    match timeout with
    | none => some (t.put id ctx, .nothing)
    | some d => (ctx.withTimeout? s.now d).map fun ctx => (t.put id ctx, .nothing)
  | .tighten id source d =>
    ((s.context source).withTimeout? s.now d).map fun ctx => (s.put id ctx, .nothing)
  | .child id source =>
    let parent := s.context source
    let ctx := parent.child s.freshToken
    some ({ s with tokens := s.tokens.child parent.token ctx.token }.put id ctx, .nothing)
  | .cancel id => some ({ s with tokens := s.tokens.cancel (s.context id).token }, .nothing)
  | .advance d => (Instant.add? s.now d).map fun now => ({ s with now }, .nothing)
  | .check id =>
    match (s.context id).check s.tokens s.now with
    | none => some (s, .ok)
    | some e => some (s, .failed e)
  | .done id => some (s.await (s.context id) none (.ok ()))
  | .run id work error =>
    let result := error.elim (.ok ()) .error
    match work with
    | .never => some (s.await (s.context id) none result)
    | .after d => (Instant.add? s.now d).map fun due => s.await (s.context id) (some due) result
    | .atOnce =>
      let seen := (s.context id).run? .cancellation s.tokens s.now (some result)
      some (s, .ofResult (seen.getD result))

def answer (s : State) (reply : Reply) (id : Option String) : Answer where
  reply
  context := (id.bind s.contexts.get?).map fun ctx => (s.tokens.isCancelled ctx.token, ctx.deadline)
  now := s.now

def named : Step → Option String
  | .make id _ | .tighten id _ _ | .child id _ | .cancel id | .check id | .done id | .run id _ _ => some id
  | .advance _ => none

def run (s : State) : List Step → Option (List Answer)
  | [] => some []
  | step :: rest => do
    let (s, reply) ← s.step step
    return s.answer reply (named step) :: (← s.run rest)

end State

end PlaceGateway.Scenario.Context
