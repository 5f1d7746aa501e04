import PlaceGateway.Context
/-! Coalescing: callers of one key share one execution of a loader. The first caller starts it, later
ones join it until it ends, and each of them may give up without an effect on the others. -/

namespace PlaceGateway.Flight

/-- Callers have names, and an execution has the name of the caller that started it. -/
abbrev CallerId := String

abbrev Outcome (V : Type) := Except CallError V

instance decidableEqOutcome {V : Type} [DecidableEq V] : DecidableEq (Outcome V)
  | .ok a, .ok b => decidable_of_decidable_of_iff (p := a = b) ⟨congrArg _, Except.ok.inj⟩
  | .error a, .error b => decidable_of_decidable_of_iff (p := a = b) ⟨congrArg _, Except.error.inj⟩
  | .ok _, .error _ | .error _, .ok _ => isFalse nofun

def panicOutcome {V : Type} (message : String) : Outcome V := .error (.internal (.loaderPanicked message))

inductive Phase (V : Type) where
  | running
  | ending (outcome : Outcome V)
  | ended (outcome : Outcome V)
  deriving DecidableEq

structure Execution (V : Type) where
  key : String
  phase : Phase V
  deriving DecidableEq

/-- The executions ever started, and for each key the one that callers join. -/
structure Group (V : Type) where
  flights : Table CallerId
  executions : Table (Execution V)
  shared : Nat

variable {V : Type}

namespace Group

def empty : Group V := ⟨.empty, .empty, 0⟩

def inFlight (g : Group V) : Nat := g.flights.size

def enter (g : Group V) (c : CallerId) (key : String) : Group V × CallerId :=
  match g.flights.get? key with
  | some e => ({ g with shared := g.shared + 1 }, e)
  | none =>
    ({ g with flights := g.flights.set key c, executions := g.executions.set c ⟨key, .running⟩ }, c)

def finish? (g : Group V) (e : CallerId) (outcome : Outcome V) : Option (Group V) :=
  match g.executions.get? e with
  | some ⟨key, .running⟩ => some { g with executions := g.executions.set e ⟨key, .ending outcome⟩ }
  | _ => none

/-- Gives up the key, unless another execution holds it; from then on the outcome is delivered. -/
def release? (g : Group V) (e : CallerId) : Option (Group V) :=
  match g.executions.get? e with
  | some ⟨key, .ending outcome⟩ => some { g with
      flights := if g.flights.get? key = some e then g.flights.erase key else g.flights
      executions := g.executions.set e ⟨key, .ended outcome⟩ }
  | _ => none

def outcome? (g : Group V) (e : CallerId) : Option (Outcome V) :=
  match g.executions.get? e with
  | some ⟨_, .ended outcome⟩ => some outcome
  | _ => none

end Group

inductive CallPhase (V : Type) where
  | waiting (execution : CallerId)
  | returned (result : Outcome V)
  | dropped
  deriving DecidableEq

structure Call (V : Type) where
  key : String
  context : CallContext
  phase : CallPhase V
  deriving DecidableEq

structure State (V : Type) where
  now : Instant
  tokens : Tokens
  group : Group V
  calls : Table (Call V)

inductive Event (V : Type) where
  | token (id : TokenId) (parent : Option TokenId)
  | cancel (id : TokenId)
  | advance (d : Duration)
  | call (c : CallerId) (key : String) (context : CallContext)
  | finish (e : CallerId) (outcome : Outcome V)
  | panic (e : CallerId) (message : String)
  | release (e : CallerId)
  | receive (c : CallerId)
  | giveUp (c : CallerId) (choice : Choice)
  | drop (c : CallerId)

namespace State

def initial : State V := ⟨0, .empty, .empty, .empty⟩

def setPhase (s : State V) (c : CallerId) (call : Call V) (phase : CallPhase V) : State V :=
  { s with calls := s.calls.set c { call with phase } }

def token? (s : State V) (id : TokenId) (parent : Option TokenId) : Option (State V) :=
  if s.tokens.contains id then none
  else match parent with
    | none => some { s with tokens := s.tokens.root id }
    | some p =>
      if s.tokens.contains p then some { s with tokens := s.tokens.child p id } else none

def call? (s : State V) (c : CallerId) (key : String) (context : CallContext) : Option (State V) :=
  if s.calls.contains c || !s.tokens.contains context.token then none
  else match context.check s.tokens s.now with
    | some e => some { s with calls := s.calls.set c ⟨key, context, .returned (.error e)⟩ }
    | none =>
      let (group, e) := s.group.enter c key
      some { s with group, calls := s.calls.set c ⟨key, context, .waiting e⟩ }

def receive? (s : State V) (c : CallerId) : Option (State V) :=
  match s.calls.get? c with
  | some call =>
    match call.phase with
    | .waiting e =>
      if (call.context.done? .cancellation s.tokens s.now).isSome then none
      else (s.group.outcome? e).map fun outcome => s.setPhase c call (.returned outcome)
    | _ => none
  | none => none

def giveUp? (s : State V) (c : CallerId) (choice : Choice) : Option (State V) :=
  match s.calls.get? c with
  | some call =>
    match call.phase with
    | .waiting _ =>
      (call.context.done? choice s.tokens s.now).map fun e => s.setPhase c call (.returned (.error e))
    | _ => none
  | none => none

def drop? (s : State V) (c : CallerId) : Option (State V) :=
  match s.calls.get? c with
  | some call =>
    match call.phase with
    | .waiting _ => some (s.setPhase c call .dropped)
    | _ => none
  | none => none

def step (s : State V) : Event V → Option (State V)
  | .token id parent => s.token? id parent
  | .cancel id => some { s with tokens := s.tokens.cancel id }
  | .advance d => (Instant.add? s.now d).map fun now => { s with now }
  | .call c key context => s.call? c key context
  | .finish e outcome => (s.group.finish? e outcome).map fun group => { s with group }
  | .panic e message => (s.group.finish? e (panicOutcome message)).map fun group => { s with group }
  | .release e => (s.group.release? e).map fun group => { s with group }
  | .receive c => s.receive? c
  | .giveUp c choice => s.giveUp? c choice
  | .drop c => s.drop? c

def run (s : State V) : List (Event V) → Option (State V)
  | [] => some s
  | event :: rest => (s.step event).bind (·.run rest)

def result? (s : State V) (c : CallerId) : Option (Outcome V) :=
  match s.calls.get? c with
  | some ⟨_, _, .returned result⟩ => some result
  | _ => none

end State

end PlaceGateway.Flight
