import PlaceGateway.Flight
/-! Scripted runs of coalesced calls. A loader ends when it is released, or at once when its end is
told beforehand. -/

namespace PlaceGateway.Scenario.Flight

open PlaceGateway.Flight

structure ContextPlan where
  childOf : Option CallerId
  timeout : Option Duration
  cancelled : Bool

namespace ContextPlan

def context? (plan : ContextPlan) (now : Instant) (c : CallerId) (parent : Option CallContext) :
    Option CallContext :=
  let ctx : CallContext := match parent with
    | some p => p.child c
    | none => ⟨c, none⟩
  match plan.timeout with
  | none => some ctx
  | some d => ctx.withTimeout? now d

end ContextPlan

inductive Step (V : Type) where
  | call (c : CallerId) (key : String) (plan : ContextPlan) (out : Option (Outcome V))
  | release (c : CallerId) (out : Outcome V)
  | cancel (c : CallerId)
  | drop (c : CallerId)
  | advance (d : Duration)

inductive Result (V : Type) where
  | returned (result : Outcome V)
  | dropped

structure Answer (V : Type) where
  log : List String
  results : List (CallerId × Result V)
  waiting : Nat
  inFlight : Nat

variable {V : Type}

def isWaiting (s : State V) (c : CallerId) : Bool :=
  match s.calls.get? c with
  | some ⟨_, _, .waiting _⟩ => true
  | _ => false

def result? (s : State V) (c : CallerId) : Option (Result V) :=
  match s.calls.get? c with
  | some ⟨_, _, .returned result⟩ => some (.returned result)
  | some ⟨_, _, .dropped⟩ => some .dropped
  | _ => none

def ended (before after : State V) : List (CallerId × Result V) :=
  let new := after.calls.keys.filterMap fun c =>
    if (result? before c).isSome then none else (result? after c).map fun r => (c, r)
  new.mergeSort fun a b => decide (a.1 ≤ b.1)

def attempt (s : State V) (event : Event V) : State V := (s.step event).getD s

def settle (s : State V) : State V :=
  s.calls.keys.foldl (fun s c => attempt (attempt s (.giveUp c .cancellation)) (.receive c)) s

def isRunning (s : State V) (e : CallerId) : Bool :=
  match s.group.executions.get? e with
  | some ⟨_, .running⟩ => true
  | _ => false

def conclude (s : State V) (e : CallerId) (out : Outcome V) : State V :=
  attempt (attempt s (.finish e out)) (.release e)

def step (s : State V) : Step V → Option (State V × List String)
  | .call c key plan out => do
    let parent := (plan.childOf.bind s.calls.get?).map Call.context
    let ctx ← plan.context? s.now c parent
    let s := attempt s (.token c (parent.map CallContext.token))
    let s := if plan.cancelled then attempt s (.cancel c) else s
    let s := attempt s (.call c key ctx)
    if isRunning s c then
      match out with
      | some out => return (conclude s c out, ["load " ++ c, "loaded " ++ c])
      | none => return (s, ["load " ++ c])
    else return (s, [])
  | .release e out =>
    if isRunning s e then some (conclude s e out, ["loaded " ++ e]) else some (s, ["no load " ++ e])
  | .cancel c => some (if s.calls.contains c then attempt s (.cancel c) else s, [])
  | .drop c => some (attempt s (.drop c), [])
  | .advance d => (s.step (.advance d)).map fun s => (s, [])

def answer (before after : State V) (log : List String) : Answer V where
  log
  results := ended before after
  waiting := (after.calls.keys.filter (isWaiting after)).length
  inFlight := after.group.inFlight

def run (s : State V) : List (Step V) → Option (List (Answer V) × State V)
  | [] => some ([], s)
  | next :: rest => do
    let (after, log) ← step s next
    let after := settle after
    let (answers, last) ← run after rest
    return (answer s after log :: answers, last)

end PlaceGateway.Scenario.Flight
