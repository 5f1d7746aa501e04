import PlaceGateway.CallError
import PlaceGateway.Table
import PlaceGateway.Time
/-! Call contexts: a cancellation token, which a context may share with others, and a deadline. -/

namespace PlaceGateway

abbrev TokenId := String

structure Token where
  parent : Option TokenId
  cancelled : Bool
  deriving DecidableEq, Repr

/-- Tokens in the order in which they were made, so that each comes after its parent. -/
abbrev Tokens := Table Token

namespace Tokens

def isCancelled (ts : Tokens) (id : TokenId) : Bool := (ts.get? id).any Token.cancelled

def root (ts : Tokens) (id : TokenId) : Tokens := ts.set id ⟨none, false⟩

def child (ts : Tokens) (parent id : TokenId) : Tokens :=
  ts.set id ⟨some parent, ts.isCancelled parent⟩

/-- Marks the token, and each token whose parent is among the marked ones. -/
def mark (id : TokenId) : List TokenId → List (TokenId × Token) → List (TokenId × Token)
  | _, [] => []
  | marked, (own, token) :: rest =>
    if own = id ∨ token.parent.any (marked.contains ·) then
      (own, { token with cancelled := true }) :: mark id (own :: marked) rest
    else (own, token) :: mark id marked rest

def cancel (ts : Tokens) (id : TokenId) : Tokens := ⟨mark id [] ts.entries⟩

end Tokens

structure CallContext where
  token : TokenId
  deadline : Option Instant
  deriving DecidableEq, Repr

inductive Choice where
  | cancellation
  | deadline
  deriving DecidableEq, Repr

namespace CallContext

def withDeadline (ctx : CallContext) (t : Instant) : CallContext :=
  { ctx with deadline := some (match ctx.deadline with
    | some earlier => min earlier t
    | none => t) }

def withTimeout? (ctx : CallContext) (now : Instant) (d : Duration) : Option CallContext :=
  (Instant.add? now d).map ctx.withDeadline

def child (ctx : CallContext) (token : TokenId) : CallContext := { ctx with token }

/-- Why the context is done, to the nanosecond. -/
def check (ctx : CallContext) (ts : Tokens) (now : Instant) : Option CallError :=
  if ts.isCancelled ctx.token then some .cancelled
  else if ctx.deadline.any (· ≤ now) then some .deadlineExceeded
  else none

/-- The signal that a waiting caller sees. The deadline is seen when its timer fires. -/
def done? (ctx : CallContext) (choice : Choice) (ts : Tokens) (now : Instant) : Option CallError :=
  match ts.isCancelled ctx.token, ctx.deadline.any (Instant.hasFired now), choice with
  | true, true, .deadline => some .deadlineExceeded
  | true, _, _ => some .cancelled
  | false, true, _ => some .deadlineExceeded
  | false, false, _ => none

/-- What a caller has that waits for work: a done context wins over finished work. -/
def run? {α : Type} (ctx : CallContext) (choice : Choice) (ts : Tokens) (now : Instant)
    (work : Option (Except CallError α)) : Option (Except CallError α) :=
  match ctx.done? choice ts now with
  | some e => some (.error e)
  | none => work

end CallContext

end PlaceGateway
