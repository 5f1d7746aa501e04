import PlaceGateway.Json.Value
import PlaceGateway.Text.Quoted
/-! Why a call fails, and how a failure is told to a caller. -/

namespace PlaceGateway

inductive InternalCause where
  | loaderPanicked (message : String)
  | unexpectedKind
  | other (message : String)
  deriving DecidableEq, Repr

/-- The loader is told without a number, as numbers of tasks mean nothing to a caller. -/
def InternalCause.message : InternalCause → String
  | loaderPanicked message =>
    "single-flight loader aborted: task N panicked with message " ++ Text.quoted message
  | unexpectedKind => "single-flight returned unexpected type"
  | other message => message

inductive CallError where
  | provider (operation : String) (status : Option Nat) (message : String)
  | invalidRequest (field reason : String)
  | emptyPayload (key : String)
  | internal (cause : InternalCause)
  | cancelled
  | deadlineExceeded
  | configuration (message : String)
  deriving DecidableEq, Repr

namespace CallError

def message : CallError → String
  | provider operation _ message => operation ++ " failed: " ++ message
  | invalidRequest field reason => "invalid request: " ++ field ++ " " ++ reason
  | emptyPayload key => "fetch returned empty result for key " ++ key
  | internal cause => "internal error: " ++ cause.message
  | cancelled => "request cancelled"
  | deadlineExceeded => "deadline exceeded"
  | configuration message => "configuration error: " ++ message

def kind : CallError → String
  | provider .. => "upstream_error"
  | invalidRequest .. => "invalid_request"
  | emptyPayload .. => "empty_payload"
  | internal .. => "internal_error"
  | cancelled => "cancelled"
  | deadlineExceeded => "deadline_exceeded"
  | configuration .. => "configuration_error"

/-- The HTTP status of the answer. Four statuses of the provider are passed on, and every other
failure of it is that of a bad gateway. -/
def status : CallError → Nat
  | provider _ (some code) _ => if code ∈ [400, 403, 404, 429] then code else 502
  | provider _ none _ => 502
  | invalidRequest .. => 400
  | cancelled => 499
  | deadlineExceeded => 504
  | emptyPayload .. | internal .. | configuration .. => 500

def isCancellation : CallError → Bool
  | cancelled | deadlineExceeded => true
  | _ => false

def isInvariantViolation : CallError → Bool
  | emptyPayload .. | internal .. => true
  | _ => false

def json (e : CallError) : Json :=
  .record [("error", .record
    [("code", .integer e.status), ("message", .text e.message), ("type", .text e.kind)])]

end CallError

inductive CacheError where
  | store (message : String)
  | redis (message : String)
  | configuration (message : String)
  | timeout
  deriving DecidableEq, Repr

def CacheError.message : CacheError → String
  | store message => "Cache store error: " ++ message
  | redis message => "Redis error: " ++ message
  | configuration message => "Cache configuration error: " ++ message
  | timeout => "Cache operation timeout"

end PlaceGateway
