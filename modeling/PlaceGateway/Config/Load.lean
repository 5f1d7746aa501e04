import PlaceGateway.CallError
import PlaceGateway.Config.Document
import PlaceGateway.Config.Problem
import PlaceGateway.Config.Variable
/-! Loading: the document, the variables of the environment over it, and the check of the whole. -/

namespace PlaceGateway.Config

inductive FileContent where
  | missing
  | bytes (content : Bytes)
  deriving DecidableEq, Repr

def pathVariable : String := "PLACES_CONFIG_PATH"

def fail {α : Type} (message : String) : Except CallError α := .error (.configuration message)

def ofText (text : String) : Except CallError Config :=
  match ofYaml? text with
  | some c => .ok c
  | none => fail "Failed to parse config"

def unreadable {α : Type} (reason : String) : Except CallError α :=
  fail ("Failed to read config file: " ++ reason)

def ofFile (content : FileContent) : Except CallError Config :=
  match content with
  | .missing => unreadable "No such file or directory (os error 2)"
  | .bytes bytes =>
    match Bytes.text? bytes with
    | some text => ofText text
    | none => unreadable "stream did not contain valid UTF-8"

/-- All problems are told, each on its line. -/
def validate (c : Config) : Except CallError Unit :=
  if c.problems = [] then .ok ()
  else fail ("Configuration validation failed:\n" ++ "\n".intercalate (c.problems.map (·.message)))

def overrideError : Option OverrideError → Except CallError Unit
  | none => .ok ()
  | some e => fail e.message

def socketAddress (c : Config) : Except CallError SocketAddress :=
  match c.server.socketAddress? with
  | some address => .ok address
  | none => fail ("Invalid bind address: " ++ SocketAddress.complaint)

def metricsAddress (text : String) : Except CallError SocketAddress :=
  match SocketAddress.ofText? text with
  | some address => .ok address
  | none => fail ("Invalid metrics address '" ++ text ++ "': " ++ SocketAddress.complaint)

/-- Without a file the defaults are the start. -/
def load (file : Option FileContent) (lookup : String → Option String) : Except CallError Config := do
  let c ← match file with
    | some content => ofFile content
    | none => .ok {}
  let (c, failure) := c.override lookup
  overrideError failure
  c.validate
  return c

end PlaceGateway.Config
