import PlaceGateway.CallError
import PlaceGateway.Text.Characters
/-! Log filters: directives between commas, each of which names a level, a target, or spans and the
level for them, such as `gateway=debug` or `[load\x7bkey=a.*\x7d]=info`. What the value of a field may be is told
by the library that compiles it. -/

namespace PlaceGateway.LogFilter

inductive DirectiveError where
  | shape
  | level
  | field (reason : String)
  deriving DecidableEq, Repr

def DirectiveError.message : DirectiveError → String
  | shape => "invalid filter directive"
  | level =>
    "error parsing level filter: expected one of \"off\", \"error\", \"warn\", \"info\", \"debug\", " ++
      "\"trace\", or a number 0-5"
  | field reason => "invalid field filter: " ++ reason

inductive Stage where
  | start
  | name
  | span (first : Nat)
  | field (first : Nat)
  | afterFields
  | afterSpan
  | level (first : Nat)
  deriving DecidableEq, Repr

def startsName (c : Char) : Bool := Text.isAlphanumeric c || c == '-' || c == ':' || c == '_'

/-- Offsets count from the first character that is no blank, and yet a part is cut from the whole directive.
No part is cut within a character. -/
def cut (directive : Bytes) (first past : Nat) : Except DirectiveError String :=
  match Bytes.text? (directive.take first), Bytes.text? ((directive.take past).drop first) with
  | some _, some part => .ok part
  | _, _ => .error .shape

def levelNames : List String := ["off", "error", "warn", "info", "debug", "trace"]

/-- A name in any case, a number up to five, or nothing at all. -/
def isLevel (text : String) : Bool :=
  let cs := text.toList
  let digits := if cs.head? = some '+' then cs.drop 1 else cs
  text = "" || levelNames.contains (String.ofList (cs.map Char.toLower)) ||
    (digits ≠ [] && digits.all Char.isDigit && Nat.ofDigitChars 10 digits 0 ≤ 5)

variable (compile : String → Except String Unit)

def checkField (field : String) : Except DirectiveError Unit :=
  if field = "" then .error .shape
  else match field.toList.splitOnP (· == '=') with
    | _ :: value :: _ => (compile (String.ofList value)).mapError .field
    | _ => .ok ()

def next (directive : Bytes) (s : Stage) (offset : Nat) (c : Char) : Except DirectiveError Stage := do
  match s with
  | .start => if c = '[' then return .span (offset + 1) else if startsName c then return .name else throw .shape
  | .name =>
    if c = '=' ∨ c = '[' then
      let _ ← cut directive 0 offset
      return if c = '=' then .level (offset + 1) else .span (offset + 1)
    else return .name
  | .span first =>
    if c = ']' ∨ c = '\x7b' then
      let _ ← cut directive first offset
      return if c = ']' then .afterSpan else .field (offset + 1)
    else return .span first
  | .field first =>
    if c = '\x7d' then
      checkField compile (← cut directive first offset)
      return .afterFields
    else return .field first
  | .afterFields => if c = ']' then return .afterSpan else throw .shape
  | .afterSpan => if c = '=' then return .level (offset + 1) else throw .shape
  | .level first => return .level first

def scan (directive : Bytes) (s : Stage) (offset : Nat) : List Char → Except DirectiveError Stage
  | [] => .ok s
  | c :: rest => do scan directive (← next compile directive s offset c) (offset + c.utf8Size) rest

def finish (directive : Bytes) (s : Stage) : Except DirectiveError Unit := do
  match s with
  | .name | .afterSpan => return
  | .level first => if isLevel (← cut directive first directive.length) then return else throw .level
  | .start | .span _ | .field _ | .afterFields => throw .shape

def checkDirective (text : List Char) : Except DirectiveError Unit := do
  let directive := Bytes.ofText (String.ofList text)
  finish directive (← scan compile directive .start 0 (Text.trimWhere Text.isBlank text))

def check (text : String) : Except DirectiveError Unit :=
  ((text.toList.splitOnP (· == ',')).filter (· ≠ [])).forM (checkDirective compile)

/-- The filter of the environment counts when there is one and it is right, and else the configured one. -/
def build (environment : Option String) (configured : String) : Except CallError Unit :=
  if environment.any fun text => (check compile text).toOption.isSome then .ok ()
  else (check compile configured).mapError fun e =>
    .configuration ("Invalid log level '" ++ configured ++ "': " ++ e.message)

end PlaceGateway.LogFilter
