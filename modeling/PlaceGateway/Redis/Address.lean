import PlaceGateway.Url
/-! Redis URLs: where a server is, and how one logs in to it. -/

namespace PlaceGateway.Redis

inductive Endpoint where
  | tcp (host : Url.Host) (port : Nat)
  | socket (path : Bytes)
  deriving DecidableEq, Repr

structure Address where
  endpoint : Endpoint
  database : Int
  username : Option String
  password : Option String
  deriving DecidableEq, Repr

inductive AddressError where
  | url
  | host
  | encryption
  | path
  | database
  | credentials
  deriving DecidableEq, Repr

namespace Address

def defaultPort : Nat := 6379

def database? (cs : List Char) : Option Int :=
  let (negative, digits) := match cs with
    | '-' :: rest => (true, rest)
    | '+' :: rest => (false, rest)
    | _ => (false, cs)
  if digits = [] ∨ ¬digits.all Char.isDigit then none
  else
    let n := Nat.ofDigitChars 10 digits 0
    if negative then if n ≤ 2 ^ 63 then some (-n) else none
    else if n < 2 ^ 63 then some n else none

def plain? (escaped : String) : Option String := Bytes.text? (Url.unescape (Bytes.ofText escaped))

def credential (escaped : Option String) : Except AddressError (Option String) :=
  match escaped with
  | none => .ok none
  | some text =>
    match plain? text with
    | some text => .ok (some text)
    | none => .error .credentials

def ofTcp (u : Url) : Except AddressError Address := do
  let host ← match u.host with
    | none | some .empty => throw .host
    | some host => pure host
  if u.scheme = "rediss" then throw .encryption
  let database ← match Text.trimWhere (· == '/') u.path.text.toList with
    | [] => pure 0
    | cs => match database? cs with
      | some n => pure n
      | none => throw .database
  let username ← credential (if u.username = "" then none else some u.username)
  let password ← credential u.password
  return ⟨.tcp host (u.port.getD defaultPort), database, username, password⟩

/-- A path that ends like a drive letter ends with a slash. -/
def filePath (path : Url.Path) : Bytes :=
  let bytes := Url.unescape (Bytes.ofText path.text)
  match bytes.reverse with
  | mark :: letter :: _ :: _ =>
    if (Char.ofUInt8 letter).isAlpha ∧ (mark = 0x3A ∨ mark = 0x7C) then bytes ++ [0x2F] else bytes
  | _ => bytes

def socketPath? (u : Url) : Option Bytes :=
  match u.host, u.path with
  | some (.v4 _), _ | some (.v6 _), _ => none
  | some (.name name), .rooted (s :: rest) =>
    if name = "localhost" then some (filePath (.rooted (s :: rest))) else none
  | some .empty, .rooted (s :: rest) | none, .rooted (s :: rest) => some (filePath (.rooted (s :: rest)))
  | _, _ => none

/-- Of two pairs of one name the last one counts. -/
def pair? (u : Url) (name : String) : Option String :=
  ((Url.formPairsOf (u.query.getD "").toList).reverse).lookup name

def ofSocket (u : Url) : Except AddressError Address := do
  let path ← match socketPath? u with
    | some path => pure path
    | none => throw .path
  let database ← match pair? u "db" with
    | none => pure 0
    | some text => match database? text.toList with
      | some n => pure n
      | none => throw .database
  return ⟨.socket path, database, pair? u "user", pair? u "pass"⟩

def ofUrl (u : Url) : Except AddressError Address :=
  if u.scheme = "redis" ∨ u.scheme = "rediss" then ofTcp u
  else if u.scheme = "unix" ∨ u.scheme = "redis+unix" then ofSocket u
  else .error .url

def ofText (text : String) : Except AddressError Address :=
  match Url.ofText text with
  | .ok u => ofUrl u
  | .error _ => .error .url

/-- Configured credentials count before those of the URL. -/
def withCredentials (a : Address) (username password : Option String) : Address :=
  { a with username := username.orElse fun _ => a.username, password := password.orElse fun _ => a.password }

/-- A Redis URL as it may be logged: stars stand for the password before the host. -/
def redacted (text : String) : String :=
  match Url.ofText text with
  | .error _ => "<invalid url>"
  | .ok u => { u with password := u.password.map fun _ => "***" }.text

end Address

end PlaceGateway.Redis
