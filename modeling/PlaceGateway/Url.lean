import PlaceGateway.Text.Characters
import PlaceGateway.Url.Host
/-! URLs: the parts of an absolute URL, how they are read, and how they are written. -/

namespace PlaceGateway

inductive Url.Path where
  | rootless (text : String)
  | rooted (segments : List String)
  deriving DecidableEq, Repr

/-- All parts are held as they are written, that is escaped. -/
structure Url where
  scheme : String
  username : String
  password : Option String
  host : Option Url.Host
  /-- Only a port that the scheme does not imply. -/
  port : Option Nat
  path : Url.Path
  query : Option String
  fragment : Option String
  deriving DecidableEq, Repr

namespace Url

def impliedPort? (scheme : String) : Option Nat :=
  [("http", 80), ("ws", 80), ("https", 443), ("wss", 443), ("ftp", 21)].lookup scheme

/-- The scheme names a host by its domain, and takes a backslash for a slash. -/
def isSpecial (scheme : String) : Bool := (impliedPort? scheme).isSome || scheme == "file"

def scheme? (cs : List Char) : Option (String × List Char) :=
  let name := cs.takeWhile fun c => c.isAlphanum || c == '+' || c == '-' || c == '.'
  match cs.drop name.length with
  | ':' :: rest =>
    if name.head?.any Char.isAlpha then some (String.ofList (name.map Char.toLower), rest) else none
  | _ => none

def isSlash (special : Bool) (c : Char) : Bool := c == '/' || (special && c == '\\')

def endsAuthority (special : Bool) (c : Char) : Bool := isSlash special c || c == '?' || c == '#'

structure Credentials where
  username : String
  password : Option String
  deriving DecidableEq, Repr

namespace Credentials

def none : Credentials := ⟨"", Option.none⟩

def ofText (cs : List Char) : Credentials :=
  let (username, password) := splitChar ':' cs
  let escaped (cs : List Char) := String.ofList (escape inUserinfo cs)
  ⟨escaped username, if password = [] then Option.none else some (escaped password)⟩

/-- Credentials end at the last at sign of the authority. -/
def split (special : Bool) (cs : List Char) : Except UrlError (Credentials × List Char) :=
  let authority := cs.takeWhile fun c => !endsAuthority special c
  let host := (authority.reverse.takeWhile (· != '@')).reverse
  if host = authority then .ok (none, cs)
  else
    let length := authority.length - host.length
    let rest := cs.drop length
    if length = 1 then
      if rest.head?.any (endsAuthority special) then .error .emptyHost else .ok (none, rest)
    else .ok (ofText (cs.take (length - 1)), rest)

end Credentials

def hostChars (special : Bool) : Bool → List Char → List Char
  | _, [] => []
  | bracket, c :: rest =>
    if endsAuthority special c || (!bracket && c == ':') then []
    else c :: hostChars special (c == '[' || (bracket && c != ']')) rest

def splitPort (scheme : String) (cs : List Char) : Except UrlError (Option Nat × List Char) :=
  let digits := cs.takeWhile Char.isDigit
  let rest := cs.drop digits.length
  let port := Nat.ofDigitChars 10 digits 0
  if 65535 < port ∨ rest.head?.any (fun c => !endsAuthority true c) then .error .port
  else .ok (if digits = [] ∨ impliedPort? scheme = some port then none else some port, rest)

def isDoubleDot (segment : List Char) : Bool :=
  ["..", ".%2e", "%2e.", "%2e%2e"].contains (String.ofList (segment.map Char.toLower))

def isSingleDot (segment : List Char) : Bool :=
  [".", "%2e"].contains (String.ofList (segment.map Char.toLower))

/-- The segments without dot segments, the last one first. -/
def resolve : List String → List (List Char) → List String
  | done, [] => done
  | done, segment :: rest =>
    if isDoubleDot segment then resolve ((if rest = [] then [""] else []) ++ done.drop 1) rest
    else if isSingleDot segment then resolve ((if rest = [] then [""] else []) ++ done) rest
    else resolve (String.ofList (escape inPath segment) :: done) rest

def rootedPath (special : Bool) (cs : List Char) : Path :=
  .rooted (resolve [] (cs.splitOnP (isSlash special))).reverse

def endsPath (c : Char) : Bool := c == '?' || c == '#'

def pathOf (special : Bool) (cs : List Char) : Path :=
  match cs.takeWhile fun c => !endsPath c with
  | [] => if special then .rooted [""] else .rooted []
  | c :: rest => rootedPath special (if isSlash special c then rest else c :: rest)

def trailer (special : Bool) (cs : List Char) : Option String × Option String :=
  let rest := cs.dropWhile fun c => !endsPath c
  let (query, fragment) := splitChar '#' rest
  (if query = [] then none else some (String.ofList (escape (inQuery special) (query.drop 1))),
    if rest.contains '#' then some (String.ofList (escape inFragment fragment)) else none)

def ofPath (scheme : String) (path : Path) (cs : List Char) : Url :=
  let (query, fragment) := trailer (isSpecial scheme) cs
  ⟨scheme, "", none, none, none, path, query, fragment⟩

def ofAuthority (scheme : String) (cs : List Char) : Except UrlError Url := do
  let special := isSpecial scheme
  let (credentials, cs) ← Credentials.split special cs
  let chars := hostChars special false cs
  let cs := cs.drop chars.length
  if special ∧ chars = [] then throw .emptyHost
  let host ← if special then Host.ofDomain chars else Host.ofText chars
  if host = .empty ∧ (cs.head? = some ':' ∨ credentials ≠ .none) then throw .emptyHost
  let (port, cs) ← if cs.head? = some ':' then splitPort scheme (cs.drop 1) else .ok (none, cs)
  let (query, fragment) := trailer special cs
  return ⟨scheme, credentials.username, credentials.password, some host, port, pathOf special cs,
    query, fragment⟩

def isDriveLetter : List Char → Bool
  | [c, d] => c.isAlpha && (d == ':' || d == '|')
  | _ => false

/-- A file has no credentials and no port, and its host may be empty. -/
def ofFile (cs : List Char) : Except UrlError Url := do
  let (slashes, afterSlashes) := (cs.take 2, cs.drop 2)
  if slashes.length = 2 ∧ slashes.all (isSlash true) then
    let chars := afterSlashes.takeWhile fun c => !endsAuthority true c
    let chars := if isDriveLetter chars then [] else chars
    let host ← if chars = [] then .ok Host.empty else Host.ofDomain chars
    let host := if host = .name "localhost" then Host.empty else host
    let rest := afterSlashes.drop chars.length
    return { ofPath "file" (pathOf true rest) rest with host := some host }
  else return { ofPath "file" (pathOf true cs) cs with host := some .empty }

/-- Control characters and blanks around the text are dropped, and line breaks and tabs within it. -/
def cleaned (text : String) : List Char :=
  (Text.trimWhere (fun c => c.toNat ≤ 32) text.toList).filter fun c => c != '\t' && c != '\n' && c != '\x0d'

def ofText (text : String) : Except UrlError Url :=
  match scheme? (cleaned text) with
  | none => .error .relative
  | some ("file", rest) => ofFile rest
  | some (scheme, rest) =>
    if isSpecial scheme then ofAuthority scheme (rest.dropWhile (isSlash true))
    else match rest with
      | '/' :: '/' :: rest => ofAuthority scheme rest
      | '/' :: rest => .ok (ofPath scheme (rootedPath false (rest.takeWhile fun c => !endsPath c)) rest)
      | rest =>
        let path := rest.takeWhile fun c => !endsPath c
        .ok (ofPath scheme (.rootless (String.ofList (escape [] path))) rest)

def Path.text : Path → String
  | rootless text => text
  | rooted segments => String.join (segments.map ("/" ++ ·))

def credentialsText (u : Url) : String :=
  let password := match u.password with
    | some password => ":" ++ password
    | none => ""
  if u.username ++ password = "" then "" else u.username ++ password ++ "@"

def authorityText (u : Url) (host : Host) : String :=
  let port := match u.port with
    | some port => ":" ++ toString port
    | none => ""
  "//" ++ u.credentialsText ++ host.text ++ port

/-- A path that begins with two slashes is told from an authority by a dot. -/
def hierarchyText (u : Url) : String :=
  match u.host, u.path with
  | some host, path => u.authorityText host ++ path.text
  | none, .rooted ("" :: rest@(_ :: _)) => "/." ++ Path.text (.rooted ("" :: rest))
  | none, path => path.text

def text (u : Url) : String :=
  let query := match u.query with
    | some query => "?" ++ query
    | none => ""
  let fragment := match u.fragment with
    | some fragment => "#" ++ fragment
    | none => ""
  u.scheme ++ ":" ++ u.hierarchyText ++ query ++ fragment

end Url

end PlaceGateway
