import PlaceGateway.SocketAddress
import PlaceGateway.Url.Percent
/-! The host of a URL. -/

namespace PlaceGateway

inductive UrlError where
  | relative
  | emptyHost
  | port
  | ipv4
  | ipv6
  | domainName
  | hostCharacter
  deriving DecidableEq, Repr

def UrlError.message : UrlError → String
  | relative => "relative URL without a base"
  | emptyHost => "empty host"
  | port => "invalid port number"
  | ipv4 => "invalid IPv4 address"
  | ipv6 => "invalid IPv6 address"
  | domainName => "invalid international domain name"
  | hostCharacter => "invalid domain character"

namespace Url

inductive Host where
  | empty
  | name (text : String)
  | v4 (address : IPv4)
  | v6 (groups : List Nat)
  deriving DecidableEq, Repr

namespace Host

/-- A number of an IPv4 address: hexadecimal after `0x`, octal after `0`. -/
def number? (s : List Char) : Option Nat :=
  let value (radix : Nat) (s : List Char) : Option Nat :=
    s.foldl (fun n c => return (← n) * radix + (← SocketAddress.digit? radix c)) (some 0)
  match s with
  | [] => none
  | '0' :: 'x' :: rest | '0' :: 'X' :: rest => value 16 rest
  | '0' :: d :: rest => value 8 (d :: rest)
  | s => value 10 s

def labels (domain : List Char) : List (List Char) :=
  let labels := domain.splitOnP (· == '.')
  if labels.length ≠ 1 ∧ labels.getLast? = some [] then labels.dropLast else labels

def endsInNumber (domain : List Char) : Bool :=
  match (labels domain).getLast? with
  | some last => (last ≠ [] && last.all Char.isDigit) || (number? last).isSome
  | none => false

/-- The last number fills all bytes that the ones before it leave. -/
def ipv4? (domain : List Char) : Option IPv4 := do
  let numbers ← (labels domain).mapM number?
  let last ← numbers.getLast?
  let leading := numbers.dropLast
  if 3 < leading.length ∨ leading.any (255 < ·) ∨ 256 ^ (4 - leading.length) ≤ last then none
  let value := leading.foldr (fun n tail => n * 256 ^ 3 + tail / 256) 0 + last
  return (value / 256 ^ 3, value / 256 ^ 2 % 256, value / 256 % 256, value % 256)

def bracketed (s : List Char) : Except UrlError Host :=
  if s.getLast? = some ']' then
    match SocketAddress.ipv6? (s.drop 1).dropLast with
    | some (groups, []) => .ok (.v6 groups)
    | _ => .error .ipv6
  else .error .ipv6

def isOutsideHost (c : Char) : Bool := " #/:<>?@[\\]^|".toList.contains c || c == '\x00'

def isOutsideDomain (c : Char) : Bool :=
  isOutsideHost c || c.toNat < 32 || c == '\x7f' || c == '%'

/-- The host of a scheme whose hosts are domains. Letters beyond ASCII stand for themselves. -/
def domain (s : List Char) : Except UrlError Host :=
  match Bytes.text? (unescape (Bytes.ofText (String.ofList s))) with
  | none => .error .domainName
  | some text =>
    let name := text.toList.map Char.toLower
    if name.any isOutsideDomain then .error .domainName
    else if name = [] then .error .emptyHost
    else if endsInNumber name then
      match ipv4? name with
      | some address => .ok (.v4 address)
      | none => .error .ipv4
    else .ok (.name (String.ofList name))

def ofDomain (s : List Char) : Except UrlError Host :=
  if s.head? = some '[' then bracketed s else domain s

def ofText (s : List Char) : Except UrlError Host :=
  if s.head? = some '[' then bracketed s
  else if s = [] then .ok .empty
  else if s.any isOutsideHost then .error .hostCharacter
  else .ok (.name (String.ofList (escape [] s)))

def text : Host → String
  | empty => ""
  | name text => text
  | v4 address => SocketAddress.ipv4Text address
  | v6 groups => "[" ++ SocketAddress.compressed groups ++ "]"

end Host

end Url

end PlaceGateway
