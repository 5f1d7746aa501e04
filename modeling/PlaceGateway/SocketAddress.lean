import PlaceGateway.Bytes
/-! Socket addresses: an IPv4 or an IPv6 address and a port. -/

namespace PlaceGateway

abbrev IPv4 := Nat × Nat × Nat × Nat

inductive SocketAddress where
  | v4 (address : IPv4) (port : Nat)
  | v6 (groups : List Nat) (scope port : Nat)
  deriving DecidableEq, Repr

namespace SocketAddress

def digit? (radix : Nat) (c : Char) : Option Nat :=
  let n :=
    if c.isDigit then c.toNat - 48
    else if 'a' ≤ c ∧ c ≤ 'z' then c.toNat - 87
    else if 'A' ≤ c ∧ c ≤ 'Z' then c.toNat - 55
    else radix
  if n < radix then some n else none

def number? (radix digits limit : Nat) (s : List Char) : Option (Nat × List Char) :=
  let run := s.takeWhile fun c => (digit? radix c).isSome
  let n := run.foldl (fun n c => n * radix + (digit? radix c).getD 0) 0
  if run = [] ∨ digits < run.length ∨ limit ≤ n then none else some (n, s.drop run.length)

def char? (c : Char) : List Char → Option (List Char)
  | d :: rest => if d = c then some rest else none
  | [] => none

def octet? (s : List Char) : Option (Nat × List Char) := do
  let (n, rest) ← number? 10 3 256 s
  if s.head? = some '0' ∧ rest.length + 1 < s.length then none else some (n, rest)

def ipv4? (s : List Char) : Option (IPv4 × List Char) := do
  let (a, s) ← octet? s
  let (b, s) ← octet? (← char? '.' s)
  let (c, s) ← octet? (← char? '.' s)
  let (d, s) ← octet? (← char? '.' s)
  return ((a, b, c, d), s)

def groupStart? (first : Bool) (s : List Char) : Option (List Char) :=
  if first then some s else char? ':' s

/-- At most `limit` groups, the last two of which may be an IPv4 address; tells whether they are. -/
def groups : Nat → Bool → List Char → List Nat × Bool × List Char
  | 0, _, s => ([], false, s)
  | limit + 1, first, s =>
    match groupStart? first s with
    | none => ([], false, s)
    | some start =>
      let mapped := if limit = 0 then none else ipv4? start
      match mapped with
      | some ((a, b, c, d), rest) => ([a * 256 + b, c * 256 + d], true, rest)
      | none =>
        match number? 16 4 65536 start with
        | none => ([], false, s)
        | some (g, rest) =>
          let (more, mapped, rest) := groups limit false rest
          (g :: more, mapped, rest)

/-- Two colons stand for at least one group of zeros, and the IPv4 form only for the last groups. -/
def ipv6? (s : List Char) : Option (List Nat × List Char) := do
  let (head, mapped, rest) := groups 8 true s
  if head.length = 8 then return (head, rest)
  if mapped then none
  let rest ← char? ':' (← char? ':' rest)
  let (tail, _, rest) := groups (7 - head.length) true rest
  return (head ++ List.replicate (8 - head.length - tail.length) 0 ++ tail, rest)

def port? (s : List Char) : Option (Nat × List Char) := do
  number? 10 s.length 65536 (← char? ':' s)

def v4? (s : List Char) : Option SocketAddress := do
  let (address, s) ← ipv4? s
  let (port, s) ← port? s
  if s = [] then some (v4 address port) else none

def scope? (s : List Char) : Option (Nat × List Char) :=
  match s with
  | '%' :: s => number? 10 s.length (2 ^ 32) s
  | s => some (0, s)

def v6? (s : List Char) : Option SocketAddress := do
  let (address, s) ← ipv6? (← char? '[' s)
  let (scope, s) ← scope? s
  let (port, s) ← port? (← char? ']' s)
  if s = [] then some (v6 address scope port) else none

def ofText? (text : String) : Option SocketAddress := (v4? text.toList).orElse fun _ => v6? text.toList

def complaint : String := "invalid socket address syntax"

def ipv4Text : IPv4 → String
  | (a, b, c, d) => ".".intercalate ([a, b, c, d].map toString)

def groupText (g : Nat) : String := String.ofList (Nat.toDigits 16 g)

def longestZeros : Nat → List Nat → Nat × Nat
  | _, [] => (0, 0)
  | i, groups@(_ :: rest) =>
    let here := (groups.takeWhile (· == 0)).length
    let later := longestZeros (i + 1) rest
    if here ≠ 0 ∧ later.2 ≤ here then (i, here) else later

def groupsText (groups : List Nat) : String := ":".intercalate (groups.map groupText)

/-- The longest run of at least two zero groups is left out. -/
def compressed (groups : List Nat) : String :=
  let (start, length) := longestZeros 0 groups
  if length < 2 then groupsText groups
  else groupsText (groups.take start) ++ "::" ++ groupsText (groups.drop (start + length))

/-- An address that stands for an IPv4 address shows it. -/
def ipv6Text : List Nat → String
  | [0, 0, 0, 0, 0, 0xFFFF, g, h] => "::ffff:" ++ ipv4Text (g / 256, g % 256, h / 256, h % 256)
  | groups => compressed groups

def text : SocketAddress → String
  | v4 address port => ipv4Text address ++ ":" ++ toString port
  | v6 groups 0 port => "[" ++ ipv6Text groups ++ "]:" ++ toString port
  | v6 groups scope port => "[" ++ ipv6Text groups ++ "%" ++ toString scope ++ "]:" ++ toString port

end SocketAddress

end PlaceGateway
