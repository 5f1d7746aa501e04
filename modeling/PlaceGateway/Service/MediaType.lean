/-! Media types as requests declare them: a type, a subtype that may have a suffix, and parameters. -/

namespace PlaceGateway

structure MediaType where
  type : String
  subtype : String
  suffix : Option String
  deriving DecidableEq, Repr

namespace MediaType

def isTokenChar (c : Char) : Bool :=
  c.isAlphanum || "!#$%&'*+-.^_\x60|~".toList.contains c

def isQuotedChar (c : Char) : Bool := 31 < c.toNat && c.toNat < 127

inductive Stage where
  | start
  | name
  | valueStart
  | value
  | quoteStart
  | quoted
  | quoteEnd
  | refused
  deriving DecidableEq, Repr

def next (s : Stage) (c : Char) : Stage :=
  match s with
  | .start => if c = ' ' then .start else if isTokenChar c then .name else .refused
  | .name => if isTokenChar c then .name else if c = '=' then .valueStart else .refused
  | .valueStart => if c = '"' then .quoteStart else if isTokenChar c then .value else .refused
  | .value => if isTokenChar c then .value else if c = ';' then .start else .refused
  | .quoteStart => if isQuotedChar c then .quoted else .refused
  | .quoted => if c = '"' then .quoteEnd else if isQuotedChar c then .quoted else .refused
  | .quoteEnd => if c = ' ' then .quoteEnd else if c = ';' then .start else .refused
  | .refused => .refused

def isComplete (s : Stage) : Bool := [.start, .value, .valueStart, .quoteEnd].contains s

def areParameters (cs : List Char) : Bool := isComplete (cs.foldl next .start)

/-- The suffix follows the last plus sign that is not the first character. -/
def splitSuffix (subtype : List Char) : List Char × Option (List Char) :=
  let suffix := (subtype.reverse.takeWhile (· != '+')).reverse
  let length := subtype.length - suffix.length
  if length ≤ 1 then (subtype, none) else (subtype.take (length - 1), some suffix)

def lower (cs : List Char) : String := String.ofList (cs.map Char.toLower)

def ofText? (text : String) : Option MediaType :=
  let cs := text.toList
  let type := cs.takeWhile isTokenChar
  let rest := (cs.drop type.length).drop 1
  let subtype := rest.takeWhile isTokenChar
  if type = [] ∨ cs[type.length]? ≠ some '/' then none
  else
    let (base, suffix) := splitSuffix subtype
    let result : MediaType := ⟨lower type, lower base, suffix.map lower⟩
    match rest.drop subtype.length with
    | [] => some result
    | ';' :: parameters => if subtype ≠ [] ∧ areParameters parameters then some result else none
    | _ => none

def isJson (m : MediaType) : Bool :=
  m.type = "application" && (m.subtype = "json" || m.suffix = some "json")

end MediaType

end PlaceGateway
