import PlaceGateway.Bytes
/-! Percent-encoding, and the form encoding of a query. -/

namespace PlaceGateway.Url

def upperHexDigit (n : Nat) : Char :=
  if n < 10 then Char.ofNat (48 + n) else Char.ofNat (55 + n)

def escapeByte (b : UInt8) : List Char := ['%', upperHexDigit (b.toNat / 16), upperHexDigit (b.toNat % 16)]

/-- Characters beyond ASCII and control characters are always escaped. -/
def isControl (c : Char) : Bool := c.toNat < 32 || 126 < c.toNat

def escape (special : List Char) (cs : List Char) : List Char :=
  cs.flatMap fun c =>
    if isControl c || special.contains c then (Bytes.ofText c.toString).flatMap escapeByte else [c]

def inFragment : List Char := [' ', '"', '<', '>', '\x60']

def inPath : List Char := inFragment ++ ['#', '?', '\x7b', '\x7d']

def inUserinfo : List Char := inPath ++ ['/', ':', ';', '=', '@', '[', '\\', ']', '^', '|']

def inQuery (special : Bool) : List Char :=
  [' ', '"', '#', '<', '>'] ++ (if special then ['\x27'] else [])

def hexDigit? (b : UInt8) : Option Nat :=
  if 48 ≤ b ∧ b ≤ 57 then some (b.toNat - 48)
  else if 97 ≤ b ∧ b ≤ 102 then some (b.toNat - 87)
  else if 65 ≤ b ∧ b ≤ 70 then some (b.toNat - 55)
  else none

def escaped? (b h l : UInt8) : Option UInt8 :=
  if b = 37 then
    match hexDigit? h, hexDigit? l with
    | some h, some l => some (UInt8.ofNat (h * 16 + l))
    | _, _ => none
  else none

/-- A percent sign without two digits after it stands for itself. -/
def unescape : Bytes → Bytes
  | b :: h :: l :: rest =>
    match escaped? b h l with
    | some c => c :: unescape rest
    | none => b :: unescape (h :: l :: rest)
  | short => short

def isFormSafe (b : UInt8) : Bool :=
  (48 ≤ b && b ≤ 57) || (65 ≤ b && b ≤ 90) || (97 ≤ b && b ≤ 122) || b == 42 || b == 45 || b == 46 ||
    b == 95

/-- Letters, digits and `*-._` stand for themselves, and a plus sign for a blank. -/
def formByte (b : UInt8) : List Char :=
  if isFormSafe b then [Char.ofNat b.toNat] else if b = 32 then ['+'] else escapeByte b

def formText (text : String) : List Char := (Bytes.ofText text).flatMap formByte

def formPairs : List (String × String) → List Char
  | [] => []
  | [(name, value)] => formText name ++ '=' :: formText value
  | (name, value) :: rest => formText name ++ '=' :: formText value ++ '&' :: formPairs rest

def ofForm (cs : List Char) : String :=
  let plain := cs.map fun c => if c = '+' then ' ' else c
  Bytes.textLossy (unescape (Bytes.ofText (String.ofList plain)))

def splitChar (c : Char) (cs : List Char) : List Char × List Char :=
  (cs.takeWhile (· != c), (cs.dropWhile (· != c)).drop 1)

/-- The pairs of a form; a piece without an equals sign is a name. -/
def formPairsOf (cs : List Char) : List (String × String) :=
  ((cs.splitOnP (· == '&')).filter (· ≠ [])).map fun piece =>
    let (name, value) := splitChar '=' piece
    (ofForm name, ofForm value)

end PlaceGateway.Url
