import PlaceGateway.Json.Numeral
/-! A JSON text as a tree that keeps its problems at the places where a reader meets them. Some are
met only when a value is read and not when it is passed over, so whether a text is acceptable
depends on the shape it is read with. -/

namespace PlaceGateway.Json

/-- Why a text is refused: it is no JSON, it is not what was expected, or it ends too early. -/
inductive Fault where
  | malformed
  | mistyped
  | truncated
  deriving DecidableEq, Repr

/-- The fault met at one place by a reader of what stands there, by one that passes over it, and by
one that expects a name or the record of a single name. -/
structure Break where
  read : Fault
  passed : Fault
  named : Fault
  deriving DecidableEq, Repr

inductive Draft where
  | null
  | flag (value : Bool)
  | number (numeral : Numeral)
  | text (value : Option String)
  | list (items : List Draft) (ending : Option Fault)
  | record (members : List (Option String × Draft)) (ending : Option Break)
  | broken (fault : Break)
  deriving Repr

namespace Draft

def mismatch : Draft → Fault
  | text none => .malformed
  | number n => if n.number?.isSome then .mistyped else .malformed
  | broken fault => fault.read
  | _ => .mistyped

mutual

def passFault? : Draft → Option Fault
  | list items ending => (passItems? items).or ending
  | record members ending => (passMembers? members).or (ending.map Break.passed)
  | broken fault => some fault.passed
  | _ => none

def passItems? : List Draft → Option Fault
  | [] => none
  | item :: rest => item.passFault?.or (passItems? rest)

def passMembers? : List (Option String × Draft) → Option Fault
  | [] => none
  | m :: rest => m.2.passFault?.or (passMembers? rest)

end

end Draft

/-- A byte of a text literal, or a 16-bit unit written as an escape. -/
inductive Piece where
  | byte (value : UInt8)
  | unit (value : Nat)
  deriving DecidableEq, Repr

namespace Piece

def isHigh (u : Nat) : Bool := 0xD800 ≤ u && u ≤ 0xDBFF

def isLow (u : Nat) : Bool := 0xDC00 ≤ u && u ≤ 0xDFFF

def pair (high low : Nat) : Char := Char.ofNat ((high - 0xD800) * 1024 + (low - 0xDC00) + 0x10000)

/-- A surrogate is seen to have no partner. One at the very end may still get it. -/
def unpaired : List Piece → Bool
  | [] => false
  | byte _ :: rest => unpaired rest
  | unit u :: rest =>
    if isLow u then true
    else if isHigh u then
      match rest with
      | [] => false
      | unit v :: rest => if isLow v then unpaired rest else true
      | byte _ :: _ => true
    else unpaired rest

def bytes? : List Piece → Option Bytes
  | [] => some []
  | byte b :: rest => (bytes? rest).map (b :: ·)
  | unit u :: rest =>
    if isLow u then none
    else if isHigh u then
      match rest with
      | unit v :: rest =>
        if isLow v then (bytes? rest).map (Bytes.ofText (pair u v).toString ++ ·) else none
      | _ => none
    else (bytes? rest).map (Bytes.ofText (Char.ofNat u).toString ++ ·)

def text? (pieces : List Piece) : Option String := (bytes? pieces).bind Bytes.text?

end Piece

def Break.ofFault (fault : Fault) : Break := ⟨fault, fault, fault⟩

namespace Draft

def isBlank (b : UInt8) : Bool := b == 0x20 || b == 0x0A || b == 0x0D || b == 0x09

def skipBlank (s : Bytes) : Bytes := s.dropWhile isBlank

def isDigit (b : UInt8) : Bool := 0x30 ≤ b && b ≤ 0x39

def digitRun (s : Bytes) : List Nat × Bytes :=
  ((s.takeWhile isDigit).map fun b => b.toNat - 0x30, s.dropWhile isDigit)

def hexValue? (b : UInt8) : Option Nat :=
  if isDigit b then some (b.toNat - 0x30)
  else if 0x61 ≤ b ∧ b ≤ 0x66 then some (b.toNat - 0x57)
  else if 0x41 ≤ b ∧ b ≤ 0x46 then some (b.toNat - 0x37)
  else none

def unit? (a b c d : UInt8) : Option Nat := do
  return (((← hexValue? a) * 16 + (← hexValue? b)) * 16 + (← hexValue? c)) * 16 + (← hexValue? d)

def escaped? (b : UInt8) : Option UInt8 :=
  [(0x22, 0x22), (0x5C, 0x5C), (0x2F, 0x2F), (0x62, 0x08), (0x66, 0x0C), (0x6E, 0x0A), (0x72, 0x0D),
    (0x74, 0x09)].lookup b

def scanText : Bytes → List Piece × Except Fault Bytes
  | [] => ([], .error .truncated)
  | b :: rest =>
    if b = 0x22 then ([], .ok rest)
    else if b < 0x20 then ([], .error .malformed)
    else if b ≠ 0x5C then
      let (pieces, ending) := scanText rest
      (.byte b :: pieces, ending)
    else match rest with
      | [] => ([], .error .truncated)
      | e :: rest =>
        if e = 0x75 then
          match rest with
          | h1 :: h2 :: h3 :: h4 :: rest =>
            match unit? h1 h2 h3 h4 with
            | some u =>
              let (pieces, ending) := scanText rest
              (.unit u :: pieces, ending)
            | none => ([], .error .malformed)
          | _ => ([], .error .truncated)
        else match escaped? e with
          | some c =>
            let (pieces, ending) := scanText rest
            (.byte c :: pieces, ending)
          | none => ([], .error .malformed)

/-- The fault that a reader meets in a literal that is cut off with the given fault. -/
def readFault (pieces : List Piece) (fault : Fault) : Fault :=
  if Piece.unpaired pieces then .malformed else fault

def noDigits (rest : Bytes) : Draft × Option Bytes :=
  (broken ⟨if rest.isEmpty then .truncated else .malformed, .malformed, .malformed⟩, none)

def scanPower (numeral : Numeral) (s : Bytes) : Draft × Option Bytes :=
  match s with
  | [] => (number numeral, some [])
  | b :: rest =>
    if b = 0x65 ∨ b = 0x45 then
      let (negative, rest) := match rest with
        | [] => (false, [])
        | c :: tail => if c = 0x2B then (false, tail) else if c = 0x2D then (true, tail) else (false, rest)
      match digitRun rest with
      | ([], rest) => noDigits rest
      | (digits, rest) => (number { numeral with power := some (negative, digits) }, some rest)
    else (number numeral, some s)

def scanFraction (numeral : Numeral) (s : Bytes) : Draft × Option Bytes :=
  match s with
  | [] => (number numeral, some [])
  | b :: rest =>
    if b = 0x2E then
      match digitRun rest with
      | ([], rest) => noDigits rest
      | (digits, rest) => scanPower { numeral with fraction := digits } rest
    else scanPower numeral s

def scanNumber (negative : Bool) (s : Bytes) : Draft × Option Bytes :=
  match digitRun s with
  | ([], rest) => noDigits rest
  | (0 :: _ :: _, _) => (broken (.ofFault .malformed), none)
  | (digits, rest) => scanFraction ⟨negative, digits, [], none⟩ rest

def scanWord (value : Draft) : Bytes → Bytes → Draft × Option Bytes
  | [], rest => (value, some rest)
  | _ :: _, [] => (broken ⟨.truncated, .truncated, .malformed⟩, none)
  | w :: word, b :: rest => if b = w then scanWord value word rest else (broken (.ofFault .malformed), none)

mutual

def scanValue : Nat → Bytes → Draft × Option Bytes
  | 0, _ => (broken (.ofFault .truncated), none)
  | fuel + 1, s =>
    match skipBlank s with
    | [] => (broken (.ofFault .truncated), none)
    | b :: rest =>
      if b = 0x6E then scanWord null [0x75, 0x6C, 0x6C] rest
      else if b = 0x74 then scanWord (flag true) [0x72, 0x75, 0x65] rest
      else if b = 0x66 then scanWord (flag false) [0x61, 0x6C, 0x73, 0x65] rest
      else if b = 0x2D then scanNumber true rest
      else if isDigit b then scanNumber false (b :: rest)
      else if b = 0x22 then
        match scanText rest with
        | (pieces, .ok rest) => (text (Piece.text? pieces), some rest)
        | (pieces, .error fault) => (broken ⟨readFault pieces fault, fault, readFault pieces fault⟩, none)
      else if b = 0x5B then
        match skipBlank rest with
        | [] => (list [] (some .truncated), none)
        | c :: tail =>
          if c = 0x5D then (list [] none, some tail)
          else
            match scanItems fuel (c :: tail) with
            | (items, .ok rest) => (list items none, some rest)
            | (items, .error fault) => (list items (some fault), none)
      else if b = 0x7B then
        match skipBlank rest with
        | [] => (record [] (some (.ofFault .truncated)), none)
        | c :: tail =>
          if c = 0x7D then (record [] none, some tail)
          else
            match scanMembers fuel (c :: tail) with
            | (members, .ok rest) => (record members none, some rest)
            | (members, .error fault) => (record members (some fault), none)
      else (broken (.ofFault .malformed), none)

def scanItems : Nat → Bytes → List Draft × Except Fault Bytes
  | 0, _ => ([], .error .truncated)
  | fuel + 1, s =>
    match scanValue fuel s with
    | (item, none) => ([item], .error .malformed)
    | (item, some rest) =>
      match skipBlank rest with
      | [] => ([item], .error .truncated)
      | b :: rest =>
        if b = 0x5D then ([item], .ok rest)
        else if b = 0x2C then
          let (items, ending) := scanItems fuel rest
          (item :: items, ending)
        else ([item], .error .malformed)

def scanMembers : Nat → Bytes → List (Option String × Draft) × Except Break Bytes
  | 0, _ => ([], .error (.ofFault .truncated))
  | fuel + 1, s =>
    match skipBlank s with
    | [] => ([], .error (.ofFault .truncated))
    | b :: rest =>
      if b ≠ 0x22 then
        ([], .error ⟨.malformed, .malformed, (scanValue fuel (b :: rest)).1.mismatch⟩)
      else
        match scanText rest with
        | (pieces, .error fault) =>
          ([], .error ⟨readFault pieces fault, fault, readFault pieces fault⟩)
        | (pieces, .ok rest) =>
          match skipBlank rest with
          | [] => ([(Piece.text? pieces, broken (.ofFault .truncated))],
              .error (.ofFault .truncated))
          | c :: rest =>
            if c ≠ 0x3A then
              ([(Piece.text? pieces, broken (.ofFault .malformed))],
                .error (.ofFault .malformed))
            else
              match scanValue fuel rest with
              | (value, none) =>
                ([(Piece.text? pieces, value)], .error (.ofFault .malformed))
              | (value, some rest) =>
                match skipBlank rest with
                | [] => ([(Piece.text? pieces, value)], .error (.ofFault .truncated))
                | d :: rest =>
                  if d = 0x7D then ([(Piece.text? pieces, value)], .ok rest)
                  else if d = 0x2C then
                    let (members, ending) := scanMembers fuel rest
                    ((Piece.text? pieces, value) :: members,
                      ending.mapError fun fault => { fault with named := .malformed })
                  else ([(Piece.text? pieces, value)], .error (.ofFault .malformed))

end

def ofBytes (s : Bytes) : Draft × Option Bytes := scanValue (2 * s.length + 2) s

end Draft

end PlaceGateway.Json
