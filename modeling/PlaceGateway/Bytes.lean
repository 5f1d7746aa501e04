/-! Byte strings: the UTF-8 bytes of a text, the text of valid UTF-8 bytes, and hexadecimal digits. -/

-- Powers of natural numbers mean the same whatever else a module imports.
attribute [instance (20000), default_instance 20000] instPowNat

namespace PlaceGateway

abbrev Bytes := List UInt8

namespace Bytes

def ofText (text : String) : Bytes := text.toByteArray.data.toList

def text? (bytes : Bytes) : Option String := String.fromUTF8? ⟨bytes.toArray⟩

def hexDigit (n : Nat) : Char :=
  if n < 10 then Char.ofNat (48 + n) else Char.ofNat (87 + n)

def hex (bytes : Bytes) : String :=
  String.ofList (bytes.flatMap fun b => [hexDigit (b.toNat / 16), hexDigit (b.toNat % 16)])

/-- The length of a UTF-8 sequence that starts with this byte, and the least and greatest second byte. -/
def sequenceShape (lead : UInt8) : Option (Nat × UInt8 × UInt8) :=
  if 0xC2 ≤ lead ∧ lead ≤ 0xDF then some (2, 0x80, 0xBF)
  else if lead = 0xE0 then some (3, 0xA0, 0xBF)
  else if lead = 0xED then some (3, 0x80, 0x9F)
  else if 0xE1 ≤ lead ∧ lead ≤ 0xEF then some (3, 0x80, 0xBF)
  else if lead = 0xF0 then some (4, 0x90, 0xBF)
  else if 0xF1 ≤ lead ∧ lead ≤ 0xF3 then some (4, 0x80, 0xBF)
  else if lead = 0xF4 then some (4, 0x80, 0x8F)
  else none

def continuation (shape : Nat × UInt8 × UInt8) : Bytes → Nat
  | [] => 0
  | second :: rest =>
    if shape.2.1 ≤ second ∧ second ≤ shape.2.2 then
      1 + ((rest.take (shape.1 - 2)).takeWhile fun b => 0x80 ≤ b && b ≤ 0xBF).length
    else 0

/-- One valid character or one maximal invalid part from the front, and the bytes after it. -/
def splitLossy (lead : UInt8) (rest : Bytes) : Bytes × Bytes :=
  if lead < 0x80 then ([lead], rest)
  else match sequenceShape lead with
    | none => ([0xEF, 0xBF, 0xBD], rest)
    | some shape =>
      let count := continuation shape rest
      if count + 1 = shape.1 then (lead :: rest.take count, rest.drop count)
      else ([0xEF, 0xBF, 0xBD], rest.drop count)

theorem splitLossy_length_le (lead : UInt8) (rest : Bytes) :
    (splitLossy lead rest).2.length ≤ rest.length := by
  unfold splitLossy
  split
  · simp
  · split
    · simp
    · dsimp only
      split <;> simp

/-- Valid UTF-8 in which each maximal invalid part became U+FFFD. -/
def repaired : Bytes → Bytes
  | [] => []
  | lead :: rest =>
    (splitLossy lead rest).1 ++ repaired (splitLossy lead rest).2
termination_by bytes => bytes.length
decreasing_by
  have := splitLossy_length_le lead rest
  simp only [List.length_cons]
  omega

def textLossy (bytes : Bytes) : String := (text? (repaired bytes)).getD ""

end Bytes

end PlaceGateway
