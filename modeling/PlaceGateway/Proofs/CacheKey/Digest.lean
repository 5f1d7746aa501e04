import Mathlib.Data.List.Basic
import PlaceGateway.CacheKey
/-! What a key tells about the parts of a request, if their digests do not collide: the parts, cut at
every U+0000. -/

namespace PlaceGateway

namespace Bytes

theorem hexDigit_injective {m n : Nat} (first : m < 16) (second : n < 16)
    (same : hexDigit m = hexDigit n) : m = n := by
  have checked : ∀ m < 16, ∀ n < 16, hexDigit m = hexDigit n → m = n := by decide
  exact checked m first n second same

theorem hex_injective {a b : Bytes} (same : a.hex = b.hex) : a = b := by
  have digits := String.ofList_injective same
  clear same
  induction a generalizing b with
  | nil =>
      cases b with
      | nil => rfl
      | cons y b => cases digits
  | cons x a ih =>
      cases b with
      | nil => cases digits
      | cons y b =>
          simp only [List.flatMap_cons, List.cons_append, List.nil_append, List.cons.injEq] at digits
          obtain ⟨high, low, rest⟩ := digits
          have small (z : UInt8) : z.toNat / 16 < 16 ∧ z.toNat % 16 < 16 := by
            have bound := z.toNat_lt
            omega
          have high := hexDigit_injective (small x).1 (small y).1 high
          have low := hexDigit_injective (small x).2 (small y).2 low
          have byte : x = y := UInt8.toNat_inj.mp (by omega)
          rw [byte, ih rest]

theorem ofText_append (s t : String) : ofText (s ++ t) = ofText s ++ ofText t := by
  simp [ofText]

theorem ofText_injective {s t : String} (same : ofText s = ofText t) : s = t := by
  have bytes : s.toByteArray.data = t.toByteArray.data := Array.toList_inj.mp same
  exact String.toByteArray_inj.mp (ByteArray.ext bytes)

end Bytes

namespace CacheKey

def IsPlain (text : String) : Prop := '\x00' ∉ text.toList
  deriving Decidable

theorem IsPlain.append {s t : String} (front : IsPlain s) (back : IsPlain t) : IsPlain (s ++ t) := by
  intro member
  rw [String.toList_append] at member
  rcases List.mem_append.mp member with inside | inside
  · exact front inside
  · exact back inside

def marked (parts : List String) : List Char := parts.flatMap fun part => '\x00' :: part.toList

/-- The parts, cut at every U+0000 in them. -/
def segments (parts : List String) : List (List Char) :=
  parts.flatMap fun part => part.toList.splitOn '\x00'

theorem digestInput_eq (parts : List String) :
    digestInput parts = Bytes.ofText (String.ofList (marked parts)) := by
  induction parts with
  | nil => rfl
  | cons part parts ih =>
      have front : marked (part :: parts) = ['\x00'] ++ part.toList ++ marked parts := rfl
      rw [front, String.ofList_append, String.ofList_append, Bytes.ofText_append, Bytes.ofText_append,
        ← ih, String.ofList_toList]
      rfl

theorem splitOn_append_marked (front : List Char) (parts : List String) :
    (front ++ marked parts).splitOn '\x00' = front.splitOn '\x00' ++ segments parts := by
  induction parts generalizing front with
  | nil => simp [marked, segments]
  | cons part parts ih =>
      have first : marked (part :: parts) = '\x00' :: (part.toList ++ marked parts) := rfl
      rw [first, List.splitOn_append_cons_self, ih]
      rfl

theorem splitOn_marked (parts : List String) : (marked parts).splitOn '\x00' = [] :: segments parts :=
  splitOn_append_marked [] parts

theorem digestInput_eq_iff (parts parts' : List String) :
    digestInput parts = digestInput parts' ↔ segments parts = segments parts' := by
  rw [digestInput_eq, digestInput_eq]
  constructor
  · intro same
    have chars : marked parts = marked parts' := String.ofList_injective (Bytes.ofText_injective same)
    have cuts := congrArg (List.splitOn '\x00') chars
    rw [splitOn_marked, splitOn_marked] at cuts
    exact (List.cons.inj cuts).2
  · intro same
    have chars : marked parts = marked parts' := by
      have joined (parts : List String) : ['\x00'].intercalate ([] :: segments parts) = marked parts := by
        rw [← splitOn_marked]
        exact List.intercalate_splitOn '\x00'
      rw [← joined parts, same, joined]
    rw [chars]

theorem segments_of_plain {parts : List String} (plain : ∀ part ∈ parts, IsPlain part) :
    segments parts = parts.map String.toList := by
  induction parts with
  | nil => rfl
  | cons part parts ih =>
      have later := ih fun other member => plain other (List.mem_cons_of_mem part member)
      rw [segments, List.flatMap_cons, List.splitOn_eq_singleton (plain part List.mem_cons_self)]
      exact congrArg (part.toList :: ·) later

theorem segments_eq_iff {parts parts' : List String} (plain : ∀ part ∈ parts, IsPlain part)
    (plain' : ∀ part ∈ parts', IsPlain part) :
    segments parts = segments parts' ↔ parts = parts' := by
  rw [segments_of_plain plain, segments_of_plain plain']
  exact List.map_inj_right fun _ _ => String.toList_inj.mp

end CacheKey

theorem KeySpace.key_eq_iff_digest (space : KeySpace) (operation : String) (parts parts' : List String) :
    space.key operation parts = space.key operation parts' ↔
      Sha256.digest (CacheKey.digestInput parts) = Sha256.digest (CacheKey.digestInput parts') := by
  rw [key, key, String.append_right_inj]
  constructor
  · exact fun same => Bytes.hex_injective same
  · exact fun same => congrArg Bytes.hex same

end PlaceGateway
