import Mathlib.Data.List.Forall2
import PlaceGateway.Proofs.Json.Numerals
import PlaceGateway.Proofs.Json.Texts
/-! The texts of JSON documents as they are scanned: each gives a draft and leaves what follows it. -/

namespace PlaceGateway.Json

open Draft (scanText)

variable {b : UInt8} {rest : Bytes} {n : Numeral} {j : Json} {d : Draft}

/-- The text of the document begins with neither a blank nor a closing bracket. -/
def Opens (j : Json) : Prop :=
  ∃ b bytes, Bytes.ofChars j.chars = b :: bytes ∧ Draft.isBlank b = false ∧ b ≠ 0x5D

/-- The text of the document is scanned as the draft, whatever follows it that is no part of a number. -/
structure Scans (j : Json) (d : Draft) : Prop where
  opens : Opens j
  scans : ∀ fuel rest, 2 * (Bytes.ofChars j.chars).length ≤ fuel → Stops rest →
    Draft.scanValue fuel (Bytes.ofChars j.chars ++ rest) = (d, some rest)

theorem Scans.of_succ (opens : Opens j)
    (scans : ∀ fuel rest, 2 * (Bytes.ofChars j.chars).length ≤ fuel + 1 → Stops rest →
      Draft.scanValue (fuel + 1) (Bytes.ofChars j.chars ++ rest) = (d, some rest)) : Scans j d := by
  refine ⟨opens, fun fuel rest enough stops => ?_⟩
  cases fuel with
  | zero =>
      rcases opens with ⟨b, bytes, front, _⟩
      rw [front, List.length_cons] at enough
      omega
  | succ fuel => exact scans fuel rest enough stops

theorem null_scans : Scans .null .null :=
  .of_succ ⟨_, _, rfl, by decide, by decide⟩ fun _ _ _ _ => rfl

theorem flag_scans (value : Bool) : Scans (.flag value) (.flag value) := by
  cases value with
  | false => exact .of_succ ⟨_, _, rfl, by decide, by decide⟩ fun _ _ _ _ => rfl
  | true => exact .of_succ ⟨_, _, rfl, by decide, by decide⟩ fun _ _ _ _ => rfl

theorem scanValue_mark {fuel : Nat} {pieces : List Piece} {left : Bytes}
    (scanned : scanText rest = (pieces, .ok left)) :
    Draft.scanValue (fuel + 1) (0x22 :: rest) = (.text (Piece.text? pieces), some left) := by
  rw [Draft.scanValue]
  simp [Draft.skipBlank, Draft.isBlank, Draft.isDigit, scanned]

theorem text_scans (text : String) : Scans (.text text) (.text (some text)) := by
  have front (rest : Bytes) := ofChars_quote text rest
  have whole : (Json.text text).chars = quote text := by rw [chars]
  apply Scans.of_succ
  · refine ⟨0x22, Bytes.ofChars (text.toList.flatMap escapeChar) ++ [0x22], ?_, by decide, by decide⟩
    rw [whole, ← List.append_nil (Bytes.ofChars (quote text)), front]
  · intro fuel rest _ _
    rcases scanText_quote text rest with ⟨pieces, scanned, is⟩
    rw [whole, front, scanValue_mark scanned, ← is]

theorem number_scans {sign : Bool} {cs : List Char}
    (text : j.chars = (if sign then ['-'] else []) ++ cs) (first : Decimal.StartsWithDigit cs)
    (scanned : Draft.scanNumber sign (Bytes.ofChars cs) = (.number n, some [])) : Scans j (.number n) := by
  apply Scans.of_succ
  · rw [Opens, text]
    exact opens_signed first
  · intro fuel rest _ stops
    rw [text, scanValue_signed first]
    exact (scanNumber_leaves scanned).2 rest stops

theorem integer_scans (i : Int) : Scans (.integer i) (.number
    ⟨decide (i < 0), (Nat.toDigits 10 i.natAbs).map fun c => c.toNat - '0'.toNat, [], none⟩) := by
  apply number_scans _ (toDigits_first i.natAbs) (scanNumber_toDigits _ _)
  rw [chars, toList_toString_int]

/-- Between brackets and braces there is a mark after each value, at which numbers stop. -/
theorem stops_cons (mark : Draft.isDigit b = false ∧ b ≠ 0x2E ∧ b ≠ 0x65 ∧ b ≠ 0x45) (rest : Bytes) :
    Stops (b :: rest) := by
  intro first head
  cases head
  exact mark

theorem scanItems_chars {item : Json} {items : List Json} {ds : List Draft}
    (each : List.Forall₂ Scans (item :: items) ds) (fuel : Nat) (rest : Bytes)
    (enough : 2 * (Bytes.ofChars (item.chars ++ tailChars items)).length ≤ fuel) :
    Draft.scanItems fuel (Bytes.ofChars (item.chars ++ tailChars items) ++ rest) = (ds, .ok rest) := by
  have closing : Bytes.ofChars (tailChars []) = [0x5D] := rfl
  -- Each item takes one unit of fuel and at least one byte, so the fuel lasts as long as the text.
  induction items generalizing item ds fuel with
  | nil =>
      rcases List.forall₂_cons_left_iff.mp each with ⟨d, ds, first, others, rfl⟩
      cases others
      rw [Bytes.ofChars_append, closing, List.length_append, List.length_singleton] at enough
      rw [Bytes.ofChars_append, closing, List.append_assoc]
      cases fuel with
      | zero => omega
      | succ fuel =>
          have value := first.scans fuel (0x5D :: rest) (by omega) (stops_cons (by decide) _)
          rw [Draft.scanItems]
          simp only [List.singleton_append, value]
          rfl
  | cons next items ih =>
      rcases List.forall₂_cons_left_iff.mp each with ⟨d, ds, first, others, rfl⟩
      have tail : Bytes.ofChars (tailChars (next :: items)) =
          0x2C :: Bytes.ofChars (next.chars ++ tailChars items) := by
        rw [tailChars, List.cons_append, Bytes.ofChars_cons_ascii (by decide)]
        rfl
      rw [Bytes.ofChars_append, tail, List.length_append, List.length_cons] at enough
      rw [Bytes.ofChars_append, tail, List.append_assoc]
      cases fuel with
      | zero => omega
      | succ fuel =>
          have value := first.scans fuel (0x2C :: Bytes.ofChars (next.chars ++ tailChars items) ++ rest) (by omega)
            (stops_cons (by decide) _)
          have later := ih others fuel (by omega)
          have comma (more : Bytes) : Draft.skipBlank (0x2C :: more) = 0x2C :: more := rfl
          rw [Draft.scanItems]
          simp only [List.cons_append] at value ⊢
          simp only [value, comma]
          rw [later]
          rfl

theorem scanValue_bracket {fuel : Nat} {items : List Draft} {left : Bytes} (visible : Draft.isBlank b = false)
    (unclosed : b ≠ 0x5D) (scanned : Draft.scanItems fuel (b :: rest) = (items, .ok left)) :
    Draft.scanValue (fuel + 1) (0x5B :: b :: rest) = (.list items none, some left) := by
  have skipped : Draft.skipBlank (b :: rest) = b :: rest := by simp [Draft.skipBlank, visible]
  have opened : Draft.skipBlank (0x5B :: b :: rest) = 0x5B :: b :: rest := rfl
  rw [Draft.scanValue]
  simp [opened, skipped, Draft.isDigit, unclosed, scanned]

theorem list_scans {items : List Json} {ds : List Draft} (each : List.Forall₂ Scans items ds) :
    Scans (.list items) (.list ds none) := by
  cases each with
  | nil => exact .of_succ ⟨_, _, rfl, by decide, by decide⟩ fun _ _ _ _ => rfl
  | @cons item d items ds first others =>
      have whole : Bytes.ofChars (Json.list (item :: items)).chars =
          0x5B :: Bytes.ofChars (item.chars ++ tailChars items) := by
        rw [chars, List.cons_append, Bytes.ofChars_cons_ascii (by decide)]
        rfl
      refine .of_succ ⟨_, _, whole, by decide, by decide⟩ fun fuel rest enough stops => ?_
      rw [whole, List.length_cons] at enough
      have scanned := scanItems_chars (.cons first others) fuel rest (by omega)
      rcases first.opens with ⟨b, bytes, front, visible, unclosed⟩
      rw [Bytes.ofChars_append, front, List.cons_append, List.cons_append] at scanned
      rw [whole, Bytes.ofChars_append, front, List.cons_append, List.cons_append, List.cons_append,
        scanValue_bracket visible unclosed scanned]

def MemberScans (m : String × Json) (found : Option String × Draft) : Prop := found.1 = some m.1 ∧ Scans m.2 found.2

theorem MemberScans.named {written : List (String × Json)} {found : List (Option String × Draft)}
    (scans : List.Forall₂ MemberScans written found) : ∀ f ∈ found, ∃ m ∈ written, f.1 = some m.1 := by
  induction scans with
  | nil => nofun
  | cons first _ ih =>
      rw [List.forall_mem_cons]
      refine ⟨⟨_, List.mem_cons_self, first.1⟩, fun f member => ?_⟩
      rcases ih f member with ⟨m, own, named⟩
      exact ⟨m, List.mem_cons_of_mem _ own, named⟩

theorem ofChars_member (m : String × Json) (cs : List Char) (rest : Bytes) :
    Bytes.ofChars (quote m.1 ++ ':' :: m.2.chars ++ cs) ++ rest = 0x22 ::
      (Bytes.ofChars (m.1.toList.flatMap escapeChar) ++ 0x22 :: 0x3A ::
        (Bytes.ofChars m.2.chars ++ (Bytes.ofChars cs ++ rest))) := by
  rw [List.append_assoc, Bytes.ofChars_append, List.append_assoc, ofChars_quote, List.cons_append,
    Bytes.ofChars_cons_ascii (by decide), Bytes.ofChars_append, List.cons_append, List.append_assoc]
  rfl

theorem length_member (m : String × Json) (cs : List Char) :
    (Bytes.ofChars m.2.chars).length + (Bytes.ofChars cs).length + 3 ≤
      (Bytes.ofChars (quote m.1 ++ ':' :: m.2.chars ++ cs)).length := by
  have length := congrArg List.length (ofChars_member m cs [])
  simp only [List.append_nil, List.length_cons, List.length_append] at length
  omega

theorem scanMembers_member {m : String × Json} {fuel : Nat} {cs : List Char} {mark : UInt8} {after : Bytes}
    (first : Scans m.2 d)
    (enough : 2 * (Bytes.ofChars (quote m.1 ++ ':' :: m.2.chars ++ cs)).length ≤ fuel + 1)
    (follows : Bytes.ofChars cs ++ rest = mark :: after) (stops : Stops (mark :: after))
    (visible : Draft.isBlank mark = false) :
    Draft.scanMembers (fuel + 1) (Bytes.ofChars (quote m.1 ++ ':' :: m.2.chars ++ cs) ++ rest) =
      if mark = 0x7D then ([(some m.1, d)], .ok after)
      else if mark = 0x2C then
        ((some m.1, d) :: (Draft.scanMembers fuel after).1,
          (Draft.scanMembers fuel after).2.mapError fun fault => { fault with named := .malformed })
      else ([(some m.1, d)], .error (.ofFault .malformed)) := by
  have length := length_member m cs
  have value := first.scans fuel (mark :: after) (by omega) stops
  have skipped : Draft.skipBlank (mark :: after) = mark :: after := by simp [Draft.skipBlank, visible]
  rcases scanText_quote m.1 (0x3A :: (Bytes.ofChars m.2.chars ++ (mark :: after))) with ⟨pieces, scanned, is⟩
  have opened (more : Bytes) : Draft.skipBlank (0x22 :: more) = 0x22 :: more := rfl
  have colon (more : Bytes) : Draft.skipBlank (0x3A :: more) = 0x3A :: more := rfl
  rw [ofChars_member, follows, Draft.scanMembers]
  simp only [opened, colon, ne_eq, not_true_eq_false, if_false, scanned, is, value, skipped]

theorem scanMembers_chars {m : String × Json} {members : List (String × Json)} {found : List (Option String × Draft)}
    (each : List.Forall₂ MemberScans (m :: members) found) (fuel : Nat) (rest : Bytes)
    (enough : 2 * (Bytes.ofChars (quote m.1 ++ ':' :: m.2.chars ++ memberTailChars members)).length ≤ fuel) :
    Draft.scanMembers fuel (Bytes.ofChars (quote m.1 ++ ':' :: m.2.chars ++ memberTailChars members) ++ rest) =
      (found, .ok rest) := by
  have closing : Bytes.ofChars (memberTailChars []) = [0x7D] := rfl
  induction members generalizing m found fuel with
  | nil =>
      rcases List.forall₂_cons_left_iff.mp each with ⟨f, found, ⟨named, first⟩, others, rfl⟩
      cases others
      have length := length_member m (memberTailChars [])
      cases fuel with
      | zero => omega
      | succ fuel =>
          rw [scanMembers_member first (by omega) (congrArg (· ++ rest) closing) (stops_cons (by decide) _) (by decide),
            ← named]
          rfl
  | cons next members ih =>
      rcases List.forall₂_cons_left_iff.mp each with ⟨f, found, ⟨named, first⟩, others, rfl⟩
      have tail : Bytes.ofChars (memberTailChars (next :: members)) =
          0x2C :: Bytes.ofChars (quote next.1 ++ ':' :: next.2.chars ++ memberTailChars members) := by
        rw [memberTailChars, List.cons_append, List.cons_append, Bytes.ofChars_cons_ascii (by decide)]
        rfl
      have follows : Bytes.ofChars (memberTailChars (next :: members)) ++ rest = 0x2C ::
          (Bytes.ofChars (quote next.1 ++ ':' :: next.2.chars ++ memberTailChars members) ++ rest) := by
        rw [tail, List.cons_append]
      have length := length_member m (memberTailChars (next :: members))
      rw [tail, List.length_cons] at length
      cases fuel with
      | zero => omega
      | succ fuel =>
          have later := ih others fuel (by omega)
          rw [scanMembers_member first (by omega) follows (stops_cons (by decide) _) (by decide), later, ← named]
          rfl

theorem scanValue_brace {fuel : Nat} {members : List (Option String × Draft)} {left : Bytes}
    (scanned : Draft.scanMembers fuel (0x22 :: rest) = (members, .ok left)) :
    Draft.scanValue (fuel + 1) (0x7B :: 0x22 :: rest) = (.record members none, some left) := by
  rw [Draft.scanValue]
  simp [Draft.skipBlank, Draft.isBlank, Draft.isDigit, scanned]

theorem record_scans {members : List (String × Json)} {found : List (Option String × Draft)}
    (each : List.Forall₂ MemberScans members found) : Scans (.record members) (.record found none) := by
  cases each with
  | nil => exact .of_succ ⟨_, _, rfl, by decide, by decide⟩ fun _ _ _ _ => rfl
  | @cons m f members found first others =>
      have whole : Bytes.ofChars (Json.record (m :: members)).chars =
          0x7B :: Bytes.ofChars (quote m.1 ++ ':' :: m.2.chars ++ memberTailChars members) := by
        rw [chars, List.cons_append, List.cons_append, Bytes.ofChars_cons_ascii (by decide)]
        rfl
      refine .of_succ ⟨_, _, whole, by decide, by decide⟩ fun fuel rest enough stops => ?_
      rw [whole, List.length_cons] at enough
      have scanned := scanMembers_chars (.cons first others) fuel rest (by omega)
      rw [whole, List.cons_append]
      rw [ofChars_member] at scanned ⊢
      exact scanValue_brace scanned

theorem Scans.ofBytes (scans : Scans j d) : Draft.ofBytes (Bytes.ofText j.render) = (d, some []) := by
  have whole := scans.scans (2 * (Bytes.ofChars j.chars).length + 2) [] (Nat.le_add_right _ _) nofun
  rw [List.append_nil] at whole
  rw [Draft.ofBytes, render, Bytes.ofText_ofList, whole]

end PlaceGateway.Json
