import PlaceGateway.Json.Value
import Mathlib.Data.List.Nodup
/-! How the characters of a text are written. What is written of one character never begins what is written of
another, so a text is told by its literal. -/

namespace PlaceGateway.Json

variable {c d : Char} {a b rest rest' : List Char} {s t : String}

def shortEscapes : List (Char × Char) :=
  [('"', '"'), ('\\', '\\'), ('\x08', 'b'), ('\x0c', 'f'), ('\n', 'n'), ('\x0d', 'r'), ('\t', 't')]

theorem escapeChar_cases (c : Char) : (∃ d, (c, d) ∈ shortEscapes ∧ escapeChar c = ['\\', d]) ∨
    (c.toNat < 32 ∧ escapeChar c =
      ['\\', 'u', '0', '0', Bytes.hexDigit (c.toNat / 16), Bytes.hexDigit (c.toNat % 16)]) ∨
    (32 ≤ c.toNat ∧ c ≠ '"' ∧ c ≠ '\\' ∧ escapeChar c = [c]) := by
  by_cases marked : c ∈ shortEscapes.map Prod.fst
  · have escapes : ∀ m ∈ shortEscapes, escapeChar m.1 = ['\\', m.2] := by decide
    rcases List.mem_map.mp marked with ⟨⟨c, d⟩, member, rfl⟩
    exact .inl ⟨d, member, escapes _ member⟩
  · have unmarked := marked
    simp only [shortEscapes, List.map_cons, List.map_nil, List.mem_cons, List.not_mem_nil, or_false,
      not_or] at unmarked
    rcases unmarked with ⟨quotes, backslash, backspace, feed, line, carriage, tab⟩
    right
    rw [escapeChar, if_neg quotes, if_neg backslash, if_neg backspace, if_neg feed, if_neg line,
      if_neg carriage, if_neg tab]
    by_cases control : c.toNat < 32
    · exact .inl ⟨control, if_pos control⟩
    · exact .inr ⟨Nat.le_of_not_lt control, quotes, backslash, if_neg control⟩

theorem escapeChar_spec (c : Char) : (escapeChar c = [c] ∧ c ≠ '"' ∧ c ≠ '\\') ∨
    (c.toNat < 128 ∧ ∃ d, d ≠ 'u' ∧ escapeChar c = ['\\', d]) ∨
    (c.toNat < 128 ∧ ∃ w x y z, escapeChar c = ['\\', 'u', w, x, y, z]) := by
  rcases escapeChar_cases c with ⟨d, member, escape⟩ | ⟨control, escape⟩ | ⟨_, quotes, backslash, own⟩
  · have short : ∀ m ∈ shortEscapes, m.1.toNat < 128 ∧ m.2 ≠ 'u' := by decide
    rcases short _ member with ⟨small, other⟩
    exact .inr (.inl ⟨small, d, other, escape⟩)
  · exact .inr (.inr ⟨by omega, _, _, _, _, escape⟩)
  · exact .inl ⟨own, quotes, backslash⟩

theorem escapeChar_injective (same : escapeChar c = escapeChar d) : c = d := by
  have escaped (c : Char) : escapeChar c = [c] ∨ (c.toNat < 128 ∧ 1 < (escapeChar c).length) := by
    rcases escapeChar_spec c with ⟨own, _⟩ | ⟨small, _, _, escape⟩ | ⟨small, _, _, _, _, escape⟩
    · exact .inl own
    · exact .inr ⟨small, by simp [escape]⟩
    · exact .inr ⟨small, by simp [escape]⟩
  rcases escaped c with own | ⟨small, long⟩
  · rcases escaped d with own' | ⟨_, long'⟩
    · rw [own, own'] at same
      exact (List.cons.inj same).1
    · rw [← same, own] at long'
      exact absurd long' (by simp)
  · rcases escaped d with own' | ⟨small', _⟩
    · rw [same, own'] at long
      exact absurd long (by simp)
    · -- Each escape is made one number, and numbers are quick to tell apart.
      have distinct : ((List.range 128).map fun n =>
          (escapeChar (Char.ofNat n)).foldl (fun n c => n * 128 + c.toNat) 0).Nodup := by decide +kernel
      have number : c.toNat = d.toNat := by
        apply List.inj_on_of_nodup_map distinct (List.mem_range.mpr small) (List.mem_range.mpr small')
        simp only [Char.ofNat_toNat, same]
      rw [← Char.ofNat_toNat c, number, Char.ofNat_toNat]

/-- How long an escape is can be seen from its first two characters. -/
def escapeLength : List Char → Nat
  | '\\' :: 'u' :: _ => 6
  | '\\' :: _ => 2
  | _ => 1

theorem escapeLength_append (c : Char) (rest : List Char) :
    escapeLength (escapeChar c ++ rest) = (escapeChar c).length := by
  rcases escapeChar_spec c with ⟨own, _, plain⟩ | ⟨_, d, short, escape⟩ | ⟨_, _, _, _, _, escape⟩
  · rw [own]
    simp [escapeLength, plain]
  · rw [escape]
    simp [escapeLength, short]
  · rw [escape]
    rfl

theorem escapeChar_append_inj (same : escapeChar c ++ a = escapeChar d ++ b) : c = d ∧ a = b := by
  have length := congrArg escapeLength same
  rw [escapeLength_append, escapeLength_append] at length
  rcases List.append_inj same length with ⟨escape, after⟩
  exact ⟨escapeChar_injective escape, after⟩

theorem escapeChar_head_ne (c : Char) (rest : List Char) : (escapeChar c ++ rest).head? ≠ some '"' := by
  rcases escapeChar_spec c with ⟨own, plain, _⟩ | ⟨_, _, _, escape⟩ | ⟨_, _, _, _, _, escape⟩
  · rw [own]
    simpa using plain
  · rw [escape]
    simp
  · rw [escape]
    simp

theorem quote_append_inj (same : quote s ++ rest = quote t ++ rest') : s = t ∧ rest = rest' := by
  have inner (xs ys : List Char)
      (same : xs.flatMap escapeChar ++ '"' :: rest = ys.flatMap escapeChar ++ '"' :: rest') :
      xs = ys ∧ rest = rest' := by
    induction xs generalizing ys with
    | nil =>
        cases ys with
        | nil => exact ⟨rfl, (List.cons.inj same).2⟩
        | cons y ys =>
            rw [List.flatMap_cons, List.append_assoc] at same
            exact absurd (congrArg List.head? same).symm (escapeChar_head_ne y _)
    | cons x xs ih =>
        rw [List.flatMap_cons, List.append_assoc] at same
        cases ys with
        | nil => exact absurd (congrArg List.head? same) (escapeChar_head_ne x _)
        | cons y ys =>
            rw [List.flatMap_cons, List.append_assoc] at same
            rcases escapeChar_append_inj same with ⟨rfl, later⟩
            rcases ih ys later with ⟨rfl, after⟩
            exact ⟨rfl, after⟩
  have opened : '"' :: (s.toList.flatMap escapeChar ++ '"' :: rest) =
      '"' :: (t.toList.flatMap escapeChar ++ '"' :: rest') := by
    simpa [quote] using same
  rcases inner _ _ (List.cons.inj opened).2 with ⟨texts, after⟩
  exact ⟨String.toList_inj.mp texts, after⟩

end PlaceGateway.Json
