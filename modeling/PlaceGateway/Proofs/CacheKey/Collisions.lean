import PlaceGateway.Proofs.CacheKey.Digest
/-! Which lists of parts are hashed alike: those that are the same list once each part is cut at every
U+0000 in it. -/

namespace PlaceGateway

namespace CacheKey

def pieces (text : String) : List String := (text.toList.splitOn '\x00').map String.ofList

theorem notMem_of_mem_splitOn {chars piece : List Char} (member : piece ∈ chars.splitOn '\x00') :
    '\x00' ∉ piece := by
  induction chars generalizing piece with
  | nil =>
      rw [List.splitOn_nil, List.mem_singleton] at member
      rw [member]
      exact List.not_mem_nil
  | cons first rest ih =>
      -- A separator begins a new piece, and any other character goes in front of the first one.
      rw [List.splitOn_cons_eq_if_modifyHead] at member
      split at member
      · rcases List.mem_cons.mp member with here | later
        · rw [here]
          exact List.not_mem_nil
        · exact ih later
      · rename_i other
        obtain ⟨front, later, cut⟩ := List.exists_cons_of_ne_nil (List.splitOn_ne_nil '\x00' rest)
        rw [cut, List.modifyHead_cons] at member
        rw [cut] at ih
        rcases List.mem_cons.mp member with here | there
        · rw [here, List.mem_cons, not_or]
          exact ⟨fun same => other (beq_iff_eq.mpr same.symm), ih List.mem_cons_self⟩
        · exact ih (List.mem_cons_of_mem front there)

theorem join_pieces (text : String) : "\x00".intercalate (pieces text) = text := by
  rw [← String.toList_inj, String.toList_intercalate, pieces, List.map_map]
  have back : String.toList ∘ String.ofList = id := funext fun _ => String.toList_ofList
  rw [back, List.map_id]
  exact List.intercalate_splitOn '\x00'

theorem pieces_eq_iff (text : String) (texts : List String) :
    pieces text = texts ↔
      texts ≠ [] ∧ (∀ piece ∈ texts, IsPlain piece) ∧ "\x00".intercalate texts = text := by
  constructor
  · rintro rfl
    refine ⟨?_, ?_, join_pieces text⟩
    · rw [pieces, ne_eq, List.map_eq_nil_iff]
      exact List.splitOn_ne_nil '\x00' text.toList
    · intro piece member
      obtain ⟨chars, inside, rfl⟩ := List.mem_map.mp member
      rw [IsPlain, String.toList_ofList]
      exact notMem_of_mem_splitOn inside
  · rintro ⟨some_, plain, rfl⟩
    have cut : ("\x00".intercalate texts).toList.splitOn '\x00' = texts.map String.toList := by
      rw [String.toList_intercalate]
      refine List.splitOn_intercalate '\x00' ?_ (by simpa using some_)
      intro chars member
      obtain ⟨piece, inside, rfl⟩ := List.mem_map.mp member
      exact plain piece inside
    have back : String.ofList ∘ String.toList = id := funext fun _ => String.ofList_toList
    rw [pieces, cut, List.map_map, back, List.map_id]

theorem pieces_of_plain {text : String} (plain : IsPlain text) : pieces text = [text] := by
  refine (pieces_eq_iff text [text]).mpr ⟨List.cons_ne_nil text [], ?_, String.intercalate_singleton⟩
  intro piece member
  rw [List.mem_singleton.mp member]
  exact plain

theorem flatMap_pieces (parts : List String) :
    parts.flatMap pieces = (segments parts).map String.ofList := by
  rw [segments, List.map_flatMap]
  rfl

theorem flatMap_pieces_eq_iff (parts parts' : List String) :
    parts.flatMap pieces = parts'.flatMap pieces ↔ segments parts = segments parts' := by
  rw [flatMap_pieces, flatMap_pieces]
  exact List.map_inj_right fun _ _ => String.ofList_injective

theorem flatMap_pieces_of_plain {parts : List String} (plain : ∀ part ∈ parts, IsPlain part) :
    parts.flatMap pieces = parts := by
  induction parts with
  | nil => rfl
  | cons part rest ih =>
      rw [List.flatMap_cons, pieces_of_plain (plain part List.mem_cons_self),
        ih fun other member => plain other (List.mem_cons_of_mem part member)]
      rfl

/-- What is hashed for two lists of parts is the same exactly if both are one list of texts once each part
is cut at every U+0000. Without U+0000 in them, only equal lists are hashed alike. -/
theorem hashed_alike_iff (parts parts' : List String) :
    (digestInput parts = digestInput parts' ↔ parts.flatMap pieces = parts'.flatMap pieces) ∧
      ((∀ part ∈ parts, IsPlain part) → (∀ part ∈ parts', IsPlain part) →
        digestInput parts = digestInput parts' → parts = parts') := by
  have cut : digestInput parts = digestInput parts' ↔ parts.flatMap pieces = parts'.flatMap pieces := by
    rw [digestInput_eq_iff, flatMap_pieces_eq_iff]
  refine ⟨cut, fun plain plain' same => ?_⟩
  calc
    parts = parts.flatMap pieces := (flatMap_pieces_of_plain plain).symm
    _ = parts'.flatMap pieces := cut.mp same
    _ = parts' := flatMap_pieces_of_plain plain'

theorem hashed_alike_iff_split :
    digestInput ["a\x00b", ""] = digestInput ["a", "b", ""] ∧
      digestInput ["a", "b"] ≠ digestInput ["a", "b", ""] := by
  constructor
  · refine (hashed_alike_iff _ _).1.mpr ?_
    have cut : pieces "a\x00b" = ["a", "b"] := (pieces_eq_iff _ _).mpr (by decide)
    rw [List.flatMap_cons, cut, flatMap_pieces_of_plain (by decide), flatMap_pieces_of_plain (by decide)]
    rfl
  · intro same
    exact absurd ((hashed_alike_iff _ _).2 (by decide) (by decide) same) (by decide)

end CacheKey

end PlaceGateway
