import Mathlib.Data.List.Basic
import Mathlib.Data.List.TakeWhile
import PlaceGateway.Url
/-! Paths of segments whose characters all stand for themselves. -/

namespace PlaceGateway.Url

variable {segment tail : List Char} {segments : List (List Char)}

/-- The character is visible, is not escaped in a path, ends neither a segment nor the path, and is no part of
a dot segment. -/
def isPlain (c : Char) : Bool :=
  decide (32 < c.toNat) && !isControl c && !inPath.contains c && !isSlash true c && !endsPath c &&
    c.toLower != '.' && c.toLower != '%'

def IsPlain (segment : List Char) : Prop := ∀ c ∈ segment, isPlain c = true

def rooted (segments : List (List Char)) : List Char := segments.flatMap ('/' :: ·)

theorem isPlain_iff {c : Char} :
    isPlain c = true ↔ 32 < c.toNat ∧ isControl c = false ∧ inPath.contains c = false ∧
      isSlash true c = false ∧ endsPath c = false ∧ c.toLower ≠ '.' ∧ c.toLower ≠ '%' := by
  simp only [isPlain, Bool.and_eq_true, Bool.not_eq_true', decide_eq_true_eq, bne_iff_ne, and_assoc]

theorem escape_of_plain (plain : IsPlain segment) : escape inPath segment = segment := by
  induction segment with
  | nil => rfl
  | cons c segment ih =>
      rcases List.forall_mem_cons.mp plain with ⟨first, plain⟩
      have own := isPlain_iff.mp first
      rw [escape, List.flatMap_cons, own.2.1, own.2.2.1]
      exact congrArg (c :: ·) (ih plain)

theorem not_dots_of_plain (plain : IsPlain segment) :
    isDoubleDot segment = false ∧ isSingleDot segment = false := by
  have unlike {dots : String} (first : dots.toList.head? = some '.' ∨ dots.toList.head? = some '%') :
      String.ofList (segment.map Char.toLower) ≠ dots := by
    rintro rfl
    rw [String.toList_ofList] at first
    cases segment with
    | nil =>
        rcases first with first | first <;> cases first
    | cons c segment =>
        have own := isPlain_iff.mp (plain c List.mem_cons_self)
        rcases first with first | first
        · exact own.2.2.2.2.2.1 (Option.some.inj first)
        · exact own.2.2.2.2.2.2 (Option.some.inj first)
  constructor
  · simp [isDoubleDot, unlike]
  · simp [isSingleDot, unlike]

theorem resolve_of_plain (plain : ∀ segment ∈ segments, IsPlain segment) (done : List String) :
    resolve done segments = (segments.map String.ofList).reverse ++ done := by
  induction segments generalizing done with
  | nil => rfl
  | cons segment segments ih =>
      rcases List.forall_mem_cons.mp plain with ⟨first, plain⟩
      rcases not_dots_of_plain first with ⟨double, single⟩
      rw [resolve, double, single, escape_of_plain first, if_neg (by decide), if_neg (by decide), ih plain]
      simp

theorem isSlash_of_plain {c : Char} (plain : isPlain c = true) (special : Bool) :
    isSlash special c = false := by
  have none_ := (isPlain_iff.mp plain).2.2.2.1
  simp only [isSlash, Bool.true_and, Bool.or_eq_false_iff] at none_ ⊢
  rw [none_.1, none_.2]
  simp

theorem splitOnP_rooted (special : Bool) (first : IsPlain segment)
    (plain : ∀ segment ∈ segments, IsPlain segment) :
    (segment ++ rooted segments).splitOnP (isSlash special) = segment :: segments := by
  have alone {segment : List Char} (plain : IsPlain segment) : segment.splitOnP (isSlash special) = [segment] :=
    List.splitOnP_eq_singleton fun c member => isSlash_of_plain (plain c member) special
  induction segments generalizing segment with
  | nil => simpa [rooted] using alone first
  | cons next segments ih =>
      rcases List.forall_mem_cons.mp plain with ⟨second, plain⟩
      change (segment ++ '/' :: (next ++ rooted segments)).splitOnP (isSlash special) = _
      rw [List.splitOnP_append_cons _ _ (by rfl), alone first, ih second plain]
      rfl

theorem endsPath_of_rooted (plain : ∀ segment ∈ segments, IsPlain segment) :
    ∀ c ∈ rooted segments, endsPath c = false := by
  intro c member
  rcases List.mem_flatMap.mp member with ⟨segment, listed, member⟩
  rcases List.mem_cons.mp member with rfl | member
  · rfl
  · exact (isPlain_iff.mp (plain segment listed c member)).2.2.2.2.1

theorem visible_of_rooted (plain : ∀ segment ∈ segments, IsPlain segment) :
    ∀ c ∈ rooted segments, 32 < c.toNat := by
  intro c member
  rcases List.mem_flatMap.mp member with ⟨segment, listed, member⟩
  rcases List.mem_cons.mp member with rfl | member
  · decide
  · exact (isPlain_iff.mp (plain segment listed c member)).1

theorem pathOf_rooted (special : Bool) (some_ : segments ≠ []) (plain : ∀ segment ∈ segments, IsPlain segment) :
    pathOf special (rooted segments) = .rooted (segments.map String.ofList) := by
  have whole : (rooted segments).takeWhile (fun c => !endsPath c) = rooted segments := by
    rw [List.takeWhile_eq_self_iff]
    intro c member
    rw [endsPath_of_rooted plain c member]
    rfl
  cases segments with
  | nil => exact absurd rfl some_
  | cons segment segments =>
      rcases List.forall_mem_cons.mp plain with ⟨first, rest⟩
      have slash : isSlash special '/' = true := rfl
      rw [pathOf, whole]
      change rootedPath special (if isSlash special '/' = true then segment ++ rooted segments else _) = _
      rw [slash, if_pos rfl, rootedPath, splitOnP_rooted special first rest, resolve_of_plain plain]
      simp

theorem trailer_of_rooted (special : Bool) (plain : ∀ segment ∈ segments, IsPlain segment) :
    trailer special (rooted segments) = (none, none) := by
  have nothing : (rooted segments).dropWhile (fun c => !endsPath c) = [] := by
    rw [List.dropWhile_eq_nil_iff]
    intro c member
    rw [endsPath_of_rooted plain c member]
    rfl
  rw [trailer, nothing]
  rfl

theorem text_rooted (segments : List (List Char)) :
    Path.text (.rooted (segments.map String.ofList)) = String.ofList (rooted segments) := by
  rw [← String.toList_inj, Path.text, String.toList_join, String.toList_ofList, List.map_map, List.flatMap_map,
    rooted]
  congr 1
  funext segment
  simp

end PlaceGateway.Url
