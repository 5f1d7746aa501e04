import Mathlib.Data.List.Nodup
import PlaceGateway.Enumeration
/-! Enumeration values are found by their names and by their numbers. -/

namespace PlaceGateway.Enumeration

variable {α : Type} [Enumeration α]

/-- Every value is listed, no two share a name or a number, and the unspecified one has number zero. -/
structure Lawful (α : Type) [Enumeration α] : Prop where
  mem_all : ∀ a : α, a ∈ (all : List α)
  names : ((all : List α).map name).Nodup
  numbers : ((all : List α).map number).Nodup
  zero : number (unspecified : α) = 0

theorem priceLevel_lawful : Lawful PriceLevel where
  mem_all a := by cases a <;> decide
  names := by decide +kernel
  numbers := by decide
  zero := rfl

theorem rankPreference_lawful : Lawful RankPreference where
  mem_all a := by cases a <;> decide
  names := by decide +kernel
  numbers := by decide
  zero := rfl

theorem businessStatus_lawful : Lawful BusinessStatus where
  mem_all a := by cases a <;> decide
  names := by decide +kernel
  numbers := by decide
  zero := rfl

theorem find?_key {κ : Type} [BEq κ] [LawfulBEq κ] {key : α → κ} (distinct : ((all : List α).map key).Nodup) {a : α}
    (member : a ∈ (all : List α)) : (all : List α).find? (fun b => key b == key a) = some a := by
  cases found : (all : List α).find? (fun b => key b == key a) with
  | none =>
      have missed := List.find?_eq_none.mp found a member
      simp at missed
  | some b =>
      have same : key b = key a := by simpa using List.find?_some found
      rw [List.inj_on_of_nodup_map distinct (List.mem_of_find?_eq_some found) member same]

theorem Lawful.ofName?_name (lawful : Lawful α) (a : α) : ofName? (name a) = some a :=
  find?_key lawful.names (lawful.mem_all a)

theorem Lawful.ofName_name (lawful : Lawful α) (a : α) : ofName (name a) = a := by
  rw [ofName, lawful.ofName?_name, Option.getD_some]

theorem Lawful.number_ofNumber (lawful : Lawful α) (n : Int32) :
    number (ofNumber n : α) = if n ∈ (all : List α).map number then n else 0 := by
  rw [ofNumber, ofNumber?]
  cases found : (all : List α).find? (fun a => number a == n) with
  | none =>
      have missed := List.find?_eq_none.mp found
      rw [Option.getD_none, if_neg, lawful.zero]
      simpa using missed
  | some a =>
      have same : number a = n := by simpa using List.find?_some found
      rw [Option.getD_some, if_pos, same]
      exact List.mem_map.mpr ⟨a, List.mem_of_find?_eq_some found, same⟩

end PlaceGateway.Enumeration
