import PlaceGateway.Proofs.Binary64
import PlaceGateway.Proofs.Fetch.Steps
import PlaceGateway.Proofs.Place.RoundTrip
import PlaceGateway.Proofs.Table
/-! Sizes of payloads. Every message, however deep, measures what it is written as, and the only places that
measure nothing are those about which nothing is told. -/

namespace PlaceGateway

open Flight (CallerId)
open Protobuf (Message delimit)

namespace Protobuf.Message

variable {α : Type} {m : Message α} {height : Nat} {canonical : α → α} {a : α}

structure Measured (m : Message α) : Prop where
  write_length : ∀ a, (m.write a).length = m.size a
  writeDelimited_eq : ∀ a, m.writeDelimited a = delimit (m.write a)

theorem Lawful.measured (lawful : m.Lawful height canonical) : m.Measured where
  write_length := lawful.write_length
  writeDelimited_eq a := by rw [writeDelimited, delimit, lawful.write_length]

theorem Lawful.eq_empty_of_size (lawful : m.Lawful height canonical) (none : m.size a = 0) :
    canonical a = m.empty := by
  have unwritten : m.write a = [] := List.length_eq_zero_iff.mp ((lawful.write_length a).trans none)
  have fits : m.size a < 2 ^ 64 := by
    rw [none]
    decide
  have read := lawful.merge_write height a (Nat.le_refl _) fits
  rw [unwritten] at read
  exact (Option.some.inj read).symm

end Protobuf.Message

namespace Place

/-- Nothing is told about the place, unless one counts a rating of negative zero. -/
def TellsNothing (p : Place) : Prop := p = default ∨ p = { (default : Place) with rating := .negativeZero }

instance (p : Place) : Decidable p.TellsNothing := inferInstanceAs (Decidable (_ ∨ _))

variable {p : Place}

theorem tellsNothing_iff : p.TellsNothing ↔ p.unsignZeros = default := by
  constructor
  · rintro (rfl | rfl) <;> rfl
  · intro same
    have nowhere : p.location = none := by
      have location : p.location.map Coordinates.unsignZeros = none := congrArg Place.location same
      exact Option.map_eq_none_iff.mp location
    have rest : p = { (default : Place) with rating := p.rating } := by
      rw [← same, unsignZeros, nowhere]
      exact congrArg (fun location => { p with location }) nowhere
    by_cases negative : p.rating = .negativeZero
    · right
      rwa [negative] at rest
    · left
      have rating : p.rating.unsignZero = .zero := congrArg Place.rating same
      rw [Binary64.unsignZero_of_ne negative] at rating
      rwa [rating] at rest

/-- Of the columns that are not read back as they were, only the rating can be empty and not the default. -/
theorem size_eq_zero_iff : message.size p = 0 ↔ p.TellsNothing := by
  constructor
  · intro none
    exact tellsNothing_iff.mpr (message_lawful.eq_empty_of_size none)
  · rintro (rfl | rfl) <;> rfl

theorem isEmpty_iff : (Payload.place p).isEmpty = true ↔ p.TellsNothing := by
  rw [Payload.isEmpty, beq_iff_eq, size_eq_zero_iff]

end Place

namespace Fetch.State

open Flight (Group)

variable {s s' : State} {e : CallerId} {p : Payload}

theorem of_finish_loaded (step : s.step (.finish e (.loaded p)) = some s') :
    (p.isEmpty = true → ∃ key,
      s'.flight.group.executions.get? e = some ⟨key, .ending (.error (.emptyPayload key))⟩) ∧
    (p.isEmpty = false → ∃ kind, s'.loaders.get? e = some ⟨kind, .writing p⟩) := by
  have ended : s.finish? e (.loaded p) = some s' := step
  obtain ⟨loader, execution, _, executes, _, ends⟩ := finish?_iff.mp ended
  rw [end?] at ends
  split at ends
  · cases ends
  · refine ⟨fun empty => ?_, fun told => ?_⟩
    · rw [if_pos empty, conclude?, Group.finish?] at ends
      obtain ⟨group, finished, rfl⟩ := Option.map_eq_some_iff.mp ends
      rw [executes] at finished
      split at finished
      · rename_i key same
        cases same
        cases finished
        exact ⟨key, by rw [Table.get?_set, if_pos rfl]⟩
      · cases finished
    · rw [if_neg (by simp [told])] at ends
      cases ends
      exact ⟨loader.kind, by rw [setLoader, Table.get?_set, if_pos rfl]⟩

end Fetch.State

open Place in
/-- Each message of a payload stands behind its own length. A place is empty if it is the default but for the
sign of a zero, and no other is: whatever else of it is told, the loader that got it goes on to write it. -/
theorem payloads_are_measured :
    (SearchResult.message.Measured ∧ message.Measured ∧ localizedTextMessage.Measured ∧
      coordinatesMessage.Measured ∧ openingHoursMessage.Measured ∧ photoMessage.Measured ∧
      attributionMessage.Measured) ∧
    (∀ p : Place, (Payload.place p).isEmpty = true ↔ p.TellsNothing) ∧
    ∀ (s s' : Fetch.State) (e : CallerId) (p : Place), s.step (.finish e (.loaded (.place p))) = some s' →
      (p.TellsNothing → ∃ key,
        s'.flight.group.executions.get? e = some ⟨key, .ending (.error (.emptyPayload key))⟩) ∧
      (¬p.TellsNothing → ∃ kind, s'.loaders.get? e = some ⟨kind, .writing (.place p)⟩) := by
  refine ⟨⟨SearchResult.message_lawful.measured, message_lawful.measured, localizedText_lawful.measured,
    coordinates_lawful.measured, openingHours_lawful.measured, photo_lawful.measured,
    attribution_lawful.measured⟩, fun p => isEmpty_iff, ?_⟩
  intro s s' e p step
  obtain ⟨fails, writes⟩ := Fetch.State.of_finish_loaded step
  refine ⟨fun nothing => fails (isEmpty_iff.mpr nothing), fun told => writes ?_⟩
  exact Bool.eq_false_iff.mpr fun empty => told (isEmpty_iff.mp empty)

def blankType : Place := { (default : Place) with types := [""] }

theorem payloads_are_measured_of_blankType :
    ∃ s s' kind, Fetch.State.step s (.finish "a" (.loaded (.place blankType))) = some s' ∧
      ¬blankType.TellsNothing ∧ s'.loaders.get? "a" = some ⟨kind, .writing (.place blankType)⟩ := by
  let loading : List Fetch.Event :=
    [.token "t" none, .arrive "a" "k" .place ⟨"t", none⟩, .check "a", .lookup "a" .actual, .enter "a",
     .recheck "a" .actual, .start "a"]
  let s := ((Fetch.State.initial none).run loading).get (by decide +kernel)
  let s' := (s.step (.finish "a" (.loaded (.place blankType)))).get (by decide +kernel)
  have step : s.step (.finish "a" (.loaded (.place blankType))) = some s' := (Option.some_get _).symm
  have told : ¬blankType.TellsNothing := by decide +kernel
  obtain ⟨kind, writing⟩ := (payloads_are_measured.2.2 s s' "a" blankType step).2 told
  exact ⟨s, s', kind, step, told, writing⟩

end PlaceGateway
