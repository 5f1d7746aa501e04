import Mathlib.Algebra.GroupWithZero.Nat
import PlaceGateway.Json.Shape
import PlaceGateway.Proofs.Binary64
/-! How long the texts are that shapes write. The sign of a negative zero is one character. -/

namespace PlaceGateway.Json

variable {α : Type}

/-- The text of a value is longer by so many characters than that of its canonical form. -/
def Shape.Sheds (shape : Shape α) (canonical : α → α) (count : α → Nat) : Prop :=
  ∀ a, (shape.write a).chars.length = (shape.write (canonical a)).chars.length + count a

def Members.Sheds {ts : List Type} (members : Members ts) (canonical : Row ts → Row ts)
    (count : Row ts → Nat) : Prop :=
  ∀ row, (memberTailChars (members.write row)).length =
    (memberTailChars (members.write (canonical row))).length + count row

namespace Members

variable {ts : List Type}

theorem sheds_id (members : Members ts) : members.Sheds id fun _ => 0 := fun _ => rfl

theorem Sheds.cons {t : Type} {shape : Shape t} {rest : Members ts} {canonical : t → t}
    {canonicals : Row ts → Row ts} {count : t → Nat} {counts : Row ts → Nat} (name : String)
    (own : shape.Sheds canonical count) (later : rest.Sheds canonicals counts) :
    (Members.cons name shape rest).Sheds (fun row => (canonical row.1, canonicals row.2))
      (fun row => count row.1 + counts row.2) := by
  rintro ⟨a, row⟩
  have first := own a
  have others := later row
  simp only [write, memberTailChars, List.length_append, List.length_cons]
  omega

theorem Sheds.beside {t : Type} {shape : Shape t} {rest : Members ts} {canonicals : Row ts → Row ts}
    {counts : Row ts → Nat} {name : String} (later : rest.Sheds canonicals counts) :
    (Members.cons name shape rest).Sheds (fun row => (row.1, canonicals row.2))
      (fun row => counts row.2) := by
  rintro ⟨a, row⟩
  have others := later row
  simp only [write, memberTailChars, List.length_append, List.length_cons]
  omega

end Members

namespace Shape

variable {shape : Shape α} {canonical canonical' : α → α} {count count' : α → Nat}

theorem Sheds.congr (sheds : shape.Sheds canonical count) (same : ∀ a, canonical a = canonical' a)
    (counts : ∀ a, count a = count' a) : shape.Sheds canonical' count' := by
  intro a
  rw [← same, ← counts]
  exact sheds a

theorem real_sheds : real.Sheds Binary64.unsignZero Binary64.negativeZeros := by
  intro x
  by_cases negative : x = .negativeZero
  · subst negative
    decide +kernel
  · rw [Binary64.unsignZero_of_ne negative, Binary64.negativeZeros, if_neg negative]
    rfl

theorem Sheds.optional (sheds : shape.Sheds canonical count) :
    (Shape.optional shape).Sheds (Option.map canonical) fun a => a.elim 0 count := by
  intro a
  cases a with
  | none => rfl
  | some a => exact sheds a

theorem Sheds.tail (sheds : shape.Sheds canonical count) (items : List α) :
    (tailChars (items.map shape.write)).length =
      (tailChars ((items.map canonical).map shape.write)).length + (items.map count).sum := by
  induction items with
  | nil => rfl
  | cons a rest ih =>
      have first := sheds a
      simp only [List.map_cons, List.sum_cons, tailChars, List.length_append, List.length_cons]
      omega

theorem Sheds.list (sheds : shape.Sheds canonical count) :
    (Shape.list shape).Sheds (List.map canonical) fun items => (items.map count).sum := by
  intro items
  cases items with
  | nil => rfl
  | cons a rest => exact sheds.tail (a :: rest)

theorem record_sheds {ts : List Type} {members : Members ts} {canonicals : Row ts → Row ts}
    {counts : Row ts → Nat} (columns : Columns α ts) (sheds : members.Sheds canonicals counts) :
    (Shape.record columns members).Sheds (fun a => columns.ofRow (canonicals (columns.toRow a)))
      fun a => counts (columns.toRow a) := by
  intro a
  have tails := sheds (columns.toRow a)
  simp only [Shape.record, columns.toRow_ofRow]
  cases members with
  | nil =>
      have none : counts (columns.toRow a) = 0 := by simpa [Members.write] using tails
      rw [none]
      rfl
  | cons name shape rest => exact tails

end Shape

end PlaceGateway.Json
