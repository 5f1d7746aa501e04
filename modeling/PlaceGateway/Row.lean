/-! Rows: one value for each type of a list. A structure that is a row by another name can be read and
written column by column. -/

namespace PlaceGateway

abbrev Row : List Type → Type
  | [] => Unit
  | t :: ts => t × Row ts

/-- A structure and a row that hold the same values. -/
structure Columns (α : Type) (ts : List Type) where
  toRow : α → Row ts
  ofRow : Row ts → α
  ofRow_toRow : ∀ a, ofRow (toRow a) = a
  toRow_ofRow : ∀ r, toRow (ofRow r) = r

abbrev Slots : List Type → Type
  | [] => Unit
  | t :: ts => Option t × Slots ts

namespace Slots

def none : (ts : List Type) → Slots ts
  | [] => ()
  | _ :: ts => (.none, none ts)

end Slots

end PlaceGateway
