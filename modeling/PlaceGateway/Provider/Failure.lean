import PlaceGateway.Json.Shape
import PlaceGateway.Text.Characters
/-! What the body of a provider's failure says. -/

namespace PlaceGateway.Provider

open Json (Shape)

structure Failure where
  message : String
  status : String
  deriving DecidableEq, Repr, Inhabited

def Failure.columns : Columns Failure [String, String] where
  toRow f := (f.message, f.status, ())
  ofRow := fun (message, status, _) => ⟨message, status⟩
  ofRow_toRow _ := rfl
  toRow_ofRow _ := rfl

def Failure.shape : Shape Failure :=
  .record columns <| .cons "message" .text <| .cons "status" .text .nil

def Failure.only : Columns Failure [Failure] where
  toRow f := (f, ())
  ofRow := fun (f, _) => f
  ofRow_toRow _ := rfl
  toRow_ofRow _ := rfl

def Failure.bodyShape : Shape Failure := .record only <| .cons "error" shape .nil

/-- The message after its status, or the body itself when it holds no message. -/
def failureMessage (body : String) : String :=
  match Failure.bodyShape.readDocument (Bytes.ofText body) with
  | .ok f =>
    if f.message.isEmpty then Text.trim body
    else if f.status.isEmpty then f.message
    else f.status ++ ": " ++ f.message
  | .error _ => Text.trim body

end PlaceGateway.Provider
