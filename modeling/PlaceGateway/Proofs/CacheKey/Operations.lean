import PlaceGateway.Request.Key
/-! A key tells its operation, whatever is hashed into it. -/

namespace PlaceGateway

theorem Operation.keyName_injective : Function.Injective Operation.keyName := by
  intro o o' same
  cases o <;> cases o' <;> first | rfl | exact absurd same (by decide)

theorem Operation.keyName_clean (o : Operation) : ∀ ch ∈ o.keyName.toList, (ch != ':') = true := by
  have all : o.keyName.toList.all (· != ':') = true := by
    cases o <;> decide
  exact List.all_eq_true.mp all

namespace KeySpace

def operationName (space : KeySpace) (key : String) : String :=
  String.ofList ((key.toList.drop space.root.toList.length).takeWhile (· != ':'))

theorem operationName_of (space : KeySpace) (o : Operation) (digest : String) :
    space.operationName (space.root ++ o.keyName ++ ":" ++ digest) = o.keyName := by
  have chars : (space.root ++ o.keyName ++ ":" ++ digest).toList =
      space.root.toList ++ (o.keyName.toList ++ ':' :: digest.toList) := by
    simp
  rw [operationName, chars, List.drop_left, List.takeWhile_append_of_pos o.keyName_clean]
  simp

theorem operationName_key (space : KeySpace) (o : Operation) (parts : List String) :
    space.operationName (space.key o.keyName parts) = o.keyName :=
  space.operationName_of o (CacheKey.fingerprint parts)

theorem operation_of_text (space : KeySpace) {o o' : Operation} {digest digest' : String}
    (same : space.root ++ o.keyName ++ ":" ++ digest = space.root ++ o'.keyName ++ ":" ++ digest') :
    o = o' := by
  have names := congrArg space.operationName same
  rw [operationName_of, operationName_of] at names
  exact Operation.keyName_injective names

/-- What the entries under a key hold. -/
def kindOf (space : KeySpace) (key : String) : PayloadKind :=
  ((Operation.all.find? fun o => o.keyName == space.operationName key).map Operation.answerKind).getD .place

end KeySpace

namespace Request

/-- Requests that share a key are of one operation, even if the digest collides. -/
theorem operation_of_key {space : KeySpace} {r r' : Request} (same : r.key space = r'.key space) :
    r.operation = r'.operation :=
  space.operation_of_text same

theorem kindOf_key (space : KeySpace) (r : Request) :
    space.kindOf (r.key space) = r.operation.answerKind := by
  rw [KeySpace.kindOf, key, KeySpace.keyOf, KeySpace.operationName_key]
  cases r.operation <;> decide

end Request

end PlaceGateway
