import PlaceGateway.Provider.Exchange
/-! What calls to the provider come to: payloads are told in bodies, and errors lay no blame on the
gateway. -/

namespace PlaceGateway.Provider

def Innocent {α : Type} (result : Except CallError α) : Prop :=
  ∀ err, result = .error err → err.isInvariantViolation = false

variable {α β : Type}

theorem innocent_error {err : CallError} (own : err.isInvariantViolation = false) :
    Innocent (.error err : Except CallError α) := by
  intro other same
  cases same
  exact own

theorem innocent_ok (a : α) : Innocent (.ok a) := fun _ same => by cases same

theorem Innocent.bind {result : Except CallError α} {next : α → Except CallError β}
    (first : Innocent result) (later : ∀ a, Innocent (next a)) : Innocent (result >>= next) := by
  cases result with
  | error err => exact innocent_error (first err rfl)
  | ok a => exact later a

theorem innocent_mapError {ε : Type} (result : Except ε α) {tell : ε → CallError}
    (own : ∀ reason, (tell reason).isInvariantViolation = false) : Innocent (result.mapError tell) := by
  cases result with
  | error reason => exact innocent_error (own reason)
  | ok a => exact innocent_ok a

theorem screen_innocent (r : Request) : Innocent (screen r) := by
  have required (field value : String) : Innocent (require field value) := by
    rw [require]
    split
    · exact innocent_error rfl
    · exact innocent_ok ()
  have named (name : String) : Innocent (requirePlaceName name) := by
    refine (required "name" name).bind fun _ => ?_
    split
    · exact innocent_ok ()
    · exact innocent_error rfl
  cases r with
  | searchText r => exact required _ _
  | searchRestaurants r => exact required _ _
  | getPlace r => exact named _
  | getRestaurantDetails r => exact named _

theorem readReply_innocent (operation : Operation) (reply : Reply) : Innocent (readReply operation reply) := by
  rw [readReply]
  split
  · exact innocent_mapError _ fun _ => rfl
  · exact innocent_error rfl

theorem Access.call_innocent (access : Access) (transport : Transport) (r : Request) :
    Innocent (access.call transport none r) := by
  have prepared : Innocent (access.prepare none r) :=
    (screen_innocent r).bind fun _ => innocent_mapError _ fun _ => rfl
  refine prepared.bind fun message => ?_
  split
  · exact innocent_error rfl
  · exact readReply_innocent _ _

theorem Access.payload_of_call {access : Access} {transport : Transport} {done : Option CallError}
    {r : Request} {p : Payload} (told : access.call transport done r = .ok p) :
    ∃ body, readPayload r.operation.answerKind body = .ok p := by
  rw [call] at told
  cases prepared : access.prepare done r with
  | error err =>
      rw [prepared] at told
      cases told
  | ok message =>
      rw [prepared] at told
      dsimp only [bind, Except.bind] at told
      split at told
      · cases told
      · rename_i reply _
        refine ⟨reply.body, ?_⟩
        rw [readReply] at told
        split at told
        · cases read : readPayload r.operation.answerKind reply.body with
          | error fault =>
              rw [read] at told
              cases told
          | ok own =>
              rw [read] at told
              cases told
              rfl
        · cases told

end PlaceGateway.Provider
