import PlaceGateway.Proofs.Fetch.Joins
import PlaceGateway.Proofs.Provider.Calls
import PlaceGateway.Proofs.Stack.Served
/-! Places and search results never meet. Keys tell operations apart, so that whatever reads, joins or is
answered under a key wants what is stored and fetched under it. -/

namespace PlaceGateway

theorem InternalCause.message_of_loaderPanicked (said : String) :
    (loaderPanicked said).message ≠ unexpectedKind.message := by
  intro same
  have panicked : (loaderPanicked said).message =
      "single-flight loader aborted: task N panicked with message " ++ Text.quoted said := rfl
  have unexpected : unexpectedKind.message = "single-flight returned unexpected type" := rfl
  have early : 14 < "single-flight loader aborted: task N panicked with message ".toList.length := by
    decide +kernel
  rw [panicked, unexpected] at same
  have chars := congrArg (·.toList[14]?) same
  simp only [String.toList_append] at chars
  rw [List.getElem?_append_left early] at chars
  exact absurd chars (by decide +kernel)

namespace Fetch

open Flight (CallerId Outcome)

variable {space : KeySpace} {access : Provider.Access} {requests : CallerId → Request}
  {ttl : Option Duration} {trace : List Event} {event : Event}
  {c e : CallerId} {key : String} {kind : PayloadKind} {loader : LoaderPhase} {caller : Caller}
  {p : Payload} {err : CallError} {s : State}

theorem Joined.requested (joined : Joined ttl trace c e)
    (reached : Reached ttl (Event.Fronts space requests) trace s) :
    s.HasKey e ((requests c).key space) := by
  obtain ⟨caller, present, named⟩ := joined.waiter reached
  exact (reached.brought present).1 ▸ named

/-- Somebody reads the key who wants the kind: a caller that came with it or a loader. -/
def State.Wants (s : State) (key : String) (kind : PayloadKind) : Prop :=
  (∃ c caller, s.callers.get? c = some caller ∧ caller.key = key ∧ caller.kind = kind) ∨
    ∃ e loader, s.HasKey e key ∧ s.loaders.get? e = some loader ∧ loader.kind = kind

theorem Reached.kind_of_wants (reached : Reached ttl (Event.Fronts space requests) trace s)
    (wants : s.Wants key kind) : kind = space.kindOf key := by
  obtain ⟨sound, calls⟩ :=
    (reached.mono fun _ fronts => fronts.isLocal).sound Reached.asks_one
  rcases wants with ⟨c, caller, present, rfl, rfl⟩ | ⟨e, loader, ⟨phase, found⟩, present, rfl⟩
  · exact (calls.asked c caller present).symm
  · exact (sound.asked present found).symm

theorem Joined.wanted (joined : Joined ttl trace c e)
    (reached : Reached ttl (Event.Fronts space requests) trace s) :
    (requests e).operation = (requests c).operation ∧ ∃ loader,
      s.loaders.get? e = some ⟨(requests c).operation.answerKind, loader⟩ := by
  have named := joined.requested reached
  have same := (reached.begun named).2
  have isLocal := reached.mono fun _ fronts => fronts.isLocal
  obtain ⟨sound, _⟩ := isLocal.sound Reached.asks_one
  obtain ⟨phase, found⟩ := named
  obtain ⟨⟨kind, loader⟩, present, asked, _⟩ := sound.attended e _ phase found
  have asked : space.kindOf ((requests c).key space) = kind := asked
  rw [(requests c).kindOf_key space] at asked
  exact ⟨(Request.operation_of_key same).symm, loader, asked ▸ present⟩

theorem Reached.unexpected_of_result (reached : Reached ttl (Event.Fronts space requests) trace s)
    {cause : InternalCause} (present : s.callers.get? c = some caller)
    (returns : s.result? c = some (.error (.internal cause)))
    (unexpected : cause.message = InternalCause.unexpectedKind.message) :
    ∃ e, Joined ttl trace c e ∧ Event.finish e (.failed (.internal cause)) ∈ trace := by
  rcases reached.origin_of_error present returns with causes | ⟨e, o, joined, ended, typed⟩
  · exact absurd causes (CallContext.not_causes_internal cause)
  · obtain ⟨_, loader, own⟩ := joined.wanted reached
    have kind := (reached.brought present).2
    cases o with
    | ok p =>
        have agrees := reached.kind_of_concludes own ⟨_, ended, rfl⟩
        rw [State.ofKind, if_pos (agrees.trans kind.symm)] at typed
        cases typed
    | error err =>
        cases typed
        rcases reached.error_of_concludes ⟨_, ended, rfl⟩ with failed | empty | ⟨message, panicked, _⟩
        · exact ⟨e, joined, failed⟩
        · cases empty
        · cases panicked
          exact absurd unexpected (InternalCause.message_of_loaderPanicked message)

theorem Reached.not_unexpected (reached : Reached ttl (Event.Serves space access requests) trace s)
    {cause : InternalCause} (present : s.callers.get? c = some caller)
    (returns : s.result? c = some (.error (.internal cause))) :
    cause.message ≠ InternalCause.unexpectedKind.message := by
  intro unexpected
  have fronts := reached.mono fun _ serves => serves.fronts
  obtain ⟨e, _, failed⟩ := fronts.unexpected_of_result present returns unexpected
  obtain ⟨transport, asked⟩ := reached.asked_of_finish failed
  cases told : access.call transport none (requests e) with
  | ok p =>
      rw [told] at asked
      cases asked
  | error err =>
      rw [told] at asked
      cases asked
      cases access.call_innocent transport (requests e) _ told

/-- Under one prefix, keys of different operations differ, whatever the digests. In any state of a cache
that alone writes its store, an entry is therefore the encoding of a payload of the kind that every reader
of its key wants, and callers join executions of their own operation, which end with payloads of their own
kind. No caller is told of a kind that was not expected, unless a fetch function has said so itself, and
none of the provider does. -/
theorem kinds_never_meet (reached : Reached ttl (Event.Fronts space requests) trace s) :
    (∀ o o' digest digest', space.root ++ Operation.keyName o ++ ":" ++ digest =
      space.root ++ Operation.keyName o' ++ ":" ++ digest' → o = o') ∧
    (∀ r r' : Request, r.key space = r'.key space → r.operation = r'.operation) ∧
    (∀ key kind entry, s.Wants key kind → s.store.stored? key = some entry →
      ∃ p, s.Fetched trace key p ∧ p.kind = kind ∧ entry.value = p.encode ∧
        Payload.decode? kind entry.value = some p.unsignZeros) ∧
    (∀ c e, Joined ttl trace c e →
      (requests e).operation = (requests c).operation ∧
      (∃ loader, s.loaders.get? e = some ⟨(requests c).operation.answerKind, loader⟩) ∧
      ∀ key p, s.Concludes e key (.ok p) → p.kind = (requests c).operation.answerKind) ∧
    (∀ c caller cause, s.callers.get? c = some caller →
      s.result? c = some (.error (.internal cause)) →
      cause.message = InternalCause.unexpectedKind.message →
        ∃ e, Joined ttl trace c e ∧ Event.finish e (.failed (.internal cause)) ∈ trace) ∧
    ∀ access, (∀ event ∈ trace, event.Serves space access requests) →
      ∀ c caller cause, s.callers.get? c = some caller →
        s.result? c = some (.error (.internal cause)) →
        cause.message ≠ InternalCause.unexpectedKind.message := by
  refine ⟨?_, ?_, ?_, ?_, ?_, ?_⟩
  · intro o o' digest digest' same
    exact space.operation_of_text same
  · intro r r' same
    exact Request.operation_of_key same
  · intro key kind entry wants present
    obtain ⟨p, fetched, own, fits, encoded⟩ :=
      (reached.mono fun _ fronts => fronts.isLocal).sourced key entry present
    have own : p.kind = kind := own.trans (reached.kind_of_wants wants).symm
    exact ⟨p, fetched, own, encoded, encoded ▸ Payload.decode?_encode own fits⟩
  · intro c e joined
    obtain ⟨same, loader, own⟩ := joined.wanted reached
    exact ⟨same, ⟨loader, own⟩, fun key p concludes => reached.kind_of_concludes own concludes⟩
  · intro c caller cause present returns unexpected
    exact reached.unexpected_of_result present returns unexpected
  · intro access serves c caller cause present returns
    have served : Reached ttl (Event.Serves space access requests) trace s :=
      reached_of_run serves reached.run
    exact served.not_unexpected present returns

def sideBySide (c : CallerId) : Request :=
  if c = "a" then .getPlace ⟨"places/a", "", "", "", []⟩ else .searchRestaurants ⟨"pizza", "", ""⟩

theorem kinds_never_meet_side_by_side :
    ∃ trace s entry entry', Reached none (Event.Fronts .standard sideBySide) trace s ∧
      s.store.stored? ((sideBySide "a").key .standard) = some entry ∧
      s.store.stored? ((sideBySide "b").key .standard) = some entry' ∧
      (∃ p : Payload, p.kind = .place ∧ Payload.decode? .place entry.value = some p.unsignZeros) ∧
      (∃ p : Payload, p.kind = .search ∧ Payload.decode? .search entry'.value = some p.unsignZeros) ∧
      Joined none trace "c" "b" ∧ (sideBySide "b").operation = (sideBySide "c").operation := by
  let keyA := "gplaces:v1:get:e78296f8ab7a9bb6242d494c8bc89de0957522cf7bacad69bbbb22cb21d9e6a2"
  let keyB :=
    "gplaces:v1:search_restaurants:8da86b6342f5db844da53c197072b54027567805e6eb9f3d69ad3611461e35ee"
  have ownA : (sideBySide "a").key .standard = keyA := by decide +kernel
  have ownB : (sideBySide "b").key .standard = keyB := by decide +kernel
  let front : List Event :=
    [.token "t" none, .arrive "a" keyA .place ⟨"t", none⟩, .arrive "b" keyB .search ⟨"t", none⟩,
     .arrive "c" keyB .search ⟨"t", none⟩, .check "a", .check "b", .check "c", .lookup "a" .actual,
     .lookup "b" .actual, .lookup "c" .actual, .enter "a", .enter "b"]
  let rest : List Event :=
    [.recheck "a" .actual, .start "a",
     .finish "a" (.loaded (.place { (default : Place) with id := "a" })), .write "a" .kept,
     .recheck "b" .actual, .start "b", .finish "b" (.loaded (.search ⟨[]⟩)), .write "b" .kept]
  let s₀ := ((State.initial none).run front).get (by decide +kernel)
  let s₁ := (s₀.step (.enter "c")).get (by decide +kernel)
  let s := (s₁.run rest).get (by decide +kernel)
  have before : (State.initial none).run front = some s₀ := (Option.some_get _).symm
  have entered : s₀.step (.enter "c") = some s₁ := (Option.some_get _).symm
  have after : s₁.run rest = some s := (Option.some_get _).symm
  have whole : (State.initial none).run (front ++ .enter "c" :: rest) = some s := by
    rw [State.run_append, before, Option.bind_some, State.run, entered, Option.bind_some, after]
  have reached : Reached none (Event.Fronts .standard sideBySide) (front ++ .enter "c" :: rest) s := by
    refine reached_of_run (List.forall_mem_append.mpr ⟨?_, by simp [rest, Event.Fronts]⟩) whole
    have ownC : (sideBySide "c").key .standard = keyB := ownB
    have place : (sideBySide "a").operation.answerKind = .place := rfl
    have search (c : CallerId) (other : c ≠ "a") : (sideBySide c).operation.answerKind = .search := by
      rw [sideBySide, if_neg other]
      rfl
    simp [front, Event.Fronts, ownA, ownB, ownC, place, search]
  have waits : s₁.flight.calls.get? "c" = some ⟨keyB, ⟨"t", none⟩, .waiting "b"⟩ := by decide +kernel
  have joined : Joined none (front ++ .enter "c" :: rest) "c" "b" :=
    joined_of_run before entered waits rfl rest
  obtain ⟨_, _, entries, joins, _⟩ := kinds_never_meet reached
  have storedA : (s.store.stored? keyA).isSome = true := by decide +kernel
  have storedB : (s.store.stored? keyB).isSome = true := by decide +kernel
  obtain ⟨entry, storedA⟩ := Option.isSome_iff_exists.mp storedA
  obtain ⟨entry', storedB⟩ := Option.isSome_iff_exists.mp storedB
  have wantsA : s.Wants keyA .place := .inl ⟨"a", ⟨keyA, .place, ⟨"t", none⟩, .flying⟩,
    by decide +kernel, rfl, rfl⟩
  have wantsB : s.Wants keyB .search := .inl ⟨"b", ⟨keyB, .search, ⟨"t", none⟩, .flying⟩,
    by decide +kernel, rfl, rfl⟩
  obtain ⟨p, _, own, _, decodes⟩ := entries keyA .place entry wantsA storedA
  obtain ⟨p', _, own', _, decodes'⟩ := entries keyB .search entry' wantsB storedB
  exact ⟨_, s, entry, entry', reached, ownA ▸ storedA, ownB ▸ storedB, ⟨p, own, decodes⟩,
    ⟨p', own', decodes'⟩, joined, (joins "c" "b" joined).1⟩

end Fetch

end PlaceGateway
