import PlaceGateway.Proofs.Fetch.Returns
import PlaceGateway.Proofs.Provider.Names
import PlaceGateway.Proofs.Stack.Served
/-! Requests that the provider is never asked for, behind a cache that does not look at them. They are
refused as long as their keys are their own. -/

namespace PlaceGateway

theorem Provider.Access.call_unreachable (access : Access) (done : Option CallError) (r : Request) :
    ∃ err, access.call .unreachable done r = .error err := by
  rw [call]
  cases access.prepare done r with
  | error err => exact ⟨err, rfl⟩
  | ok message => exact ⟨_, rfl⟩

namespace Fetch

open Flight (CallerId Outcome)
open Scenario.Service.State (ofResult)

def Barred (space : KeySpace) (requests : CallerId → Request) (trace : List Event) (key : String) : Prop :=
  ∀ other, Came trace other → key = (requests other).key space → (requests other).IsMisnamed

variable {space : KeySpace} {access : Provider.Access} {requests : CallerId → Request}
  {ttl : Option Duration} {trace : List Event} {c e : CallerId} {key : String} {caller : Caller}
  {p : Payload} {s s' : State}

/-- The key of a misnamed request is barred when no other request of the run has the same parts, cut at
every U+0000. In a misnamed request without U+0000 the parts are its own. -/
theorem barred_of_apart (misnamed : (requests c).IsMisnamed)
    (collisionFree : ∀ other, Came trace other → Request.CollisionFree (requests c) (requests other))
    (apart : (requests c).Plain ∨ ∀ other, Came trace other →
      (requests c).operation = (requests other).operation → ¬ (requests other).IsMisnamed →
        CacheKey.segments (requests c).params.parts ≠ CacheKey.segments (requests other).params.parts) :
    Barred space requests trace ((requests c).key space) := by
  intro other came same
  by_contra named
  have operation := Request.operation_of_key same
  have segments := (Request.key_eq_iff space _ _ operation (collisionFree other came)).mp same
  rcases apart with plain | apart
  · obtain ⟨name, is, unnamed⟩ := misnamed
    obtain ⟨name', is'⟩ := Request.placeName?_of_operation operation is
    have proper : IsPlaceName name' := by
      by_contra improper
      exact named ⟨name', is', improper⟩
    cases Request.name_of_segments plain segments is is' proper
    exact unnamed proper
  · exact apart other came operation named segments

theorem Reached.refused_of_finish (reached : Reached ttl (Event.Serves space access requests) trace s)
    (barred : Barred space requests trace key) (named : s.HasKey e key) {outcome : LoadOutcome}
    (member : Event.finish e outcome ∈ trace) :
    ∃ reason, outcome = .failed (.invalidRequest "name" reason) := by
  obtain ⟨came, same⟩ := reached.owned named
  obtain ⟨transport, rfl⟩ := reached.asked_of_finish member
  obtain ⟨reason, refused⟩ := (barred e came same).call access transport none
  exact ⟨reason, congrArg ofResult refused⟩

theorem Reached.not_fetched (reached : Reached ttl (Event.Serves space access requests) trace s)
    (barred : Barred space requests trace key) : ¬ s.Fetched trace key p := by
  rintro ⟨_, e, named, member⟩
  obtain ⟨reason, refused⟩ := reached.refused_of_finish barred named member
  cases refused

theorem Reached.refused_of_concludes (reached : Reached ttl (Event.Serves space access requests) trace s)
    (barred : Barred space requests trace key) {o : Outcome Payload} (concludes : s.Concludes e key o) :
    ∃ reason, o = .error (.invalidRequest "name" reason) := by
  cases o with
  | ok p =>
      have isLocal := reached.mono fun _ serves => serves.isLocal
      obtain ⟨p, fetched, _⟩ := isLocal.fetched_of_concludes concludes
      exact absurd fetched (reached.not_fetched barred)
  | error err =>
      obtain ⟨phase, present, told⟩ := concludes
      rcases reached.failure_of_concludes ⟨phase, present, told⟩ with
        ⟨outcome, ended, fails⟩ | ⟨p, _, ended, _⟩
      · obtain ⟨reason, rfl⟩ := reached.refused_of_finish barred ⟨phase, present⟩ ended
        cases fails
        exact ⟨reason, rfl⟩
      · obtain ⟨reason, refused⟩ := reached.refused_of_finish barred ⟨phase, present⟩ ended
        cases refused

theorem Reached.refused_of_result (reached : Reached ttl (Event.Serves space access requests) trace s)
    (present : s.callers.get? c = some caller) (barred : Barred space requests trace caller.key)
    {r : Outcome Payload} (returns : s.result? c = some r) :
    (∃ reason, r = .error (.invalidRequest "name" reason)) ∨
      ∃ err, r = .error err ∧ caller.context.Causes s.flight.tokens s.now err := by
  cases r with
  | ok p =>
      have isLocal := reached.mono fun _ serves => serves.isLocal
      obtain ⟨p, fetched, _⟩ := isLocal.fetched_of_result present returns
      exact absurd fetched (reached.not_fetched barred)
  | error err =>
      rcases reached.origin_of_error present returns with causes | ⟨e, o, _, ended, typed⟩
      · exact .inr ⟨_, rfl, causes⟩
      · obtain ⟨reason, rfl⟩ := reached.refused_of_concludes barred ⟨_, ended, rfl⟩
        exact .inl ⟨reason, typed⟩

theorem Event.Leads.serves {event : Event} {outcome : CallerId → LoadOutcome} (leads : event.Leads c outcome)
    (asks : ∀ e, ∃ transport, outcome e = ofResult (access.call transport none (requests e))) :
    event.Serves space access requests := by
  cases event with
  | lookup c read => exact .inl leads.2
  | recheck e read => exact .inl leads
  | finish e own =>
      cases leads
      exact asks e
  | write e w => exact .inl leads
  | arrive c key kind context => cases leads
  | _ => trivial

theorem came_of_leads {more : List Event} {outcome : CallerId → LoadOutcome} {other : CallerId}
    (leads : ∀ event ∈ more, event.Leads c outcome) (came : Came (trace ++ more) other) :
    Came trace other := by
  obtain ⟨key, kind, context, member⟩ := came
  rcases List.mem_append.mp member with early | late
  · exact ⟨key, kind, context, early⟩
  · exact absurd (leads _ late) id

theorem Reached.refuses (reached : Reached ttl (Event.Serves space access requests) trace s)
    (present : s.callers.get? c = some caller) (barred : Barred space requests trace caller.key)
    (going : caller.context.check s.flight.tokens s.now = none) (stays : ¬ s.HasLeft c) :
    ∃ more s' reason, (∀ event ∈ more, event.Serves space access requests) ∧ s.run more = some s' ∧
      s'.result? c = some (.error (.invalidRequest "name" reason)) := by
  let outcome (e : CallerId) : LoadOutcome := ofResult (access.call .unreachable none (requests e))
  have possible (e : CallerId) (p : Payload) : outcome e ≠ .loaded p := by
    obtain ⟨err, failed⟩ := access.call_unreachable none (requests e)
    intro loaded
    have same : ofResult (.error err) = .loaded p := by rwa [← failed]
    cases same
  have going' := (reached.mono fun _ _ => trivial).returns present going stays possible
  obtain ⟨more, s', caller', r, leads, run, present', good, returns⟩ := going'
  have serves (event : Event) (member : event ∈ more) : event.Serves space access requests :=
    (leads event member).serves fun _ => ⟨.unreachable, rfl⟩
  have after := reached.extend serves run
  have key : caller'.key = caller.key := (after.requested present').trans (reached.requested present).symm
  have barred' : Barred space requests (trace ++ more) caller'.key := by
    rw [key]
    exact fun other came => barred other (came_of_leads leads came)
  rcases after.refused_of_result present' barred' returns with ⟨reason, rfl⟩ | ⟨err, _, causes⟩
  · exact ⟨more, s', reason, serves, run, returns⟩
  · exact absurd causes (CallContext.not_causes_of_check good)

/-- A request for a place that there cannot be is refused, also behind the cache, if its parts, cut at
every U+0000, are those of no proper request in the run: it gets no payload, gets the refusal unless its
context is done, and can always come to it. A request without U+0000 has no parts of a proper one. -/
theorem misnamed_requests_are_refused
    (reached : Reached ttl (Event.Serves space access requests) trace s)
    (present : s.callers.get? c = some caller) (misnamed : (requests c).IsMisnamed)
    (collisionFree : ∀ other, Came trace other → Request.CollisionFree (requests c) (requests other))
    (apart : (requests c).Plain ∨ ∀ other, Came trace other →
      (requests c).operation = (requests other).operation → ¬ (requests other).IsMisnamed →
        CacheKey.segments (requests c).params.parts ≠ CacheKey.segments (requests other).params.parts) :
    (∀ p, s.result? c ≠ some (.ok p)) ∧
    (caller.context.check s.flight.tokens s.now = none →
      (∀ r, s.result? c = some r → ∃ reason, r = .error (.invalidRequest "name" reason)) ∧
      (¬ s.HasLeft c → ∃ more s' reason, (∀ event ∈ more, event.Serves space access requests) ∧
        s.run more = some s' ∧ s'.result? c = some (.error (.invalidRequest "name" reason)))) := by
  have barred : Barred space requests trace caller.key := by
    rw [reached.requested present]
    exact barred_of_apart misnamed collisionFree apart
  refine ⟨?_, fun going => ⟨?_, fun stays => reached.refuses present barred going stays⟩⟩
  · intro p returns
    rcases reached.refused_of_result present barred returns with ⟨_, refused⟩ | ⟨_, refused, _⟩
    · cases refused
    · cases refused
  · intro r returns
    rcases reached.refused_of_result present barred returns with refused | ⟨err, _, causes⟩
    · exact refused
    · exact absurd causes (CallContext.not_causes_of_check going)

def onePlace : Provider.Transport := fun _ => .ok ⟨200, Bytes.ofText "\x7b\"id\":\"a\"\x7d"⟩

def someAccess : Provider.Access := ⟨"https://provider.test", "key"⟩

def besidePlace (r : Request) (c : CallerId) : Request :=
  if c = "b" then r else .getPlace ⟨"places/a", "", "US", "", []⟩

def fetching (r : Request) (c : CallerId) : List Event :=
  [.check c, .lookup c .actual, .enter c, .recheck c .actual, .start c,
   .finish c (ofResult (someAccess.call onePlace none (besidePlace r c)))]

def keeping (r : Request) : List Event :=
  .token "t" none ::
    ["a", "b"].map (fun c => .arrive c ((besidePlace r c).key .standard)
      (besidePlace r c).operation.answerKind ⟨"t", none⟩) ++
    fetching r "a" ++ [.write "a" .kept, .release "a", .receive "a"]

theorem fetching_serves (r : Request) (c : CallerId) :
    ∀ event ∈ fetching r c, event.Serves .standard someAccess (besidePlace r) := by
  have asked : ∃ transport, ofResult (someAccess.call onePlace none (besidePlace r c)) =
      ofResult (someAccess.call transport none (besidePlace r c)) := ⟨onePlace, rfl⟩
  simpa [fetching, Event.Serves] using asked

theorem keeping_serves (r : Request) :
    ∀ event ∈ keeping r, event.Serves .standard someAccess (besidePlace r) := by
  refine List.forall_mem_append.mpr ⟨List.forall_mem_append.mpr ⟨?_, fetching_serves r "a"⟩, ?_⟩
  · simp [Event.Serves]
  · simp [Event.Serves]

theorem misnamed_requests_are_refused_after_answer :
    ∃ r trace s reason, Reached none (Event.Serves .standard someAccess (besidePlace r)) trace s ∧
      (s.result? "a").any Except.isOk = true ∧
      s.result? "b" = some (.error (.invalidRequest "name" reason)) := by
  let r : Request := .getPlace ⟨"places/", "", "", "", []⟩
  let trace := keeping r ++ fetching r "b" ++ [.release "b", .receive "b"]
  let s := ((State.initial none).run trace).get (by decide +kernel)
  have allowed : ∀ event ∈ trace, event.Serves .standard someAccess (besidePlace r) := by
    refine List.forall_mem_append.mpr
      ⟨List.forall_mem_append.mpr ⟨keeping_serves r, fetching_serves r "b"⟩, ?_⟩
    simp [Event.Serves]
  have reached : Reached none (Event.Serves .standard someAccess (besidePlace r)) trace s :=
    reached_of_run allowed (Option.some_get _).symm
  obtain ⟨present, going, returned, served⟩ :
      s.callers.get? "b" = some ⟨r.key .standard, .place, ⟨"t", none⟩, .flying⟩ ∧
        (CallContext.mk "t" none).check s.flight.tokens s.now = none ∧
        (s.result? "b").isSome = true ∧ (s.result? "a").any Except.isOk = true := by
    decide +kernel
  have misnamed : (besidePlace r "b").IsMisnamed := by
    refine ⟨"places/", rfl, ?_⟩
    rw [← isPlaceName_iff]
    decide
  have collisionFree (other : CallerId) (_ : Came trace other) :
      Request.CollisionFree (besidePlace r "b") (besidePlace r other) := by
    by_cases same : other = "b"
    · rw [same]
      exact fun _ => rfl
    · have proper : besidePlace r other = besidePlace r "a" := if_neg same
      rw [proper]
      exact fun digests => absurd digests (by decide +kernel)
  obtain ⟨answer, result⟩ := Option.isSome_iff_exists.mp returned
  have told := misnamed_requests_are_refused reached present misnamed collisionFree (.inl (by decide))
  obtain ⟨reason, rfl⟩ := (told.2 going).1 answer result
  exact ⟨r, trace, s, reason, reached, served, result⟩

/-- Caller `b` asks for no place, and gets the one of caller `a`: U+0000 in its name ends the part of the
name for the key, and begins the part of the region. -/
theorem misnamed_request_is_answered :
    ¬ ∀ (ttl : Option Duration) (space : KeySpace) (access : Provider.Access)
      (requests : CallerId → Request) (trace : List Event) (s : State) (c : CallerId) (caller : Caller),
      Reached ttl (Event.Serves space access requests) trace s → s.callers.get? c = some caller →
      (requests c).IsMisnamed → (∀ other, Request.CollisionFree (requests c) (requests other)) →
      caller.context.check s.flight.tokens s.now = none →
        ∀ answer, s.result? c = some answer → ∃ reason, answer = .error (.invalidRequest "name" reason) := by
  intro claim
  let r : Request := .getPlace ⟨"places/a\x00region=US", "", "", "", []⟩
  let trace := keeping r ++ [.check "b", .lookup "b" .actual]
  let s := ((State.initial none).run trace).get (by decide +kernel)
  have allowed : ∀ event ∈ trace, event.Serves .standard someAccess (besidePlace r) := by
    refine List.forall_mem_append.mpr ⟨keeping_serves r, ?_⟩
    simp [Event.Serves]
  have reached : Reached none (Event.Serves .standard someAccess (besidePlace r)) trace s :=
    reached_of_run allowed (Option.some_get _).symm
  obtain ⟨present, going, served⟩ : (s.callers.get? "b").isSome = true ∧
      (∀ caller ∈ s.callers.get? "b", caller.context.check s.flight.tokens s.now = none) ∧
      (s.result? "b").any Except.isOk = true := by
    decide +kernel
  obtain ⟨caller, present⟩ := Option.isSome_iff_exists.mp present
  have misnamed : (besidePlace r "b").IsMisnamed := by
    refine ⟨"places/a\x00region=US", rfl, ?_⟩
    rw [← isPlaceName_iff]
    decide
  have collisionFree (other : CallerId) :
      Request.CollisionFree (besidePlace r "b") (besidePlace r other) := by
    by_cases same : other = "b"
    · rw [same]
      exact fun _ => rfl
    · have proper : besidePlace r other = besidePlace r "a" := if_neg same
      rw [proper]
      have hashed : CacheKey.digestInput (besidePlace r "b").params.parts =
          CacheKey.digestInput (besidePlace r "a").params.parts := by
        decide +kernel
      exact fun _ => hashed
  obtain ⟨answer, result, ok⟩ := (Option.any_eq_true _ _).mp served
  obtain ⟨reason, rfl⟩ := claim none .standard someAccess (besidePlace r) trace s "b" caller reached
    present misnamed collisionFree (going caller present) answer result
  cases ok

end Fetch

end PlaceGateway
