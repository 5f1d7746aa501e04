import PlaceGateway.Proofs.Config.Problems
import PlaceGateway.Proofs.Fetch.Lifetimes
/-! The durations of an accepted configuration. They fail no request as long as the clock reaches the
instants that they are counted to. -/

namespace PlaceGateway

theorem Config.requestTimeout_pos {config : Config} (accepted : config.validate = .ok ()) :
    0 < config.server.requestTimeout.nanos :=
  (validate_eq_ok_iff.mp accepted).requestTimeout

namespace CallContext

variable {token : TokenId} {now : Instant} {d : Duration}

theorem withTimeout?_of_lt (inTime : now + d.nanos < Instant.limit) :
    (CallContext.mk token none).withTimeout? now d = some ⟨token, some (now + d.nanos)⟩ := by
  rw [withTimeout?, Instant.add?, if_pos inTime]
  rfl

theorem withTimeout?_of_le (late : Instant.limit ≤ now + d.nanos) (context : CallContext) :
    context.withTimeout? now d = none := by
  rw [withTimeout?, Instant.add?, if_neg (Nat.not_lt_of_le late)]
  rfl

theorem check_of_lt {tokens : Tokens} {deadline : Instant} (alive : tokens.isCancelled token = false)
    (early : now < deadline) : (CallContext.mk token (some deadline)).check tokens now = none := by
  simp [check, alive, early]

end CallContext

namespace Fetch

open Flight (CallerId Outcome)

variable {config : Config} {kindOf : String → PayloadKind} {trace : List Event} {s : State}

/-- Under an accepted configuration, a request gets a context, which is good before its deadline, exactly if
the clock reaches the deadline. A payload that a fetch function got is what its execution ends with, if
the clock reached the end of the entry when it was written, and otherwise the loader has panicked. While
the clock reaches it, callers of the execution whose contexts are good have the payload and no other
result and can come to it at once, and callers are told of no defect but those of fetch functions. -/
theorem durations_spare_fetches (accepted : config.validate = .ok ())
    (reached : Reached config.cache.ttl (Event.IsFaithful kindOf) trace s) :
    (∀ token now,
      (now + config.server.requestTimeout.nanos < Instant.limit → ∃ context : CallContext,
        (CallContext.mk token none).withTimeout? now config.server.requestTimeout = some context ∧
          ∀ tokens now', Tokens.isCancelled tokens token = false →
            now' < now + config.server.requestTimeout.nanos → context.check tokens now' = none) ∧
      (Instant.limit ≤ now + config.server.requestTimeout.nanos →
        (CallContext.mk token none).withTimeout? now config.server.requestTimeout = none) ∧
      now < now + config.server.requestTimeout.nanos) ∧
    (∀ e key p o, Event.finish e (.loaded p) ∈ trace → p.isEmpty = false → s.Concludes e key o →
      ∃ s₀, Happened config.cache.ttl trace s₀ (.write e .kept) ∧ (s₀.loads.Reaches → o = .ok p) ∧
        (¬ s₀.loads.Reaches → ∃ message, o = .error (.internal (.loaderPanicked message)))) ∧
    (s.loads.Reaches →
      (∀ c e caller p, s.callers.get? c = some caller → Joined config.cache.ttl trace c e →
        Event.finish e (.loaded p) ∈ trace → p.isEmpty = false →
        caller.context.check s.flight.tokens s.now = none →
          (∀ r, s.result? c = some r → r = .ok p) ∧
          (¬ s.HasLeft c → ∃ more s', (∀ event ∈ more, event.IsFaithful kindOf) ∧
            s.run more = some s' ∧ s'.now = s.now ∧ s'.result? c = some (.ok p))) ∧
      ∀ c caller cause, s.callers.get? c = some caller →
        s.result? c = some (.error (.internal cause)) →
        ∃ e, Joined config.cache.ttl trace c e ∧ (Event.finish e (.failed (.internal cause)) ∈ trace ∨
          ∃ message, cause = .loaderPanicked message ∧ Event.finish e (.panicked message) ∈ trace)) := by
  have positive := Config.requestTimeout_pos accepted
  refine ⟨?_, ?_, fun reaches => ⟨?_, ?_⟩⟩
  · intro token now
    refine ⟨fun inTime => ⟨_, CallContext.withTimeout?_of_lt inTime, ?_⟩,
      fun late => CallContext.withTimeout?_of_le late _, Nat.lt_add_of_pos_right positive⟩
    intro tokens now' alive early
    exact CallContext.check_of_lt alive early
  · intro e key p o loaded told concludes
    exact reached.outcome_of_loaded Event.IsFaithful.keeps loaded told concludes
  · intro c e caller p present joined loaded told going
    constructor
    · intro r returns
      rcases reached.payload_of_result present joined loaded told reaches returns with
        same | ⟨err, _, causes⟩
      · exact same
      · exact absurd causes (CallContext.not_causes_of_check going)
    · exact reached.returns_payload present joined loaded told reaches going
  · intro c caller cause present returns
    exact reached.internal_of_result present reaches returns

def configured (ttl : Duration) : Config :=
  { cache := { backend := .memory, ttl := some ttl }, provider := { apiKey := "key" } }

theorem configured_accepted (ttl : Duration) : (configured ttl).validate = .ok () := by
  have same : (configured ttl).problems = (configured .zero).problems := rfl
  have sound : (configured .zero).problems = [] := by decide +kernel
  rw [Config.validate, same, if_pos sound]

def missing (context : CallContext) : List Event :=
  [.token "t" none, .arrive "a" "k" .search context, .arrive "b" "k" .search context, .check "a",
   .check "b", .lookup "a" .actual, .lookup "b" .actual, .enter "a"]

def loadingSlowly : List Event :=
  [.recheck "a" .actual, .start "a", .advance (.ofSeconds 14), .finish "a" (.loaded (.search ⟨[]⟩)),
   .write "a" .kept, .release "a"]

theorem reached_of_joining {ttl : Option Duration} {context : CallContext} {rest : List Event}
    {s₀ s₁ s : State} (missed : (State.initial ttl).run (missing context) = some s₀)
    (entered : s₀.step (.enter "b") = some s₁) (loaded : s₁.run rest = some s)
    (faithful : ∀ event ∈ rest, event.IsFaithful fun _ => .search) :
    Reached ttl (Event.IsFaithful fun _ => .search) (missing context ++ .enter "b" :: rest) s := by
  refine reached_of_run (List.forall_mem_append.mpr ⟨?_, List.forall_mem_cons.mpr ⟨?_, faithful⟩⟩) ?_
  · simp [missing, Event.IsFaithful, Event.Meets, Event.IsAsked]
  · exact ⟨trivial, trivial⟩
  · rw [State.run_append, missed, Option.bind_some, State.run, entered, Option.bind_some, loaded]

theorem durations_spare_fetches_for_a_minute :
    ∃ context trace s more s',
      (CallContext.mk "t" none).withTimeout? 0 (configured (.ofSeconds 60)).server.requestTimeout =
        some context ∧
      Reached (configured (.ofSeconds 60)).cache.ttl (Event.IsFaithful fun _ => .search) trace s ∧
      s.callers.get? "b" = some ⟨"k", .search, context, .flying⟩ ∧ s.result? "b" = none ∧
      s.run more = some s' ∧ s'.now = s.now ∧ s'.result? "b" = some (.ok (.search ⟨[]⟩)) := by
  let ttl : Option Duration := (configured (.ofSeconds 60)).cache.ttl
  let context : CallContext := ⟨"t", some (15 * 10 ^ 9)⟩
  let s₀ := ((State.initial ttl).run (missing context)).get (by decide +kernel)
  let s₁ := (s₀.step (.enter "b")).get (by decide +kernel)
  let s := (s₁.run loadingSlowly).get (by decide +kernel)
  have missed : (State.initial ttl).run (missing context) = some s₀ := (Option.some_get _).symm
  have entered : s₀.step (.enter "b") = some s₁ := (Option.some_get _).symm
  have loaded : s₁.run loadingSlowly = some s := (Option.some_get _).symm
  have reached := reached_of_joining missed entered loaded
    (by simp [loadingSlowly, Event.IsFaithful, Event.Meets, Event.IsAsked])
  have waits : s₁.flight.calls.get? "b" = some ⟨"k", context, .waiting "a"⟩ := by decide +kernel
  have joined := joined_of_run missed entered waits rfl loadingSlowly
  have present : s.callers.get? "b" = some ⟨"k", .search, context, .flying⟩ := by decide +kernel
  have going : context.check s.flight.tokens s.now = none := by decide +kernel
  have reaches : s.loads.Reaches := by
    intro d lives
    have own : ValueStore.lifetime s.loads.ttl = some (.ofSeconds 60) := by decide +kernel
    rw [own, Option.some.injEq] at lives
    subst lives
    decide +kernel
  have called : s.flight.calls.get? "b" = some ⟨"k", context, .waiting "a"⟩ := by decide +kernel
  have stays : ¬ s.HasLeft "b" := by
    rintro (⟨caller, found, left⟩ | ⟨call, found, left⟩)
    · rw [present] at found
      cases found
      cases left
    · rw [called] at found
      cases found
      cases left
  obtain ⟨_, _, spares⟩ := durations_spare_fetches (configured_accepted (.ofSeconds 60)) reached
  obtain ⟨more, s', _, run, now, result⟩ :=
    ((spares reaches).1 "b" "a" _ (.search ⟨[]⟩) present joined (by simp [loadingSlowly]) rfl going).2
      stays
  exact ⟨context, _, s, more, s', by decide +kernel, reached, present, by decide +kernel, run, now, result⟩

/-- With a lifetime that the clock does not reach, both callers are told that the loader panicked. -/
theorem long_lifetime_fails_fetch :
    ¬ ∀ (config : Config) (kindOf : String → PayloadKind) (trace : List Event) (s : State)
      (start : Instant) (c e : CallerId) (caller : Caller) (p : Payload),
      config.validate = .ok () → config.cache.backend = .memory →
      Reached config.cache.ttl (Event.IsFaithful kindOf) trace s → s.callers.get? c = some caller →
      (CallContext.mk caller.context.token none).withTimeout? start config.server.requestTimeout =
        some caller.context →
      Joined config.cache.ttl trace c e → Event.finish e (.loaded p) ∈ trace → p.isEmpty = false →
      caller.context.check s.flight.tokens s.now = none → ∀ r, s.result? c = some r → r = .ok p := by
  intro claim
  let long : Duration := .ofSeconds (2 ^ 63)
  let ttl : Option Duration := (configured long).cache.ttl
  let context : CallContext := ⟨"t", some (15 * 10 ^ 9)⟩
  let rest : List Event := loadingSlowly ++ [.receive "b"]
  let s₀ := ((State.initial ttl).run (missing context)).get (by decide +kernel)
  let s₁ := (s₀.step (.enter "b")).get (by decide +kernel)
  let s := (s₁.run rest).get (by decide +kernel)
  have missed : (State.initial ttl).run (missing context) = some s₀ := (Option.some_get _).symm
  have entered : s₀.step (.enter "b") = some s₁ := (Option.some_get _).symm
  have loaded : s₁.run rest = some s := (Option.some_get _).symm
  have reached := reached_of_joining missed entered loaded
    (by simp [rest, loadingSlowly, Event.IsFaithful, Event.Meets, Event.IsAsked])
  have waits : s₁.flight.calls.get? "b" = some ⟨"k", context, .waiting "a"⟩ := by decide +kernel
  have joined := joined_of_run missed entered waits rfl rest
  have present : s.callers.get? "b" = some ⟨"k", .search, context, .flying⟩ := by decide +kernel
  have result : s.result? "b" = some (.error (.internal
      (.loaderPanicked "overflow when adding duration to instant"))) := by decide +kernel
  have told := claim (configured long) _ _ s 0 "b" "a" _ (.search ⟨[]⟩) (configured_accepted long) rfl
    reached present (by decide +kernel) joined (by simp [rest, loadingSlowly]) rfl (by decide +kernel) _
    result
  cases told

end Fetch

end PlaceGateway
