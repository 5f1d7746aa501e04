import PlaceGateway.Proofs.Fetch.Hits
import PlaceGateway.Proofs.Place.NegativeZeros
import PlaceGateway.Proofs.Provider.Calls
import PlaceGateway.Proofs.Stack.Served
/-! The answers of loads and of hits. A caller that is answered from the entry of a load is shown what the
caller of the load is shown, but for the signs of zeros. -/

namespace PlaceGateway

/-- The answer that tells a payload is longer by the signs of negative zeros than the one that tells what is
read back from a cache entry of it. -/
theorem Service.answer_length (p : Payload) :
    (answer (.ok p)).body.length = (answer (.ok p.unsignZeros)).body.length + p.negativeZeros := by
  have chars := p.json_length
  simpa [answer, HttpResponse.json, Json.render] using chars

theorem Service.answer_unsignZeros_iff (p : Payload) :
    answer (.ok p) = answer (.ok p.unsignZeros) ↔ p.negativeZeros = 0 := by
  constructor
  · intro same
    exact p.render_unsignZeros_iff.mp (congrArg HttpResponse.body same)
  · intro none
    rw [Payload.unsignZeros_of_negativeZeros none]

namespace Fetch

open Flight (CallerId Outcome)
open Scenario.Service.State (ofResult)

variable {space : KeySpace} {access : Provider.Access} {requests : CallerId → Request}
  {ttl : Option Duration} {trace : List Event} {e : CallerId} {key : String} {entry : MemoryEntry}
  {p : Payload} {s : State}

theorem Filled.encodes (filled : Filled ttl trace e key entry)
    (reached : Reached ttl (Event.Serves space access requests) trace s)
    (loaded : Event.finish e (.loaded p) ∈ trace) :
    p.kind = space.kindOf key ∧ p.size < Payload.sizeLimit ∧ entry.value = p.encode := by
  have isLocal := reached.mono fun _ serves => serves.isLocal
  obtain ⟨own, loaded', rest⟩ := filled.source isLocal
  have same := (reached.ends_eq loaded).symm.trans (reached.ends_eq loaded')
  cases same
  exact rest

/-- A fetch function gets what a body of the provider tells. Callers that loaded it are answered with the
payload of the body. Those answered from the entry that the load stored are answered with that payload with
its zeros unsigned, at once if their own lookup found the entry. The answers are longer for the former by
one character for each negative zero, and the same exactly if there is none. -/
theorem hits_lose_signs (reached : Reached ttl (Event.Serves space access requests) trace s)
    (loaded : Event.finish e (.loaded p) ∈ trace) (told : p.isEmpty = false) :
    (∃ body, Provider.readPayload (requests e).operation.answerKind body = .ok p) ∧
    (∀ key entry, Filled ttl trace e key entry →
      ∀ s₀ c caller, Happened ttl trace s₀ (.lookup c .actual) → s₀.callers.get? c = some caller →
        caller.key = key → s₀.Shows key entry → s.result? c = some (.ok p.unsignZeros)) ∧
    ∀ key entry, Filled ttl trace e key entry → ∀ c c' m m', Joined ttl trace c e →
      s.result? c = some (.ok m) → Hits ttl trace c' key entry → s.result? c' = some (.ok m') →
        m = p ∧ m' = p.unsignZeros ∧
        (Service.answer (.ok m)).body.length =
          (Service.answer (.ok m')).body.length + p.negativeZeros ∧
        (Service.answer (.ok m) = Service.answer (.ok m') ↔ p.negativeZeros = 0) := by
  have isLocal := reached.mono fun _ serves => serves.isLocal
  refine ⟨?_, ?_, ?_⟩
  · obtain ⟨transport, asked⟩ := reached.asked_of_finish loaded
    cases call : access.call transport none (requests e) with
    | ok own =>
        rw [call] at asked
        cases asked
        exact Provider.Access.payload_of_call call
    | error err =>
        rw [call] at asked
        cases asked
  · rintro key entry filled s₀ c caller happened present rfl shows
    obtain ⟨own, fits, encoded⟩ := filled.encodes reached loaded
    exact isLocal.result_of_shows happened present shows encoded fits own
  · intro key entry filled c c' m m' joined returns hits returns'
    obtain ⟨own, fits, encoded⟩ := filled.encodes reached loaded
    cases joined.payload_eq reached loaded told returns
    cases hits.payload_eq isLocal encoded fits own returns'
    exact ⟨rfl, rfl, Service.answer_length p, Service.answer_unsignZeros_iff p⟩

def unrated : Provider.Transport :=
  fun _ => .ok ⟨200, Bytes.ofText "\x7b\"id\":\"a\",\"rating\":-0.0\x7d"⟩

def unratedPlace : Payload := .place { (default : Place) with id := "a", rating := .negativeZero }

theorem unratedPlace_negativeZeros : unratedPlace.negativeZeros = 1 := by decide +kernel

def reachable : Provider.Access := ⟨"https://provider.test", "key"⟩

def samePlace (_ : CallerId) : Request := .getPlace ⟨"places/a", "", "", "", []⟩

def samePlaceKey : String :=
  "gplaces:v1:get:e78296f8ab7a9bb6242d494c8bc89de0957522cf7bacad69bbbb22cb21d9e6a2"

theorem samePlace_key (c : CallerId) : (samePlace c).key .standard = samePlaceKey := by
  have one : (samePlace "a").key .standard = samePlaceKey := by decide +kernel
  exact one

theorem unrated_loaded :
    ofResult (reachable.call unrated none (samePlace "a")) = .loaded unratedPlace := by
  decide +kernel

def loadThenHit : List Event :=
  [.token "t" none, .arrive "a" samePlaceKey .place ⟨"t", none⟩,
   .arrive "b" samePlaceKey .place ⟨"t", none⟩, .check "a", .lookup "a" .actual, .enter "a",
   .recheck "a" .actual, .start "a", .finish "a" (.loaded unratedPlace), .write "a" .kept,
   .release "a", .receive "a", .check "b", .lookup "b" .actual]

def afterHit : State := ((State.initial none).run loadThenHit).get (by decide +kernel)

theorem reached_of_hit : ∃ s key entry,
    Reached none (Event.Serves .standard reachable samePlace) loadThenHit s ∧
    Joined none loadThenHit "a" "a" ∧ s.result? "a" = some (.ok unratedPlace) ∧
    Filled none loadThenHit "a" key entry ∧ Hits none loadThenHit "b" key entry ∧
    s.result? "b" = some (.ok unratedPlace.unsignZeros) := by
  let key := samePlaceKey
  let entry : MemoryEntry := ⟨Payload.encode unratedPlace, none⟩
  let s := afterHit
  have asked : ∃ transport, .loaded unratedPlace =
      ofResult (reachable.call transport none (samePlace "a")) := ⟨unrated, unrated_loaded.symm⟩
  have kind (c : CallerId) : (samePlace c).operation.answerKind = .place := rfl
  have serves : ∀ event ∈ loadThenHit, event.Serves .standard reachable samePlace := by
    simpa [loadThenHit, Event.Serves, kind, samePlace_key] using asked
  have reached : Reached none (Event.Serves .standard reachable samePlace) loadThenHit s :=
    reached_of_run serves (Option.some_get _).symm
  have joined : Joined none loadThenHit "a" "a" := by
    let s₀ := ((State.initial none).run (loadThenHit.take 5)).get (by decide +kernel)
    let s₁ := (s₀.step (.enter "a")).get (by decide +kernel)
    have run : (State.initial none).run (loadThenHit.take 5) = some s₀ := (Option.some_get _).symm
    exact ⟨s₀, s₁, ⟨key, ⟨"t", none⟩, .waiting "a"⟩, ⟨_, loadThenHit.drop 6, rfl, run⟩,
      (Option.some_get _).symm, by decide +kernel, rfl⟩
  have filled : Filled none loadThenHit "a" key entry := by
    let s₀ := ((State.initial none).run (loadThenHit.take 9)).get (by decide +kernel)
    let s₁ := (s₀.step (.write "a" .kept)).get (by decide +kernel)
    have run : (State.initial none).run (loadThenHit.take 9) = some s₀ := (Option.some_get _).symm
    exact ⟨s₀, s₁, unratedPlace, ⟨_, loadThenHit.drop 10, rfl, run⟩, (Option.some_get _).symm,
      ⟨.ending (.ok unratedPlace), by decide +kernel, rfl⟩, by decide +kernel⟩
  have hits : Hits none loadThenHit "b" key entry := by
    let s₀ := ((State.initial none).run (loadThenHit.take 13)).get (by decide +kernel)
    have run : (State.initial none).run (loadThenHit.take 13) = some s₀ := (Option.some_get _).symm
    have present : s₀.callers.get? "b" = some ⟨key, .place, ⟨"t", none⟩, .checked⟩ := by decide +kernel
    exact .own ⟨_, [], rfl, run⟩ present rfl ⟨by decide +kernel, rfl⟩
  exact ⟨s, key, entry, reached, joined, by decide +kernel, filled, hits, by decide +kernel⟩

theorem hits_lose_signs_of_rating :
    ∃ trace s c c' m m', Reached none (Event.Serves .standard reachable samePlace) trace s ∧
      s.result? c = some (.ok m) ∧ s.result? c' = some (.ok m') ∧
      (Service.answer (.ok m)).body.length = (Service.answer (.ok m')).body.length + 1 := by
  obtain ⟨s, key, entry, reached, joined, returns, filled, hits, returns'⟩ := reached_of_hit
  have loaded : Event.finish "a" (.loaded unratedPlace) ∈ loadThenHit := by
    simp [loadThenHit]
  have told : unratedPlace.isEmpty = false := by decide +kernel
  obtain ⟨_, _, compare⟩ := hits_lose_signs reached loaded told
  obtain ⟨_, _, lengths, _⟩ := compare key entry filled "a" "b" _ _ joined returns hits returns'
  rw [unratedPlace_negativeZeros] at lengths
  exact ⟨_, s, "a", "b", _, _, reached, returns, returns', lengths⟩

/-- Two callers ask for a place whose rating is negative zero, and are shown different texts. -/
theorem hit_shows_other_text :
    ¬ ∀ (ttl : Option Duration) (space : KeySpace) (access : Provider.Access)
      (requests : CallerId → Request) (trace : List Event) (s : State) (e : CallerId) (p : Payload)
      (key : String) (entry : MemoryEntry) (c c' : CallerId) (m m' : Payload),
      Reached ttl (Event.Serves space access requests) trace s → Event.finish e (.loaded p) ∈ trace →
      p.isEmpty = false → Joined ttl trace c e → s.result? c = some (.ok m) →
      Filled ttl trace e key entry → Hits ttl trace c' key entry → s.result? c' = some (.ok m') →
        (Service.answer (.ok m)).body = (Service.answer (.ok m')).body := by
  intro claim
  obtain ⟨s, key, entry, reached, joined, returns, filled, hits, returns'⟩ := reached_of_hit
  have loaded : Event.finish "a" (.loaded unratedPlace) ∈ loadThenHit := by
    simp [loadThenHit]
  have same := claim none .standard reachable samePlace loadThenHit s "a" unratedPlace key entry
    "a" "b" _ _ reached loaded (by decide +kernel) joined returns filled hits returns'
  have lengths := Service.answer_length unratedPlace
  rw [same, unratedPlace_negativeZeros] at lengths
  omega

end Fetch

end PlaceGateway
