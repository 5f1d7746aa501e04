import PlaceGateway.Proofs.Url.Query
import PlaceGateway.Scenario.Redis
/-! What is logged of a Redis URL: never the password before the host, and always the query of a socket, with
the password that stands in it. -/

namespace PlaceGateway

namespace Redis

namespace Address

variable {text : String} {a : Address} {u : Url} {host : Url.Host} {port : Nat} {path : Bytes} {password : String}

theorem exists_url (accepted : ofText text = .ok a) : ∃ u, Url.ofText text = .ok u ∧ ofUrl u = .ok a := by
  rw [ofText] at accepted
  split at accepted
  · rename_i u parsed
    exact ⟨u, parsed, accepted⟩
  · cases accepted

theorem ofText_eq (parsed : Url.ofText text = .ok u) : ofText text = ofUrl u := by
  rw [ofText, parsed]

theorem ofTcp_eq (u : Url) :
    ofTcp u = (ofTcp { u with password := none }).bind fun a =>
      (credential u.password).map fun password => { a with password } := by
  simp only [ofTcp, bind, Except.bind, pure, Except.pure, throw, throwThe, MonadExceptOf.throw]
  generalize credential u.password = password
  generalize credential (if u.username = "" then none else some u.username) = username
  split
  · rfl
  · rfl
  · split
    · rfl
    · split
      · cases username <;> cases password <;> rfl
      · split
        · cases username <;> cases password <;> rfl
        · rfl

theorem endpoint_of_ofTcp (accepted : ofTcp u = .ok a) : ∃ host port, a.endpoint = .tcp host port := by
  simp only [ofTcp, bind, Except.bind, pure, Except.pure, throw, throwThe, MonadExceptOf.throw] at accepted
  generalize credential u.password = password at accepted
  generalize credential (if u.username = "" then none else some u.username) = username at accepted
  split at accepted
  · cases accepted
  · cases accepted
  · split at accepted
    · cases accepted
    · split at accepted
      · cases username <;> cases password <;> cases accepted
        exact ⟨_, _, rfl⟩
      · split at accepted
        · cases username <;> cases password <;> cases accepted
          exact ⟨_, _, rfl⟩
        · cases accepted

theorem ofTcp_spec (accepted : ofTcp u = .ok a) :
    credential u.password = .ok a.password ∧ ∀ escaped password, credential escaped = .ok password →
      ofTcp { u with password := escaped } = .ok { a with password } := by
  rw [ofTcp_eq] at accepted
  cases bare : ofTcp { u with password := none } with
  | error e =>
      rw [bare] at accepted
      cases accepted
  | ok b =>
      cases own : credential u.password with
      | error e =>
          rw [bare, own] at accepted
          cases accepted
      | ok password =>
          rw [bare, own] at accepted
          cases accepted
          refine ⟨rfl, fun escaped password plain => ?_⟩
          rw [ofTcp_eq]
          dsimp only
          rw [bare, plain]
          rfl

theorem ofSocket_spec (accepted : ofSocket u = .ok a) :
    ∃ path database, socketPath? u = some path ∧
      a = ⟨.socket path, database, pair? u "user", pair? u "pass"⟩ := by
  simp only [ofSocket, bind, Except.bind, pure, Except.pure, throw, throwThe, MonadExceptOf.throw] at accepted
  split at accepted
  · rename_i path found
    split at accepted
    · cases accepted
      exact ⟨path, 0, found, rfl⟩
    · split at accepted
      · rename_i database _
        cases accepted
        exact ⟨path, database, found, rfl⟩
      · cases accepted
  · cases accepted

theorem ofUrl_of_tcp (accepted : ofUrl u = .ok a) (tcp : a.endpoint = .tcp host port) :
    Url.isSpecial u.scheme = false ∧ credential u.password = .ok a.password ∧
      ∀ escaped password, credential escaped = .ok password →
        ofUrl { u with password := escaped } = .ok { a with password } := by
  rw [ofUrl] at accepted
  split at accepted
  · rename_i named
    obtain ⟨own, others⟩ := ofTcp_spec accepted
    refine ⟨?_, own, fun escaped password plain => ?_⟩
    · rcases named with same | same <;> (rw [same]; decide)
    · rw [ofUrl, if_pos named, others escaped password plain]
  · split at accepted
    · obtain ⟨path, database, -, rfl⟩ := ofSocket_spec accepted
      cases tcp
    · cases accepted

theorem ofUrl_of_socket (accepted : ofUrl u = .ok a) (socket : a.endpoint = .socket path) :
    (u.scheme = "unix" ∨ u.scheme = "redis+unix") ∧ socketPath? u = some path ∧ a.password = pair? u "pass" := by
  rw [ofUrl] at accepted
  split at accepted
  · obtain ⟨host, port, tcp⟩ := endpoint_of_ofTcp accepted
    cases tcp.symm.trans socket
  · split at accepted
    · rename_i named
      obtain ⟨path', database, found, rfl⟩ := ofSocket_spec accepted
      cases socket
      exact ⟨named, found, rfl⟩
    · cases accepted

/-- The characters are read as the password where they stand before the host. -/
structure Spells (secret : List Char) (password : String) : Prop where
  some_ : secret ≠ []
  closed : Url.IsClosed false secret
  plain : plain? (Url.userinfo secret) = some password

theorem exists_escaped {escaped : Option String} (read : credential escaped = .ok (some password)) :
    ∃ text, escaped = some text ∧ plain? text = some password := by
  cases escaped with
  | none => cases read
  | some text =>
      rw [credential] at read
      split at read
      · rename_i plain
        cases read
        exact ⟨text, rfl, plain⟩
      · cases read

theorem redacted_eq (parsed : Url.ofText text = .ok u) :
    redacted text = { u with password := u.password.map fun _ => "***" }.text := by
  rw [redacted, parsed]

theorem hidden_before_host (accepted : ofText text = .ok a) (tcp : a.endpoint = .tcp host port)
    (has : a.password = some password) :
    ∃ front secret back, Url.cleaned text = front ++ secret ++ back ∧ Spells secret password ∧
      ∀ text' secret' password', Url.cleaned text' = front ++ secret' ++ back → Spells secret' password' →
        ofText text' = .ok { a with password := some password' } ∧ redacted text' = redacted text := by
  obtain ⟨u, parsed, accepted⟩ := exists_url accepted
  obtain ⟨plain, own, others⟩ := ofUrl_of_tcp accepted tcp
  obtain ⟨escaped, told, read⟩ := exists_escaped (own.trans (congrArg _ has))
  obtain ⟨front, secret, back, whole, some_, closed, rfl, replaced⟩ := Url.exists_secret parsed plain told
  refine ⟨front, secret, back, whole, ⟨some_, closed, read⟩, fun text' secret' password' whole' spells => ?_⟩
  have parsed' := replaced text' secret' whole' spells.some_ spells.closed
  constructor
  · rw [ofText_eq parsed']
    apply others
    rw [credential, spells.plain]
  · rw [redacted_eq parsed', redacted_eq parsed, told]
    rfl

theorem host_of_socketPath? (found : socketPath? u = some path) : ∀ host, u.host = some host →
    Url.IsClear host.text.toList := by
  intro host own
  rw [socketPath?, own] at found
  cases host with
  | empty => decide
  | v4 address => cases found
  | v6 groups => cases found
  | name name =>
      generalize u.path = path at found
      rcases path with text | (_ | ⟨first, rest⟩)
      · cases found
      · cases found
      · dsimp only at found
        split at found
        · rename_i same
          rw [same]
          decide
        · cases found

theorem writtenQuery?_redacted (parsed : Url.ofText text = .ok u) (accepted : ofUrl u = .ok a)
    (socket : a.endpoint = .socket path) :
    Url.writtenQuery? (redacted text).toList = u.query.map String.toList := by
  obtain ⟨named, found, -⟩ := ofUrl_of_socket accepted socket
  have escaped := Url.ofText_isEscaped parsed
  rw [redacted_eq parsed]
  refine Url.writtenQuery?_text ⟨escaped.username, ?_, escaped.path, escaped.query⟩ ?_ (host_of_socketPath? found)
  · intro password starred
    obtain ⟨own, -, rfl⟩ := Option.map_eq_some_iff.mp starred
    decide
  · change Url.IsClear u.scheme.toList
    rcases named with same | same <;> (rw [same]; decide)

theorem told_of_socket {text' : String} {a' : Address} {path' : Bytes} (accepted : ofText text = .ok a)
    (accepted' : ofText text' = .ok a') (socket : a.endpoint = .socket path) (socket' : a'.endpoint = .socket path')
    (same : redacted text' = redacted text) : a'.password = a.password := by
  obtain ⟨u, parsed, accepted⟩ := exists_url accepted
  obtain ⟨u', parsed', accepted'⟩ := exists_url accepted'
  have queries : u'.query.map String.toList = u.query.map String.toList := by
    rw [← writtenQuery?_redacted parsed accepted socket, ← writtenQuery?_redacted parsed' accepted' socket', same]
  have query : u'.query = u.query := Option.map_injective (fun _ _ => String.toList_inj.mp) queries
  rw [(ofUrl_of_socket accepted socket).2.2, (ofUrl_of_socket accepted' socket').2.2, pair?, pair?, query]

end Address

end Redis

namespace Scenario.Redis.State

open PlaceGateway.Redis

variable {s s' : State} {url text text' : String} {timeout : Duration}

theorem touch_url (s : State) (url : String) : touch { s with url } = { s.touch with url } := by
  rw [touch, touch]
  split <;> rfl

theorem giveUp_url (s : State) (url : String) : giveUp { s with url } = { s.giveUp with url } := by
  rw [giveUp, giveUp]
  split <;> rfl

theorem failureLog_url (same : Address.redacted url = Address.redacted s.url) :
    failureLog { s with url } = s.failureLog := by
  rw [failureLog, failureLog, same]

@[simp] theorem url_touch (s : State) : s.touch.url = s.url := by
  rw [touch]
  split <;> rfl

@[simp] theorem url_giveUp (s : State) : s.giveUp.url = s.url := by
  rw [giveUp]
  split <;> rfl

theorem url_step (s : State) (next : Step) : (s.step next).1.url = s.url := by
  cases next with
  | wait =>
      rw [step]
      split
      · exact s.url_giveUp
      · rfl
  | waitFailed => exact s.url_giveUp
  | tryConnect | backend => rfl
  | get | set | rawGet | rawSet | delete | healthy | rawHealth => exact s.url_touch

theorem step_url (same : Address.redacted url = Address.redacted s.url) (next : Step) :
    step { s with url } next = ({ (s.step next).1 with url }, (s.step next).2) := by
  cases next with
  | wait =>
      simp only [step, giveUp_url, failureLog_url same]
      split <;> rfl
  | tryConnect =>
      simp only [step, failureLog_url same]
      rfl
  | waitFailed => simp only [step, giveUp_url, failureLog_url same]
  | backend => rfl
  | get | set | rawGet | rawSet | delete | healthy | rawHealth => simp only [step, touch_url]

theorem run_url (same : Address.redacted url = Address.redacted s.url) (steps : List Step) :
    (run { s with url } steps).1 = (s.run steps).1 := by
  induction steps generalizing s with
  | nil => rfl
  | cons next rest ih =>
      have rest_ := ih (s := (s.step next).1) (by rw [url_step, same])
      rw [run, run, step_url same]
      dsimp only
      rw [rest_]

def fresh (text : String) (timeout : Duration) : State := ⟨text, timeout, meanPersistence, .due, 0, 0⟩

theorem initial?_of_accepted {a : Address} (accepted : Address.ofText text = .ok a) (timeout : Duration) :
    initial? text timeout = some (fresh text timeout) := by
  rw [initial?, accepted]
  rfl

theorem eq_fresh (started : initial? text timeout = some s) : s = fresh text timeout := by
  rw [initial?] at started
  split at started
  · exact (Option.some.inj started).symm
  · cases started

theorem logs_alike_iff (started : initial? text timeout = some s) (started' : initial? text' timeout = some s') :
    (∀ steps, (s'.run steps).1 = (s.run steps).1) ↔ Address.redacted text' = Address.redacted text := by
  cases eq_fresh started
  cases eq_fresh started'
  constructor
  · intro alike
    have lines := alike [.rawGet "", .waitFailed]
    have line : ["WARN " ++ Address.redacted text'] = ["WARN " ++ Address.redacted text] :=
      (Prod.mk.inj (List.cons.inj (List.cons.inj lines).2).1).2
    exact (String.append_right_inj _).mp (List.cons.inj line).1
  · intro same steps
    exact run_url (s := fresh text timeout) same steps

end Scenario.Redis.State

namespace Redis

open Address
open Scenario.Redis (State)

/-- The log is the same whatever password stands before the host, and tells the password of a socket. Scripted
runs from two URLs are told apart by the redacted texts alone. -/
theorem only_sockets_log_passwords {text password : String} {a : Address} (accepted : ofText text = .ok a)
    (has : a.password = some password) :
    (∀ host port, a.endpoint = .tcp host port →
      ∃ front secret back, Url.cleaned text = front ++ secret ++ back ∧ Spells secret password ∧
        ∀ text' secret' password', Url.cleaned text' = front ++ secret' ++ back → Spells secret' password' →
          ofText text' = .ok { a with password := some password' } ∧ redacted text' = redacted text) ∧
    (∀ path, a.endpoint = .socket path →
      ∀ text' password', ofText text' = .ok { a with password := some password' } →
        redacted text' = redacted text → password' = password) ∧
    ∀ text' timeout s s', State.initial? text timeout = some s → State.initial? text' timeout = some s' →
      ((∀ steps, (s'.run steps).1 = (s.run steps).1) ↔ redacted text' = redacted text) := by
  refine ⟨fun host port tcp => hidden_before_host accepted tcp has, ?_, ?_⟩
  · intro path socket text' password' accepted' same
    have told := told_of_socket accepted accepted' socket socket same
    rw [has] at told
    exact Option.some.inj told
  · intro text' timeout s s' started started'
    exact State.logs_alike_iff started started'

def socketUrl (password : String) : String := "unix:///run/places-proxy/redis.sock?pass=" ++ password

theorem socketUrl_accepted :
    ofText (socketUrl "secret") = .ok ⟨.socket (Bytes.ofText "/run/places-proxy/redis.sock"), 0, none, some "secret"⟩ ∧
    ofText (socketUrl "other") =
      .ok ⟨.socket (Bytes.ofText "/run/places-proxy/redis.sock"), 0, none, some "other"⟩ :=
  ⟨by decide +kernel, by decide +kernel⟩

theorem only_sockets_log_passwords_of_secret :
    (∃ front secret back, Url.cleaned "redis://u:p%40x@h/2" = front ++ secret ++ back ∧ Spells secret "p@x" ∧
      ∀ text' secret' password', Url.cleaned text' = front ++ secret' ++ back → Spells secret' password' →
        ofText text' = .ok ⟨.tcp (.name "h") 6379, 2, some "u", some password'⟩ ∧
          redacted text' = redacted "redis://u:p%40x@h/2") ∧
    redacted (socketUrl "other") ≠ redacted (socketUrl "secret") ∧
    ∃ s s', State.initial? (socketUrl "secret") (.ofMillis 80) = some s ∧
      State.initial? (socketUrl "other") (.ofMillis 80) = some s' ∧ ∃ steps, (s'.run steps).1 ≠ (s.run steps).1 := by
  have written : ofText "redis://u:p%40x@h/2" = .ok ⟨.tcp (.name "h") 6379, 2, some "u", some "p@x"⟩ := by
    decide +kernel
  obtain ⟨secret, other⟩ := socketUrl_accepted
  obtain ⟨hidden, -, -⟩ := only_sockets_log_passwords written rfl
  obtain ⟨-, told, runs⟩ := only_sockets_log_passwords secret rfl
  have differ : redacted (socketUrl "other") ≠ redacted (socketUrl "secret") := by
    intro same
    exact absurd (told _ rfl _ _ other same) (by decide)
  have started := State.initial?_of_accepted secret (.ofMillis 80)
  have started' := State.initial?_of_accepted other (.ofMillis 80)
  refine ⟨hidden _ _ rfl, differ, _, _, started, started', ?_⟩
  exact not_forall.mp fun alike => differ ((runs _ _ _ _ started started').mp alike)

/-- Two passwords of one socket, and the logs tell which. -/
theorem socket_password_is_logged :
    ofText (socketUrl "secret") = .ok ⟨.socket (Bytes.ofText "/run/places-proxy/redis.sock"), 0, none, some "secret"⟩ ∧
    ofText (socketUrl "other") =
      .ok ⟨.socket (Bytes.ofText "/run/places-proxy/redis.sock"), 0, none, some "other"⟩ ∧
    redacted (socketUrl "other") ≠ redacted (socketUrl "secret") := by
  obtain ⟨secret, other⟩ := socketUrl_accepted
  refine ⟨secret, other, fun same => ?_⟩
  exact absurd (told_of_socket secret other rfl rfl same) (by decide)

end Redis

end PlaceGateway
