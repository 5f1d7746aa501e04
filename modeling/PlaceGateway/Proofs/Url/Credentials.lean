import Mathlib.Data.List.Basic
import Mathlib.Data.List.TakeWhile
import PlaceGateway.Proofs.Url.Form
import PlaceGateway.Proofs.Url.Origin
/-! Credentials in an authority: they stand before its last at sign, the password after their first colon. What
is written there for a password has no say in the rest of the URL. -/

namespace PlaceGateway.Url

variable {special : Bool} {before user secret secret' rest cs : List Char} {scheme : String}

theorem isClosed_append : IsClosed special (before ++ rest) ↔ IsClosed special before ∧ IsClosed special rest :=
  List.forall_mem_append

def authorityOf (special : Bool) (cs : List Char) : List Char := cs.takeWhile fun c => !endsAuthority special c

theorem authorityOf_append (closed : IsClosed special before) :
    authorityOf special (before ++ rest) = before ++ authorityOf special rest := by
  refine List.takeWhile_append_of_pos fun c member => ?_
  rw [closed c member]
  rfl

theorem authorityOf_closed (special : Bool) (cs : List Char) : IsClosed special (authorityOf special cs) := by
  intro c member
  simpa using List.mem_takeWhile_imp member

theorem endsAuthority_sign (special : Bool) : endsAuthority special '@' = false := by
  cases special <;> decide

theorem authorityOf_sign (special : Bool) (rest : List Char) :
    authorityOf special ('@' :: rest) = '@' :: authorityOf special rest := by
  rw [authorityOf, List.takeWhile_cons_of_pos (by rw [endsAuthority_sign]; rfl)]
  rfl

def afterSign (cs : List Char) : List Char := (cs.reverse.takeWhile (· != '@')).reverse

theorem afterSign_of_notMem (none_ : '@' ∉ cs) : afterSign cs = cs := by
  have all := forall_bne (mt List.mem_reverse.mp none_)
  rw [afterSign, List.takeWhile_eq_self_iff.mpr all, List.reverse_reverse]

theorem afterSign_append (none_ : '@' ∉ rest) : afterSign (before ++ '@' :: rest) = rest := by
  have reversed : (before ++ '@' :: rest).reverse = rest.reverse ++ '@' :: before.reverse := by simp
  have all := forall_bne (mt List.mem_reverse.mp none_)
  rw [afterSign, reversed, List.takeWhile_append_of_pos all, List.takeWhile_cons_of_neg (by decide),
    List.append_nil, List.reverse_reverse]

/-- The at sign between them is the last one of the authority. -/
structure Signed (special : Bool) (before rest : List Char) : Prop where
  closed : IsClosed special before
  last : '@' ∉ authorityOf special rest

theorem exists_signed (sign : '@' ∈ authorityOf special cs) :
    ∃ before rest, cs = before ++ '@' :: rest ∧ Signed special before rest := by
  -- The last at sign is the first one from behind.
  obtain ⟨back, front, reversed, none_⟩ := List.eq_append_cons_of_mem (List.mem_reverse.mpr sign)
  have authority : authorityOf special cs = front.reverse ++ '@' :: back.reverse := by
    have turned := congrArg List.reverse reversed
    simpa using turned
  have closed : IsClosed special front.reverse := by
    intro c member
    refine authorityOf_closed special cs c ?_
    rw [authority]
    exact List.mem_append_left _ member
  have whole : cs = front.reverse ++ '@' :: (back.reverse ++ cs.dropWhile fun c => !endsAuthority special c) := by
    have parts := List.takeWhile_append_dropWhile (p := fun c => !endsAuthority special c) (l := cs)
    change authorityOf special cs ++ _ = cs at parts
    rw [authority] at parts
    simpa using parts.symm
  refine ⟨_, _, whole, closed, ?_⟩
  rw [whole, authorityOf_append closed, authorityOf_sign, List.append_right_inj] at authority
  rw [(List.cons.inj authority).2, List.mem_reverse]
  exact none_

def signedLength (special : Bool) (cs : List Char) : Nat :=
  (authorityOf special cs).length - (afterSign (authorityOf special cs)).length

theorem split_eq (special : Bool) (cs : List Char) :
    Credentials.split special cs =
      if afterSign (authorityOf special cs) = authorityOf special cs then .ok (.none, cs)
      else if signedLength special cs = 1 then
        if (cs.drop (signedLength special cs)).head?.any (endsAuthority special) then .error .emptyHost
        else .ok (.none, cs.drop (signedLength special cs))
      else .ok (Credentials.ofText (cs.take (signedLength special cs - 1)), cs.drop (signedLength special cs)) :=
  rfl

theorem split_of_unsigned (none_ : '@' ∉ authorityOf special cs) :
    Credentials.split special cs = .ok (.none, cs) := by
  rw [split_eq, if_pos (afterSign_of_notMem none_)]

theorem split_of_signed (signed : Signed special before rest) :
    Credentials.split special (before ++ '@' :: rest) =
      if before = [] then if rest.head?.any (endsAuthority special) then .error .emptyHost else .ok (.none, rest)
      else .ok (Credentials.ofText before, rest) := by
  have authority : authorityOf special (before ++ '@' :: rest) = before ++ '@' :: authorityOf special rest := by
    rw [authorityOf_append signed.closed, authorityOf_sign]
  have host : afterSign (authorityOf special (before ++ '@' :: rest)) = authorityOf special rest := by
    rw [authority, afterSign_append signed.last]
  have length : signedLength special (before ++ '@' :: rest) = before.length + 1 := by
    rw [signedLength, host, authority, List.length_append, List.length_cons]
    omega
  have other : authorityOf special rest ≠ authorityOf special (before ++ '@' :: rest) := by
    intro same
    have lengths := congrArg List.length (same.trans authority)
    rw [List.length_append, List.length_cons] at lengths
    omega
  have dropped : (before ++ '@' :: rest).drop (before.length + 1) = rest := by
    rw [← List.drop_drop, List.drop_left]
    rfl
  have taken : (before ++ '@' :: rest).take (before.length + 1 - 1) = before := by simp
  rw [split_eq, host, if_neg other, length, dropped, taken]
  simp only [Nat.add_eq_right, List.length_eq_zero_iff]

theorem signed_of_split {credentials : Credentials}
    (split : Credentials.split special cs = .ok (credentials, rest)) (told : credentials ≠ .none) :
    ∃ before, cs = before ++ '@' :: rest ∧ Signed special before rest ∧ before ≠ [] ∧
      credentials = Credentials.ofText before := by
  by_cases sign : '@' ∈ authorityOf special cs
  · obtain ⟨before, after, rfl, signed⟩ := exists_signed sign
    rw [split_of_signed signed] at split
    split at split
    · split at split
      · cases split
      · cases split
        exact absurd rfl told
    · rename_i some_
      cases split
      exact ⟨before, rfl, signed, some_, rfl⟩
  · rw [split_of_unsigned sign] at split
    cases split
    exact absurd rfl told

def userinfo (cs : List Char) : String := String.ofList (escape inUserinfo cs)

theorem ofText_login (none_ : ':' ∉ user) (told : secret ≠ []) :
    Credentials.ofText (user ++ ':' :: secret) = ⟨userinfo user, some (userinfo secret)⟩ := by
  rw [Credentials.ofText, splitChar_append none_ _]
  dsimp only
  rw [if_neg told]
  rfl

theorem login_of_password {password : String} (has : (Credentials.ofText before).password = some password) :
    ∃ user secret, before = user ++ ':' :: secret ∧ ':' ∉ user ∧ secret ≠ [] ∧ password = userinfo secret := by
  by_cases colon : ':' ∈ before
  · obtain ⟨user, secret, rfl, none_⟩ := List.eq_append_cons_of_mem colon
    by_cases empty : secret = []
    · subst empty
      rw [Credentials.ofText, splitChar_append none_ _] at has
      cases has
    · rw [ofText_login none_ empty] at has
      exact ⟨user, secret, rfl, none_, empty, (Option.some.inj has).symm⟩
  · have nothing : before.dropWhile (· != ':') = [] := List.dropWhile_eq_nil_iff.mpr (forall_bne colon)
    rw [Credentials.ofText, splitChar, nothing] at has
    cases has

structure Login (special : Bool) (user secret rest : List Char) : Prop where
  signed : Signed special (user ++ ':' :: secret) rest
  first : ':' ∉ user
  told : secret ≠ []

theorem Login.replaced (login : Login special user secret rest) (told : secret' ≠ [])
    (closed : IsClosed special secret') : Login special user secret' rest where
  signed := by
    have own := login.signed.closed
    rw [List.append_cons, isClosed_append] at own
    refine ⟨?_, login.signed.last⟩
    rw [List.append_cons, isClosed_append]
    exact ⟨own.1, closed⟩
  first := login.first
  told := told

theorem Login.split (login : Login special user secret rest) :
    Credentials.split special (user ++ ':' :: secret ++ '@' :: rest) =
      .ok (⟨userinfo user, some (userinfo secret)⟩, rest) := by
  rw [split_of_signed login.signed, if_neg (by simp), ofText_login login.first login.told]

theorem ofAuthority_login (login : Login (isSpecial scheme) user secret rest)
    (login' : Login (isSpecial scheme) user secret' rest) :
    ofAuthority scheme (user ++ ':' :: secret' ++ '@' :: rest) =
      (ofAuthority scheme (user ++ ':' :: secret ++ '@' :: rest)).map fun u =>
        { u with password := some (userinfo secret') } := by
  rw [ofAuthority_eq, ofAuthority_eq, login.split, login'.split]
  simp only [Except.bind]
  cases hostOf (isSpecial scheme) (hostChars (isSpecial scheme) false rest) with
  | error e => rfl
  | ok host =>
      have some_ (password : String) : (⟨userinfo user, some password⟩ : Credentials) ≠ .none := by
        simp [Credentials.none]
      simp only [some_, ne_eq, not_false_eq_true, or_true, and_true]
      split
      · rfl
      · cases portOf scheme (rest.drop (hostChars (isSpecial scheme) false rest).length) <;> rfl

theorem ofAuthority_spec {u : Url} (parsed : ofAuthority scheme cs = .ok u) :
    ∃ credentials rest host port tail, Credentials.split (isSpecial scheme) cs = .ok (credentials, rest) ∧
      u = withTail (isSpecial scheme) tail
        ⟨scheme, credentials.username, credentials.password, some host, port, .rooted [], none, none⟩ := by
  rw [ofAuthority_eq] at parsed
  cases split : Credentials.split (isSpecial scheme) cs with
  | error e =>
      rw [split] at parsed
      cases parsed
  | ok both =>
      rw [split] at parsed
      simp only [Except.bind] at parsed
      split at parsed
      · cases parsed
      · rename_i host _
        split at parsed
        · cases parsed
        · cases port : portOf scheme (both.2.drop (hostChars (isSpecial scheme) false both.2).length) with
          | error e =>
              rw [port] at parsed
              cases parsed
          | ok rest =>
              rw [port] at parsed
              cases parsed
              exact ⟨both.1, both.2, host, rest.1, rest.2, rfl, rfl⟩

theorem exists_name (told : scheme? cs = some (scheme, rest)) :
    ∃ name, cs = name ++ ':' :: rest ∧ ∀ after, scheme? (name ++ ':' :: after) = some (scheme, after) := by
  rw [scheme?] at told
  generalize same : (cs.takeWhile fun c => c.isAlphanum || c == '+' || c == '-' || c == '.') = name at told
  have whole : name ++ cs.drop name.length = cs := by
    have front := List.takeWhile_prefix (l := cs) fun c => c.isAlphanum || c == '+' || c == '-' || c == '.'
    rw [same] at front
    exact List.prefix_iff_eq_append.mp front
  have named : ∀ c ∈ name, (c.isAlphanum || c == '+' || c == '-' || c == '.') = true := by
    intro c member
    rw [← same] at member
    exact List.mem_takeWhile_imp (p := fun c => c.isAlphanum || c == '+' || c == '-' || c == '.') member
  split at told
  · rename_i after colon
    split at told
    · rename_i lettered
      cases told
      rw [colon] at whole
      refine ⟨name, whole.symm, fun after => ?_⟩
      have again : ((name ++ ':' :: after).takeWhile fun c => c.isAlphanum || c == '+' || c == '-' || c == '.') =
          name := by
        rw [List.takeWhile_append_of_pos named, List.takeWhile_cons_of_neg (by decide), List.append_nil]
      rw [scheme?, again, List.drop_left]
      exact if_pos lettered
    · cases told
  · cases told

theorem ofText_of_authority {text : String} (plain : isSpecial scheme = false)
    (named : scheme? (cleaned text) = some (scheme, '/' :: '/' :: cs)) : ofText text = ofAuthority scheme cs := by
  have other : scheme ≠ "file" := by
    rintro rfl
    revert plain
    decide
  rw [ofText, named]
  split
  · contradiction
  · rename_i same
    exact absurd (Prod.mk.inj (Option.some.inj same)).1 other
  · rename_i own after same
    cases same
    rw [plain]
    rfl

theorem ofFile_spec {u : Url} (parsed : ofFile cs = .ok u) :
    ∃ host rest, u = { ofPath "file" (pathOf true rest) rest with host := some host } := by
  simp only [ofFile, bind, Except.bind] at parsed
  generalize (if isDriveLetter _ then _ else _ : List Char) = chars at parsed
  split at parsed
  · by_cases empty : chars = []
    · simp only [empty, if_true] at parsed
      cases parsed
      exact ⟨_, _, rfl⟩
    · simp only [empty, if_false] at parsed
      cases domain : Host.ofDomain chars with
      | error e =>
          rw [domain] at parsed
          cases parsed
      | ok host =>
          rw [domain] at parsed
          cases parsed
          exact ⟨_, _, rfl⟩
  · cases parsed
    exact ⟨_, _, rfl⟩

theorem authority_of_password {text password : String} {u : Url} (parsed : ofText text = .ok u)
    (plain : isSpecial u.scheme = false) (has : u.password = some password) :
    ∃ cs, scheme? (cleaned text) = some (u.scheme, '/' :: '/' :: cs) ∧ ofAuthority u.scheme cs = .ok u := by
  rw [ofText] at parsed
  split at parsed
  · cases parsed
  · obtain ⟨host, rest, rfl⟩ := ofFile_spec parsed
    cases has
  · rename_i scheme after other named
    split at parsed
    · rename_i special
      obtain ⟨credentials, rest, host, port, tail, -, rfl⟩ := ofAuthority_spec parsed
      exact absurd (plain.symm.trans special) (by decide)
    · split at parsed
      · rename_i cs
        obtain ⟨credentials, rest, host, port, tail, -, rfl⟩ := ofAuthority_spec parsed
        exact ⟨cs, named, parsed⟩
      · cases parsed
        cases has
      · cases parsed
        cases has

/-- The characters of a password stand in one piece. Others in their place give another password, and leave the
rest of the URL as it is. -/
theorem exists_secret {text password : String} {u : Url} (parsed : ofText text = .ok u)
    (plain : isSpecial u.scheme = false) (has : u.password = some password) :
    ∃ front secret back, cleaned text = front ++ secret ++ back ∧ secret ≠ [] ∧ IsClosed false secret ∧
      password = userinfo secret ∧ ∀ text' secret', cleaned text' = front ++ secret' ++ back → secret' ≠ [] →
        IsClosed false secret' → ofText text' = .ok { u with password := some (userinfo secret') } := by
  obtain ⟨authority, named, own⟩ := authority_of_password parsed plain has
  obtain ⟨credentials, rest, host, port, tail, split, same⟩ := ofAuthority_spec own
  have told : credentials.password = some password := by
    rw [← has, same]
    rfl
  have some_ : credentials ≠ .none := by
    rintro rfl
    cases told
  obtain ⟨before, rfl, signed, -, rfl⟩ := signed_of_split split some_
  obtain ⟨user, secret, rfl, first, secret_, rfl⟩ := login_of_password told
  obtain ⟨name, whole, again⟩ := exists_name named
  have login : Login (isSpecial u.scheme) user secret rest := ⟨signed, first, secret_⟩
  have closed := signed.closed
  rw [List.append_cons, isClosed_append, plain] at closed
  refine ⟨name ++ ':' :: '/' :: '/' :: (user ++ [':']), secret, '@' :: rest, by simp [whole], secret_, closed.2,
    rfl, ?_⟩
  intro text' secret' whole' secret'_ closed'
  have named' : scheme? (cleaned text') = some (u.scheme, '/' :: '/' :: (user ++ ':' :: secret' ++ '@' :: rest)) := by
    rw [← again, whole']
    simp
  rw [ofText_of_authority plain named', ofAuthority_login login (login.replaced secret'_ (plain.symm ▸ closed')), own]
  rfl

end PlaceGateway.Url
