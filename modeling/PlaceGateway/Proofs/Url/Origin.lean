import Mathlib.Data.List.Basic
import Mathlib.Data.List.TakeWhile
import PlaceGateway.Url
/-! URLs of a scheme, a host and a port, and what becomes of text after them: it makes the path, the query and
the fragment, and has no say in the rest. -/

namespace PlaceGateway.Url

variable {special bracket : Bool} {front cs tail : List Char}

def IsClosed (special : Bool) (cs : List Char) : Prop := ∀ c ∈ cs, endsAuthority special c = false

/-- The text is none, or a path and what comes after it, without blanks and control characters. -/
structure IsTail (tail : List Char) : Prop where
  rooted : tail = [] ∨ ∃ rest, tail = '/' :: rest
  visible : ∀ c ∈ tail, 32 < c.toNat

def withTail (special : Bool) (tail : List Char) (u : Url) : Url :=
  { u with path := pathOf special tail, query := (trailer special tail).1, fragment := (trailer special tail).2 }

@[simp] theorem endsAuthority_slash (special : Bool) : endsAuthority special '/' = true := by
  cases special <;> decide

theorem IsClosed.of_special (closed : IsClosed true cs) (special : Bool) : IsClosed special cs := by
  cases special with
  | true => exact closed
  | false =>
      intro c member
      have none_ := closed c member
      simp only [endsAuthority, isSlash, Bool.true_and, Bool.false_and, Bool.or_false, Bool.or_eq_false_iff] at *
      exact ⟨⟨none_.1.1.1, none_.1.2⟩, none_.2⟩

theorem IsClosed.head?_any (closed : IsClosed special cs) : cs.head?.any (endsAuthority special) = false := by
  cases cs with
  | nil => rfl
  | cons c cs => exact closed c List.mem_cons_self

theorem IsClosed.takeWhile (closed : IsClosed special cs) :
    cs.takeWhile (fun c => !endsAuthority special c) = cs := by
  rw [List.takeWhile_eq_self_iff]
  intro c member
  rw [closed c member]
  rfl

theorem IsClosed.drop (closed : IsClosed special cs) (n : Nat) : IsClosed special (cs.drop n) :=
  fun c member => closed c (List.mem_of_mem_drop member)

theorem afterSign_ne_nil (last : cs.getLast? ≠ some '@') (some_ : cs ≠ []) :
    (cs.reverse.takeWhile (· != '@')).reverse ≠ [] := by
  intro nothing
  rw [List.reverse_eq_nil_iff] at nothing
  cases back : cs.reverse with
  | nil => exact some_ (List.reverse_eq_nil_iff.mp back)
  | cons c rest =>
      rw [back, List.takeWhile_cons] at nothing
      split at nothing
      · cases nothing
      · rename_i sign
        have sign : c = '@' := by simpa using sign
        rw [← List.head?_reverse, back, sign] at last
        exact last rfl

namespace IsTail

variable (follows : IsTail tail)
include follows

theorem takeWhile_append {p : Char → Bool} (slash : p '/' = false) :
    (front ++ tail).takeWhile p = front.takeWhile p := by
  induction front with
  | nil =>
      rcases follows.rooted with rfl | ⟨rest, rfl⟩
      · rfl
      · simp [slash]
  | cons c front ih => rw [List.cons_append, List.takeWhile_cons, List.takeWhile_cons, ih]

theorem takeWhile_closed (closed : IsClosed special cs) :
    (cs ++ tail).takeWhile (fun c => !endsAuthority special c) = cs := by
  rw [follows.takeWhile_append (by simp), closed.takeWhile]

theorem head?_any_append {p : Char → Bool} (slash : p '/' = false) :
    (front ++ tail).head?.any p = front.head?.any p := by
  cases front with
  | cons c front => rfl
  | nil =>
      rcases follows.rooted with rfl | ⟨rest, rfl⟩
      · rfl
      · simpa using slash

theorem head?_append_eq_iff {c : Char} (other : c ≠ '/') :
    (front ++ tail).head? = some c ↔ front.head? = some c := by
  cases front with
  | cons d front => rfl
  | nil =>
      rcases follows.rooted with rfl | ⟨rest, rfl⟩
      · rfl
      · simp [other.symm]

theorem hostChars_append (special bracket : Bool) (front : List Char) :
    hostChars special bracket (front ++ tail) = hostChars special bracket front := by
  induction front generalizing bracket with
  | nil =>
      rcases follows.rooted with rfl | ⟨rest, rfl⟩
      · rfl
      · simp [hostChars]
  | cons c front ih => rw [List.cons_append, hostChars, hostChars, ih]

theorem split_append (closed : IsClosed special cs) (last : cs.getLast? ≠ some '@') :
    Credentials.split special (cs ++ tail) =
      (Credentials.split special cs).map fun both => (both.1, both.2 ++ tail) := by
  rw [Credentials.split, Credentials.split, follows.takeWhile_closed closed, closed.takeWhile]
  generalize hosted : (cs.reverse.takeWhile (· != '@')).reverse = host
  have part : host.length ≤ cs.length := by
    have shorter := (List.takeWhile_prefix (l := cs.reverse) (· != '@')).length_le
    rw [← hosted, List.length_reverse]
    rwa [List.length_reverse] at shorter
  -- With credentials the host is a proper end of the authority, and what follows does not reach into them.
  by_cases all : host = cs
  · simp only [all, if_true]
    rfl
  have some_ : host ≠ [] := by
    rw [← hosted]
    apply afterSign_ne_nil last
    rintro rfl
    exact all hosted.symm
  have positive : 0 < host.length := List.length_pos_iff.mpr some_
  have dropped : (cs ++ tail).drop (cs.length - host.length) = cs.drop (cs.length - host.length) ++ tail :=
    List.drop_append_of_le_length (Nat.sub_le _ _)
  have taken : (cs ++ tail).take (cs.length - host.length - 1) = cs.take (cs.length - host.length - 1) :=
    List.take_append_of_le_length (by omega)
  have rest : cs.drop (cs.length - host.length) ≠ [] := by
    rw [← List.length_pos_iff, List.length_drop]
    omega
  have ended : (cs.drop (cs.length - host.length) ++ tail).head?.any (endsAuthority special) =
      (cs.drop (cs.length - host.length)).head?.any (endsAuthority special) := by
    cases split : cs.drop (cs.length - host.length) with
    | nil => exact absurd split rest
    | cons c rest => rfl
  simp only [all, if_false, dropped, taken, ended, (closed.drop _).head?_any]
  split <;> rfl

end IsTail

theorem hostChars_spec (closed : IsClosed special cs) (bracket : Bool) :
    ∃ rest, cs = hostChars special bracket cs ++ rest ∧ (rest = [] ∨ ∃ port, rest = ':' :: port) := by
  induction cs generalizing bracket with
  | nil => exact ⟨[], rfl, .inl rfl⟩
  | cons c cs ih =>
      rcases List.forall_mem_cons.mp closed with ⟨first, closed⟩
      rw [hostChars, first, Bool.false_or]
      split
      · rename_i colon
        simp only [Bool.and_eq_true, beq_iff_eq] at colon
        exact ⟨c :: cs, rfl, .inr ⟨cs, by rw [colon.2]⟩⟩
      · rcases ih closed (c == '[' || (bracket && c != ']')) with ⟨rest, split, ends⟩
        exact ⟨rest, congrArg (c :: ·) split, ends⟩

theorem split_suffix {credentials : Credentials} {rest : List Char}
    (split : Credentials.split special cs = .ok (credentials, rest)) : rest <:+ cs := by
  rw [Credentials.split] at split
  split at split
  · cases split
    exact List.suffix_rfl
  dsimp only at split
  split at split
  · split at split
    · cases split
    · cases split
      exact List.drop_suffix _ _
  · cases split
    exact List.drop_suffix _ _

theorem splitPort_append (scheme : String) (closed : IsClosed true cs) (follows : IsTail tail) :
    splitPort scheme (cs ++ tail) = (splitPort scheme cs).map fun both => (both.1, tail) := by
  have digits : (cs ++ tail).takeWhile Char.isDigit = cs.takeWhile Char.isDigit :=
    follows.takeWhile_append (by decide)
  have dropped : (cs ++ tail).drop (cs.takeWhile Char.isDigit).length =
      cs.drop (cs.takeWhile Char.isDigit).length ++ tail :=
    List.drop_append_of_le_length (List.takeWhile_prefix _).length_le
  have ended : (cs.drop (cs.takeWhile Char.isDigit).length ++ tail).head?.any (fun c => !endsAuthority true c) =
      (cs.drop (cs.takeWhile Char.isDigit).length).head?.any (fun c => !endsAuthority true c) :=
    follows.head?_any_append (by simp)
  have closed := closed.drop (cs.takeWhile Char.isDigit).length
  simp only [splitPort, digits, dropped, ended]
  generalize cs.drop (cs.takeWhile Char.isDigit).length = rest at *
  split
  · rfl
  · rename_i fine
    cases rest with
    | nil => rfl
    | cons c rest =>
        have ends := closed c List.mem_cons_self
        simp [ends] at fine

def hostOf (special : Bool) (chars : List Char) : Except UrlError Host :=
  if special ∧ chars = [] then .error .emptyHost else if special then Host.ofDomain chars else Host.ofText chars

def portOf (scheme : String) (after : List Char) : Except UrlError (Option Nat × List Char) :=
  if after.head? = some ':' then splitPort scheme (after.drop 1) else .ok (none, after)

theorem ofAuthority_eq (scheme : String) (cs : List Char) :
    ofAuthority scheme cs = (Credentials.split (isSpecial scheme) cs).bind fun both =>
      let chars := hostChars (isSpecial scheme) false both.2
      let after := both.2.drop chars.length
      (hostOf (isSpecial scheme) chars).bind fun host =>
        if host = .empty ∧ (after.head? = some ':' ∨ both.1 ≠ .none) then .error .emptyHost
        else (portOf scheme after).map fun rest =>
          withTail (isSpecial scheme) rest.2
            ⟨scheme, both.1.username, both.1.password, some host, rest.1, .rooted [], none, none⟩ := by
  simp only [ofAuthority, bind]
  cases Credentials.split (isSpecial scheme) cs with
  | error e => rfl
  | ok both =>
      simp only [Except.bind, hostOf, portOf]
      generalize hostChars (isSpecial scheme) false both.2 = chars
      generalize both.2.drop chars.length = after
      by_cases none_ : isSpecial scheme = true ∧ chars = []
      · simp only [none_, and_self, if_true]
        rfl
      by_cases colon : after.head? = some ':'
      · simp only [none_, if_false, colon, if_true, true_or, and_true]
        cases isSpecial scheme <;> rfl
      · simp only [none_, if_false, colon, false_or]
        cases isSpecial scheme <;> rfl

theorem portOf_append (scheme : String) (closed : IsClosed true cs)
    (ends : cs = [] ∨ ∃ port, cs = ':' :: port) (follows : IsTail tail) :
    portOf scheme (cs ++ tail) = (portOf scheme cs).map fun both => (both.1, tail) := by
  rcases ends with rfl | ⟨port, rfl⟩
  · have other : ¬ tail.head? = some ':' := by
      rw [← List.nil_append tail, follows.head?_append_eq_iff (by decide)]
      exact nofun
    rw [portOf, List.nil_append, if_neg other]
    rfl
  · exact splitPort_append scheme (closed.drop 1) follows

theorem ofAuthority_append (scheme : String) (closed : IsClosed true cs) (last : cs.getLast? ≠ some '@')
    (follows : IsTail tail) :
    ofAuthority scheme (cs ++ tail) = (ofAuthority scheme cs).map (withTail (isSpecial scheme) tail) := by
  have open_ := closed.of_special (isSpecial scheme)
  rw [ofAuthority_eq, ofAuthority_eq, follows.split_append open_ last]
  cases split : Credentials.split (isSpecial scheme) cs with
  | error e => rfl
  | ok both =>
      rcases both with ⟨credentials, rest⟩
      have suffix := split_suffix split
      have restClosed : IsClosed true rest := fun c member => closed c (suffix.subset member)
      rcases hostChars_spec (restClosed.of_special (isSpecial scheme)) false with ⟨after, parts, ends⟩
      simp only [Except.map, Except.bind, follows.hostChars_append]
      generalize hostChars (isSpecial scheme) false rest = chars at *
      subst parts
      have afterClosed : IsClosed true after := fun c member => restClosed c (List.mem_append_right chars member)
      simp only [List.append_assoc, List.drop_left, portOf_append scheme afterClosed ends follows,
        follows.head?_append_eq_iff (show ':' ≠ '/' by decide)]
      cases hostOf (isSpecial scheme) chars with
      | error e => rfl
      | ok host =>
          simp only
          split
          · rfl
          · cases portOf scheme after <;> rfl

theorem ofFile_append (closed : IsClosed true cs) (drive : isDriveLetter cs = false) (follows : IsTail tail) :
    ofFile ('/' :: '/' :: (cs ++ tail)) = (ofFile ('/' :: '/' :: cs)).map (withTail true tail) := by
  have slashes : [('/' : Char), '/'].length = 2 ∧ ['/', '/'].all (isSlash true) = true := by decide
  simp only [ofFile, List.take_succ_cons, List.take_zero, List.drop_succ_cons, List.drop_zero, slashes, and_self,
    if_true, closed.takeWhile, follows.takeWhile_closed closed, drive, Bool.false_eq_true, if_false,
    List.drop_left, bind]
  by_cases none_ : cs = []
  · simp only [none_, if_true]
    rfl
  · simp only [none_, if_false]
    cases Host.ofDomain cs <;> rfl

def isKept (c : Char) : Bool := c != '\t' && c != '\n' && c != '\x0d'

theorem isKept_of_visible {c : Char} (visible : 32 < c.toNat) : isKept c = true := by
  rw [isKept, Bool.and_eq_true, Bool.and_eq_true, bne_iff_ne, bne_iff_ne, bne_iff_ne]
  refine ⟨⟨?_, ?_⟩, ?_⟩ <;>
    · rintro rfl
      revert visible
      decide

theorem cleaned_ofList {c d : Char} (first : cs.head? = some c) (last : cs.getLast? = some d)
    (visible : 32 < c.toNat ∧ 32 < d.toNat) : cleaned (String.ofList cs) = cs.filter isKept := by
  have kept {cs : List Char} {c : Char} (first : cs.head? = some c) (visible : 32 < c.toNat) :
      cs.dropWhile (fun c => decide (c.toNat ≤ 32)) = cs := by
    cases cs with
    | nil => cases first
    | cons e rest =>
        cases first
        rw [List.dropWhile_cons_of_neg]
        simpa using visible
  rw [← List.head?_reverse] at last
  simp only [cleaned, Text.trimWhere, Text.dropEnd, String.toList_ofList, kept first visible.1, kept last visible.2, List.reverse_reverse]
  rfl

theorem visible_of_isDigit {c : Char} (digit : c.isDigit = true) :
    32 < c.toNat ∧ endsAuthority true c = false := by
  constructor
  · simp only [Char.isDigit, Bool.and_eq_true, decide_eq_true_eq, UInt32.le_iff_toNat_le, ge_iff_le] at digit
    change 48 ≤ c.toNat ∧ c.toNat ≤ 57 at digit
    omega
  · rw [Bool.eq_false_iff]
    intro ends
    simp only [endsAuthority, isSlash, Bool.true_and, Bool.or_eq_true, beq_iff_eq] at ends
    rcases ends with ((rfl | rfl) | rfl) | rfl <;> exact absurd digit (by decide)

theorem visible_of_named {c : Char} (named : (c.isAlphanum || c == '+' || c == '-' || c == '.') = true) :
    32 < c.toNat := by
  have upper (is : c.isUpper = true) : 65 ≤ c.toNat := (of_decide_eq_true is).1
  have lower (is : c.isLower = true) : 97 ≤ c.toNat := of_decide_eq_true ((Bool.and_eq_true _ _).mp is).1
  change (((((c.isUpper || c.isLower) || c.isDigit) || c == '+') || c == '-') || c == '.') = true at named
  simp only [Bool.or_eq_true, beq_iff_eq] at named
  rcases named with ((((letter | letter) | digit) | rfl) | rfl) | rfl
  · exact Nat.lt_of_lt_of_le (by decide) (upper letter)
  · exact Nat.lt_of_lt_of_le (by decide) (lower letter)
  · exact (visible_of_isDigit digit).1
  all_goals decide

/-- A scheme, a host and a port, as they are written. The host may be in brackets and have credentials
before it. -/
structure Origin where
  scheme : List Char
  host : List Char
  port : List Char
  lettered : scheme.head?.any Char.isAlpha = true
  named : ∀ c ∈ scheme, (c.isAlphanum || c == '+' || c == '-' || c == '.') = true
  closed : IsClosed true host
  digits : port ≠ [] ∧ ∀ c ∈ port, c.isDigit = true

namespace Origin

def authority (o : Origin) : List Char := o.host ++ ':' :: o.port

def chars (o : Origin) : List Char := o.scheme ++ ':' :: '/' :: '/' :: o.authority

def text (o : Origin) : String := String.ofList o.chars

def schemeName (o : Origin) : String := String.ofList (o.scheme.map Char.toLower)

variable (o : Origin)

theorem authority_closed : IsClosed true o.authority := by
  intro c member
  rcases List.mem_append.mp member with member | member
  · exact o.closed c member
  rcases List.mem_cons.mp member with rfl | member
  · decide
  · exact (visible_of_isDigit (o.digits.2 c member)).2

theorem authority_last : o.authority.getLast? ≠ some '@' := by
  have parts : o.authority = o.host ++ [':'] ++ o.port := by
    simp [authority]
  rw [parts, List.getLast?_append_of_ne_nil _ o.digits.1]
  intro last
  have digit := o.digits.2 '@' (List.mem_of_getLast? last)
  exact absurd digit (by decide)

theorem authority_drive : isDriveLetter o.authority = false := by
  have some_ := List.length_pos_iff.mpr o.digits.1
  rw [authority]
  cases o.host with
  | nil =>
      unfold isDriveLetter
      split
      · rename_i c d same
        rw [← (List.cons.inj same).1]
        rfl
      · rfl
  | cons c host =>
      unfold isDriveLetter
      split
      · rename_i same
        have length := congrArg List.length same
        simp only [List.cons_append, List.length_cons, List.length_append, List.length_nil] at length
        omega
      · rfl

theorem scheme?_chars (tail : List Char) :
    scheme? (o.chars ++ tail) = some (o.schemeName, '/' :: '/' :: (o.authority ++ tail)) := by
  have parts : o.chars ++ tail = o.scheme ++ ':' :: '/' :: '/' :: (o.authority ++ tail) := by
    simp [chars]
  have name :
      (o.chars ++ tail).takeWhile (fun c => c.isAlphanum || c == '+' || c == '-' || c == '.') = o.scheme := by
    rw [parts, List.takeWhile_append_of_pos o.named]
    simp
  rw [scheme?, name, parts, List.drop_left]
  simp only [o.lettered, if_true]
  rfl

def cleaned : Origin :=
  { o with
    host := o.host.filter isKept
    closed := fun c member => o.closed c (List.mem_filter.mp member).1 }

theorem cleaned_append (visible : ∀ c ∈ tail, 32 < c.toNat) :
    Url.cleaned (String.ofList (o.chars ++ tail)) = o.cleaned.chars ++ tail := by
  have schemeVisible : ∀ c ∈ o.scheme, 32 < c.toNat := fun c member => visible_of_named (o.named c member)
  have endVisible : ∀ c ∈ ':' :: o.port ++ tail, 32 < c.toNat := by
    intro c member
    rcases List.mem_append.mp member with member | member
    · rcases List.mem_cons.mp member with rfl | member
      · decide
      · exact (visible_of_isDigit (o.digits.2 c member)).1
    · exact visible c member
  have kept {cs : List Char} (visible : ∀ c ∈ cs, 32 < c.toNat) : cs.filter isKept = cs :=
    List.filter_eq_self.mpr fun c member => isKept_of_visible (visible c member)
  have parts : o.chars ++ tail = o.scheme ++ ("://".toList ++ (o.host ++ (':' :: o.port ++ tail))) := by
    simp [chars, authority]
  -- Nothing is trimmed, since the text neither begins nor ends with a blank.
  have first : ∃ c, (o.chars ++ tail).head? = some c ∧ 32 < c.toNat := by
    have lettered := o.lettered
    cases letters : o.scheme with
    | nil =>
        rw [letters] at lettered
        cases lettered
    | cons c rest =>
        refine ⟨c, ?_, schemeVisible c ?_⟩
        · rw [parts, letters]
          rfl
        · rw [letters]
          exact List.mem_cons_self
  have last : ∃ d, (o.chars ++ tail).getLast? = some d ∧ 32 < d.toNat := by
    rw [parts, ← List.append_assoc, ← List.append_assoc, List.getLast?_append_of_ne_nil _ (by simp)]
    cases back : (':' :: o.port ++ tail).getLast? with
    | none => cases List.getLast?_eq_none_iff.mp back
    | some d => exact ⟨d, rfl, endVisible d (List.mem_of_getLast? back)⟩
  rcases first with ⟨c, first, seen⟩
  rcases last with ⟨d, last, seen'⟩
  have colon : "://".toList.filter isKept = "://".toList := by decide
  rw [cleaned_ofList first last ⟨seen, seen'⟩, parts, List.filter_append, List.filter_append, List.filter_append,
    kept schemeVisible, kept endVisible, colon]
  simp [chars, authority, cleaned]

theorem ofText_chars (follows : IsTail tail) :
    Url.ofText (String.ofList (o.chars ++ tail)) =
      if o.schemeName = "file" then ofFile ('/' :: '/' :: (o.cleaned.authority ++ tail))
      else ofAuthority o.schemeName (o.cleaned.authority ++ tail) := by
  have none_ : ((o.cleaned.authority ++ tail).dropWhile (isSlash true)) = o.cleaned.authority ++ tail := by
    have closed := o.cleaned.authority_closed
    have some_ : o.cleaned.authority ≠ [] := by simp [authority]
    cases front : o.cleaned.authority with
    | nil => exact absurd front some_
    | cons c rest =>
        have ends := closed c (front ▸ List.mem_cons_self)
        simp only [endsAuthority, Bool.or_eq_false_iff] at ends
        rw [List.cons_append, List.dropWhile_cons_of_neg (by simp [ends.1.1])]
  have slashes : ('/' :: '/' :: (o.cleaned.authority ++ tail)).dropWhile (isSlash true) =
      o.cleaned.authority ++ tail := by
    rw [List.dropWhile_cons_of_pos (by decide), List.dropWhile_cons_of_pos (by decide), none_]
  rw [Url.ofText, o.cleaned_append follows.visible, scheme?_chars]
  split
  · rename_i missing
    cases missing
  · rename_i rest is
    rcases Prod.mk.inj (Option.some.inj is) with ⟨name, rfl⟩
    exact (if_pos name).symm
  · rename_i scheme rest other is
    rcases Prod.mk.inj (Option.some.inj is) with ⟨rfl, rfl⟩
    have other : o.schemeName ≠ "file" := other
    rw [if_neg other, slashes]
    split
    · rfl
    · rfl

/-- What stands in a URL after its port has no say in the rest of it. -/
theorem ofText_append (follows : IsTail tail) :
    Url.ofText (String.ofList (o.chars ++ tail)) =
      (Url.ofText o.text).map (withTail (isSpecial o.schemeName) tail) := by
  have nothing : IsTail [] := ⟨.inl rfl, nofun⟩
  have alone := o.ofText_chars nothing
  rw [List.append_nil, List.append_nil] at alone
  rw [o.ofText_chars follows, text, alone]
  split
  · rename_i file
    rw [file]
    exact ofFile_append o.cleaned.authority_closed o.cleaned.authority_drive follows
  · exact ofAuthority_append o.schemeName o.cleaned.authority_closed o.cleaned.authority_last follows

end Origin

end PlaceGateway.Url
