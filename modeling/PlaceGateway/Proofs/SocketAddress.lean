import Mathlib.Data.List.Basic
import Mathlib.Data.List.TakeWhile
import PlaceGateway.SocketAddress
/-! A socket address is a host, a colon and a port, and which hosts there are does not depend on the port. -/

namespace PlaceGateway.SocketAddress

variable {α : Type} {c : Char} {cs s t rest : List Char} {radix digits limit n port : Nat}

/-- Whatever follows the mark, the reader stops before it. -/
abbrev StopsAt (mark : Char) (read : List Char → Option (α × List Char)) : Prop :=
  ∀ s t, read (s ++ mark :: t) = (read s).map fun r => (r.1, r.2 ++ mark :: t)

/-- What the reader leaves is the end of what it was given. -/
abbrev LeavesEnd (read : List Char → Option (α × List Char)) : Prop :=
  ∀ s a rest, read s = some (a, rest) → rest <:+ s

theorem takeWhile_stops {p : Char → Bool} (stop : p c = false) (s t : List Char) :
    (s ++ c :: t).takeWhile p = s.takeWhile p := by
  induction s with
  | nil => simp [stop]
  | cons d s ih => simp only [List.cons_append, List.takeWhile_cons, ih]

theorem number?_stops (radix : Nat) (stop : digit? radix c = none) (digits limit : Nat) :
    StopsAt c (number? radix digits limit) := by
  intro s t
  have short : (s.takeWhile fun c => (digit? radix c).isSome).length ≤ s.length :=
    (List.takeWhile_prefix _).length_le
  rw [number?, number?, takeWhile_stops (by rw [stop]; rfl), List.drop_append_of_le_length short]
  split <;> rfl

theorem number?_leavesEnd (radix digits limit : Nat) : LeavesEnd (number? radix digits limit) := by
  intro s n rest read
  rw [number?] at read
  split at read
  · cases read
  · cases read
    exact List.drop_suffix _ _

theorem number?_of_le (enough : s.length ≤ digits) :
    number? radix digits limit s = number? radix s.length limit s := by
  have short : (s.takeWhile fun c => (digit? radix c).isSome).length ≤ s.length :=
    (List.takeWhile_prefix _).length_le
  rw [number?, number?]
  simp only [Nat.not_lt_of_le short, Nat.not_lt_of_le (Nat.le_trans short enough)]

theorem char?_stops {d : Char} (other : c ≠ d) (s t : List Char) :
    char? d (s ++ c :: t) = (char? d s).map (· ++ c :: t) := by
  cases s with
  | nil => exact if_neg other
  | cons e s =>
    simp only [List.cons_append, char?]
    split <;> rfl

theorem cons_of_char? {d : Char} (read : char? d s = some rest) : s = d :: rest := by
  cases s with
  | nil => cases read
  | cons e s =>
    rw [char?] at read
    split at read
    · rename_i same
      cases read
      rw [same]
    · cases read

theorem octet?_stops (stop : digit? 10 c = none) : StopsAt c octet? := by
  intro s t
  rw [octet?, octet?, number?_stops 10 stop]
  cases read : number? 10 3 256 s with
  | none => rfl
  | some r =>
    cases s with
    | nil => cases read
    | cons d s =>
      have longer : (r.2 ++ c :: t).length + 1 < (d :: s ++ c :: t).length ↔
          r.2.length + 1 < (d :: s).length := by
        simp only [List.length_append, List.length_cons]
        omega
      simp only [Option.bind_eq_bind, Option.map_some, Option.bind_some, longer]
      rw [List.cons_append, List.head?_cons, List.head?_cons]
      split <;> rfl

theorem octet?_leavesEnd : LeavesEnd octet? := by
  intro s n rest read
  obtain ⟨⟨m, left⟩, number, read⟩ := Option.bind_eq_some_iff.mp read
  dsimp only at read
  split at read
  · cases read
  · cases read
    exact number?_leavesEnd 10 3 256 s _ _ number

theorem ipv4?_stops (stop : digit? 10 c = none) (other : c ≠ '.') : StopsAt c ipv4? := by
  intro s t
  simp only [ipv4?, octet?_stops stop, char?_stops other, Option.bind_eq_bind, Option.map_bind, Option.bind_map,
    Function.comp_def]
  rfl

theorem suffix_of_char? {d : Char} (read : char? d s = some rest) : rest <:+ s := by
  rw [cons_of_char? read]
  exact List.suffix_cons d rest

theorem ipv4?_leavesEnd : LeavesEnd ipv4? := by
  intro s address rest read
  obtain ⟨⟨a, s₁⟩, first, read⟩ := Option.bind_eq_some_iff.mp read
  obtain ⟨t₁, dot, read⟩ := Option.bind_eq_some_iff.mp read
  obtain ⟨⟨b, s₂⟩, second, read⟩ := Option.bind_eq_some_iff.mp read
  obtain ⟨t₂, dot', read⟩ := Option.bind_eq_some_iff.mp read
  obtain ⟨⟨c, s₃⟩, third, read⟩ := Option.bind_eq_some_iff.mp read
  obtain ⟨t₃, dot'', read⟩ := Option.bind_eq_some_iff.mp read
  obtain ⟨⟨d, s₄⟩, fourth, read⟩ := Option.bind_eq_some_iff.mp read
  cases read
  have left₃ : s₃ <:+ s := (octet?_leavesEnd _ _ _ third).trans <| (suffix_of_char? dot').trans <|
    (octet?_leavesEnd _ _ _ second).trans <| (suffix_of_char? dot).trans (octet?_leavesEnd _ _ _ first)
  exact ((octet?_leavesEnd _ _ _ fourth).trans (suffix_of_char? dot'')).trans left₃

theorem groupStart?_stops (other : c ≠ ':') (first : Bool) (s t : List Char) :
    groupStart? first (s ++ c :: t) = (groupStart? first s).map (· ++ c :: t) := by
  cases first with
  | true => rfl
  | false => exact char?_stops other s t

theorem groups_stop (limit : Nat) (first : Bool) (s t : List Char) :
    groups limit first (s ++ ']' :: t) =
      ((groups limit first s).1, (groups limit first s).2.1, (groups limit first s).2.2 ++ ']' :: t) := by
  induction limit generalizing first s with
  | zero => rfl
  | succ limit ih =>
    rw [groups, groups, groupStart?_stops (by decide)]
    cases groupStart? first s with
    | none => rfl
    | some start =>
      simp only [Option.map_some, ipv4?_stops (c := ']') (by decide) (by decide) start t]
      have mapped : (if limit = 0 then none else (ipv4? start).map fun r => (r.1, r.2 ++ ']' :: t)) =
          (if limit = 0 then none else ipv4? start).map fun r => (r.1, r.2 ++ ']' :: t) := by
        split <;> rfl
      rw [mapped]
      cases if limit = 0 then none else ipv4? start with
      | some r => rfl
      | none =>
        simp only [Option.map_none, number?_stops (c := ']') 16 (by decide) 4 65536 start t]
        cases number? 16 4 65536 start with
        | none => rfl
        | some r =>
          simp only [Option.map_some, ih]

theorem groups_leave_end (limit : Nat) (first : Bool) (s : List Char) : (groups limit first s).2.2 <:+ s := by
  induction limit generalizing first s with
  | zero => exact List.suffix_rfl
  | succ limit ih =>
    have begins : ∀ start, groupStart? first s = some start → start <:+ s := by
      intro start read
      cases first with
      | true =>
        cases read
        exact List.suffix_rfl
      | false => exact suffix_of_char? read
    rw [groups]
    cases start : groupStart? first s with
    | none => exact List.suffix_rfl
    | some s' =>
      have begins := begins s' start
      dsimp only
      split
      · rename_i mapped
        split at mapped
        · cases mapped
        · exact (ipv4?_leavesEnd _ _ _ mapped).trans begins
      · split
        · exact List.suffix_rfl
        · rename_i g rest read
          exact ((ih false rest).trans (number?_leavesEnd 16 4 65536 _ _ _ read)).trans begins

theorem ipv6?_stops : StopsAt ']' ipv6? := by
  intro s t
  rw [ipv6?, ipv6?, groups_stop]
  generalize groups 8 true s = r
  obtain ⟨head, mapped, rest⟩ := r
  dsimp only
  by_cases whole : head.length = 8
  · rw [if_pos whole, if_pos whole]
    rfl
  rw [if_neg whole, if_neg whole]
  cases mapped with
  | true => rfl
  | false =>
    simp only [Bool.false_eq_true, if_false, char?_stops (c := ']') (d := ':') (by decide), Option.bind_eq_bind,
      Option.map_bind, Option.bind_map, Function.comp_def, groups_stop]
    rfl

theorem ipv6?_leavesEnd : LeavesEnd ipv6? := by
  intro s address rest read
  rw [ipv6?] at read
  have ended := groups_leave_end 8 true s
  generalize groups 8 true s = r at read ended
  obtain ⟨head, mapped, left⟩ := r
  dsimp only at read ended
  by_cases whole : head.length = 8
  · rw [if_pos whole] at read
    cases read
    exact ended
  rw [if_neg whole] at read
  cases mapped with
  | true => cases read
  | false =>
    obtain ⟨s₁, colon, read⟩ := Option.bind_eq_some_iff.mp read
    obtain ⟨s₂, colon', read⟩ := Option.bind_eq_some_iff.mp read
    cases read
    exact (((groups_leave_end _ _ s₂).trans (suffix_of_char? colon')).trans (suffix_of_char? colon)).trans ended

theorem scope?_stops : StopsAt ']' scope? := by
  intro s t
  cases s with
  | nil => rfl
  | cons d s =>
    by_cases percent : d = '%'
    · subst percent
      show number? 10 (s ++ ']' :: t).length (2 ^ 32) (s ++ ']' :: t) = _
      rw [number?_stops 10 (by decide), number?_of_le (by rw [List.length_append]; exact Nat.le_add_right _ _)]
      rfl
    · have plain : ∀ u, scope? (d :: u) = some (0, d :: u) := by
        intro u
        rw [scope?]
        intro v same
        exact percent (List.cons.inj same).1
      rw [List.cons_append, plain, plain]
      rfl

theorem scope?_leavesEnd : LeavesEnd scope? := by
  intro s n rest read
  rw [scope?.eq_def] at read
  split at read
  · exact (number?_leavesEnd _ _ _ _ _ _ read).trans (List.suffix_cons _ _)
  · cases read
    exact List.suffix_rfl

theorem digit?_of_isDigit (digit : c.isDigit = true) : digit? 10 c = some (c.toNat - 48) := by
  have bounds := digit
  simp only [Char.isDigit, Bool.and_eq_true, decide_eq_true_eq, UInt32.le_iff_toNat_le, ge_iff_le] at bounds
  have upper : c.toNat ≤ 57 := bounds.2
  rw [digit?]
  simp only [digit, if_true]
  rw [if_pos (by omega)]

theorem number?_toDigits (small : n < limit) (enough : (Nat.toDigits 10 n).length ≤ digits) :
    number? 10 digits limit (Nat.toDigits 10 n) = some (n, []) := by
  have values : ∀ c ∈ Nat.toDigits 10 n, digit? 10 c = some (c.toNat - 48) := fun c member =>
    digit?_of_isDigit (Nat.isDigit_of_mem_toDigits (by decide) (by decide) member)
  have run : (Nat.toDigits 10 n).takeWhile (fun c => (digit? 10 c).isSome) = Nat.toDigits 10 n := by
    rw [List.takeWhile_eq_self_iff]
    intro c member
    rw [values c member]
    rfl
  have value : (Nat.toDigits 10 n).foldl (fun n c => n * 10 + (digit? 10 c).getD 0) 0 = n := by
    calc _ = (Nat.toDigits 10 n).foldl (fun n c => 10 * n + (c.toNat - '0'.toNat)) 0 := by
          refine List.foldl_ext _ _ 0 fun n c member => ?_
          rw [values c member, Option.getD_some, Nat.mul_comm]
          rfl
      _ = Nat.ofDigitChars 10 (Nat.toDigits 10 n) 0 := rfl
      _ = n := Nat.ofDigitChars_ten_toDigits
  rw [number?]
  simp only [run, value]
  rw [if_neg, List.drop_length]
  rintro (none | short | large)
  · exact Nat.toDigits_ne_nil none
  · exact Nat.not_lt_of_le enough short
  · exact Nat.not_lt_of_le large small

def closed? (address : Nat → SocketAddress) (s : List Char) : Option SocketAddress := do
  let (port, s) ← port? s
  if s = [] then some (address port) else none

theorem closed?_append (small : port < 65536) (address : Nat → SocketAddress) (rest : List Char) :
    closed? address (rest ++ ':' :: Nat.toDigits 10 port) = if rest = [] then some (address port) else none := by
  cases rest with
  | nil =>
    rw [closed?, List.nil_append, port?]
    simp only [char?, if_true, Option.bind_eq_bind, Option.bind_some,
      number?_toDigits small (Nat.le_succ (Nat.toDigits 10 port).length), List.length_cons]
  | cons d rest =>
    rw [if_neg (List.cons_ne_nil d rest), closed?, List.cons_append, port?, char?]
    by_cases colon : d = ':'
    · rw [if_pos colon]
      simp only [Option.bind_eq_bind, Option.bind_some, number?_stops (c := ':') 10 (by decide)]
      cases number? 10 _ 65536 rest with
      | none => rfl
      | some r =>
        simp only [Option.map_some, Option.bind_some]
        rw [if_neg (by simp)]
    · rw [if_neg colon]
      rfl

theorem v4?_append (small : port < 65536) (s : List Char) :
    v4? (s ++ ':' :: Nat.toDigits 10 port) =
      (ipv4? s).bind fun r => if r.2 = [] then some (v4 r.1 port) else none := by
  rw [v4?, ipv4?_stops (by decide) (by decide)]
  cases ipv4? s with
  | none => rfl
  | some r => exact closed?_append small (v4 r.1) r.2

def bracketed? (s : List Char) : Option ((Nat → SocketAddress) × List Char) := do
  let (address, s) ← ipv6? (← char? '[' s)
  let (scope, s) ← scope? s
  return (v6 address scope, s)

theorem bracketed?_stops : StopsAt ']' bracketed? := by
  intro s t
  simp only [bracketed?, char?_stops (c := ']') (d := '[') (by decide), ipv6?_stops, scope?_stops,
    Option.bind_eq_bind, Option.map_bind, Option.bind_map, Function.comp_def]
  rfl

theorem bracketed?_leavesEnd : LeavesEnd bracketed? := by
  intro s address rest read
  obtain ⟨s₁, bracket, read⟩ := Option.bind_eq_some_iff.mp read
  obtain ⟨⟨groups, s₂⟩, groupsRead, read⟩ := Option.bind_eq_some_iff.mp read
  obtain ⟨⟨scope, s₃⟩, scopeRead, read⟩ := Option.bind_eq_some_iff.mp read
  cases read
  exact ((scope?_leavesEnd _ _ _ scopeRead).trans (ipv6?_leavesEnd _ _ _ groupsRead)).trans
    (suffix_of_char? bracket)

theorem v6?_eq (s : List Char) : v6? s = (bracketed? s).bind fun r => (char? ']' r.2).bind (closed? r.1) := by
  rw [v6?, bracketed?]
  simp only [Option.bind_eq_bind, Option.bind_assoc]
  rfl

theorem char?_eq_none {d : Char} (missing : d ∉ s) : char? d s = none := by
  cases s with
  | nil => rfl
  | cons e s => exact if_neg (List.ne_of_not_mem_cons missing).symm

theorem v6?_append (small : port < 65536) (s : List Char) :
    v6? (s ++ ':' :: Nat.toDigits 10 port) =
      (bracketed? s).bind fun r => if r.2 = [']'] then some (r.1 port) else none := by
  rw [v6?_eq]
  by_cases bracket : ']' ∈ s
  · obtain ⟨p, q, rfl, first⟩ := List.eq_append_cons_of_mem bracket
    rw [List.append_assoc, List.cons_append, bracketed?_stops, bracketed?_stops]
    cases read : bracketed? p with
    | none => rfl
    | some r =>
      obtain ⟨address, rest⟩ := r
      have ends := bracketed?_leavesEnd p address rest read
      simp only [Option.map_some, Option.bind_some]
      cases rest with
      | nil =>
        rw [List.nil_append, List.nil_append, char?, if_pos rfl, Option.bind_some, closed?_append small]
        simp only [List.cons.injEq, true_and]
      | cons d rest =>
        have other : d ≠ ']' := fun same => first (same ▸ ends.mem List.mem_cons_self)
        rw [List.cons_append, List.cons_append, char?, if_neg other,
          if_neg fun same => other (List.cons.inj same).1]
        rfl
  · have missing : ']' ∉ s ++ ':' :: Nat.toDigits 10 port := by
      intro member
      rcases List.mem_append.mp member with before | after
      · exact bracket before
      rcases List.mem_cons.mp after with colon | digit
      · exact absurd colon (by decide)
      · exact absurd (Nat.isDigit_of_mem_toDigits (by decide) (by decide) digit) (by decide)
    have refused : (bracketed? (s ++ ':' :: Nat.toDigits 10 port)).bind
        (fun r => (char? ']' r.2).bind (closed? r.1)) = none := by
      rw [Option.bind_eq_none_iff]
      intro r read
      rw [char?_eq_none fun member => missing ((bracketed?_leavesEnd _ r.1 r.2 read).mem member)]
      rfl
    rw [refused, eq_comm, Option.bind_eq_none_iff]
    intro r read
    refine if_neg fun left => bracket ((bracketed?_leavesEnd _ r.1 r.2 read).mem ?_)
    rw [left]
    exact List.mem_cons_self

def host? (s : List Char) : Option (Nat → SocketAddress) :=
  ((ipv4? s).bind fun r => if r.2 = [] then some (v4 r.1) else none).orElse fun _ =>
    (bracketed? s).bind fun r => if r.2 = [']'] then some r.1 else none

theorem map_orElse {β : Type} (f : α → β) (first : Option α) (second : Unit → Option α) :
    (first.orElse second).map f = (first.map f).orElse fun _ => (second ()).map f := by
  cases first <;> rfl

theorem ofText?_append (small : port < 65536) (host : String) :
    ofText? (host ++ ":" ++ toString port) = (host? host.toList).map (· port) := by
  have chars : (host ++ ":" ++ toString port).toList = host.toList ++ ':' :: Nat.toDigits 10 port := by
    rw [String.toList_append, String.toList_append, Nat.toString_eq_ofList_toDigits, List.append_assoc,
      String.toList_ofList, String.toList_ofList]
    rfl
  rw [ofText?, chars, v4?_append small, v6?_append small, host?, map_orElse]
  simp only [Option.map_bind, Function.comp_def, apply_ite, Option.map_some, Option.map_none]

end PlaceGateway.SocketAddress
