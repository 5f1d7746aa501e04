import PlaceGateway.Json.Draft
import PlaceGateway.Proofs.Decimal.Text
import PlaceGateway.Proofs.Digits
import PlaceGateway.Proofs.Json.Literals
/-! Numbers as they are scanned. A number ends where its text does, if what follows is no part of a number. -/

namespace PlaceGateway.Json

variable {c : Char} {b : UInt8} {s t rest : Bytes} {negative : Bool} {numeral n : Numeral} {digits : List Nat}

def Stops (rest : Bytes) : Prop :=
  ∀ b, rest.head? = some b → Draft.isDigit b = false ∧ b ≠ 0x2E ∧ b ≠ 0x65 ∧ b ≠ 0x45

theorem digitRun_append (stops : Stops rest) (s : Bytes) :
    Draft.digitRun (s ++ rest) = ((Draft.digitRun s).1, (Draft.digitRun s).2 ++ rest) := by
  induction s with
  | nil =>
      cases rest with
      | nil => rfl
      | cons b rest => simp [Draft.digitRun, (stops b rfl).1]
  | cons b s ih =>
      rcases Prod.mk.inj ih with ⟨run, left⟩
      by_cases digit : Draft.isDigit b = true
      · simp only [Draft.digitRun, List.cons_append, List.takeWhile_cons, List.dropWhile_cons, digit, if_true] at *
        rw [List.map_cons, run, left]
        rfl
      · simp [Draft.digitRun, digit]

/-- What a scan leaves of a text is its end, and is left with more behind it if more follows. -/
def Leaves (scan : Bytes → Draft × Option Bytes) (s : Bytes) (n : Numeral) (t : Bytes) : Prop :=
  t <:+ s ∧ ∀ rest, Stops rest → scan (s ++ rest) = (.number n, some (t ++ rest))

theorem afterDigits_leaves {f : List Nat → Bytes → Draft × Option Bytes}
    (later : ∀ digits t', f digits t' = (.number n, some t) → Leaves (f digits) t' n t)
    (scanned : (match Draft.digitRun s with
      | ([], rest) => Draft.noDigits rest
      | (digits, rest) => f digits rest) = (.number n, some t)) :
    Leaves (fun s => match Draft.digitRun s with
      | ([], rest) => Draft.noDigits rest
      | (digits, rest) => f digits rest) s n t := by
  match run : Draft.digitRun s with
  | ([], left) =>
    rw [run] at scanned
    cases scanned
  | (digit :: digits, left) =>
    rw [run] at scanned
    rcases later _ _ scanned with ⟨suffix, follows⟩
    have left_suffix : left <:+ s := (Prod.mk.inj run).2 ▸ List.dropWhile_suffix _
    refine ⟨suffix.trans left_suffix, fun rest stops => ?_⟩
    simp only [digitRun_append stops, run]
    exact follows rest stops

theorem scanPower_leaves (scanned : Draft.scanPower numeral s = (.number n, some t)) :
    Leaves (Draft.scanPower numeral) s n t := by
  -- Whatever sign there is, the digits behind it are read alike.
  have after (negative : Bool) (s : Bytes) := @afterDigits_leaves s t n
    (fun digits rest => (.number { numeral with power := some (negative, digits) }, some rest))
    fun digits t' same => by
      cases same
      exact ⟨List.suffix_rfl, fun rest _ => rfl⟩
  cases s with
  | nil =>
      cases scanned
      refine ⟨List.suffix_rfl, fun rest stops => ?_⟩
      cases rest with
      | nil => rfl
      | cons b rest =>
          rcases stops b rfl with ⟨_, _, small, large⟩
          exact if_neg (not_or.mpr ⟨small, large⟩)
  | cons b s =>
      rw [Draft.scanPower.eq_def] at scanned
      by_cases power : b = 0x65 ∨ b = 0x45
      · simp only [if_pos power] at scanned
        cases s with
        | nil => cases scanned
        | cons c s =>
            by_cases plus : c = 0x2B
            · simp only [if_pos plus] at scanned
              rcases after false s scanned with ⟨suffix, follows⟩
              refine ⟨suffix.trans ((List.suffix_cons c s).trans (List.suffix_cons b _)), fun rest stops => ?_⟩
              rw [Draft.scanPower.eq_def]
              simp only [List.cons_append, if_pos power, if_pos plus]
              exact follows rest stops
            by_cases minus : c = 0x2D
            · simp only [if_neg plus, if_pos minus] at scanned
              rcases after true s scanned with ⟨suffix, follows⟩
              refine ⟨suffix.trans ((List.suffix_cons c s).trans (List.suffix_cons b _)), fun rest stops => ?_⟩
              rw [Draft.scanPower.eq_def]
              simp only [List.cons_append, if_pos power, if_neg plus, if_pos minus]
              exact follows rest stops
            · simp only [if_neg plus, if_neg minus] at scanned
              rcases after false (c :: s) scanned with ⟨suffix, follows⟩
              refine ⟨suffix.trans (List.suffix_cons b _), fun rest stops => ?_⟩
              rw [Draft.scanPower.eq_def]
              simp only [List.cons_append, if_pos power, if_neg plus, if_neg minus]
              exact follows rest stops
      · simp only [if_neg power] at scanned
        cases scanned
        exact ⟨List.suffix_rfl, fun rest _ => if_neg power⟩

theorem scanFraction_leaves (scanned : Draft.scanFraction numeral s = (.number n, some t)) :
    Leaves (Draft.scanFraction numeral) s n t := by
  cases s with
  | nil =>
      cases scanned
      refine ⟨List.suffix_rfl, fun rest stops => ?_⟩
      cases rest with
      | nil => rfl
      | cons b rest =>
          rcases stops b rfl with ⟨_, point, small, large⟩
          rw [List.nil_append, Draft.scanFraction.eq_def]
          simp only [if_neg point]
          exact if_neg (not_or.mpr ⟨small, large⟩)
  | cons b s =>
      rw [Draft.scanFraction.eq_def] at scanned
      by_cases point : b = 0x2E
      · simp only [if_pos point] at scanned
        rcases afterDigits_leaves (f := fun digits => Draft.scanPower { numeral with fraction := digits })
          (fun digits t' => scanPower_leaves) scanned with ⟨suffix, follows⟩
        refine ⟨suffix.trans (List.suffix_cons b s), fun rest stops => ?_⟩
        rw [Draft.scanFraction.eq_def]
        simp only [List.cons_append, if_pos point]
        exact follows rest stops
      · simp only [if_neg point] at scanned
        rcases scanPower_leaves scanned with ⟨suffix, follows⟩
        refine ⟨suffix, fun rest stops => ?_⟩
        rw [Draft.scanFraction.eq_def]
        simp only [List.cons_append, if_neg point]
        exact follows rest stops

theorem scanNumber_leaves (scanned : Draft.scanNumber negative s = (.number n, some t)) :
    Leaves (Draft.scanNumber negative) s n t := by
  have after {digits : List Nat} {left : Bytes} (run : Draft.digitRun s = (digits, left))
      (scanned : Draft.scanFraction ⟨negative, digits, [], none⟩ left = (.number n, some t))
      (goes : ∀ s left, Draft.digitRun s = (digits, left) →
        Draft.scanNumber negative s = Draft.scanFraction ⟨negative, digits, [], none⟩ left) :
      Leaves (Draft.scanNumber negative) s n t := by
    rcases scanFraction_leaves scanned with ⟨suffix, follows⟩
    have left_suffix : left <:+ s := (Prod.mk.inj run).2 ▸ List.dropWhile_suffix _
    refine ⟨suffix.trans left_suffix, fun rest stops => ?_⟩
    have longer : Draft.digitRun (s ++ rest) = (digits, left ++ rest) := by rw [digitRun_append stops, run]
    rw [goes _ _ longer]
    exact follows rest stops
  rw [Draft.scanNumber] at scanned
  rcases run : Draft.digitRun s with ⟨_ | ⟨_ | k, _ | ⟨d, digits⟩⟩, left⟩
  all_goals rw [run] at scanned
  case nil => cases scanned
  case cons.zero.cons => cases scanned
  all_goals
    refine after run scanned fun s left runs => ?_
    rw [Draft.scanNumber, runs]
    rfl

theorem scanPower_ends : Draft.scanPower numeral s ≠ (.number n, none) := by
  rw [Draft.scanPower.eq_def]
  split
  · simp
  split
  · split
    split <;> simp [Draft.noDigits]
  · simp

theorem scanFraction_ends : Draft.scanFraction numeral s ≠ (.number n, none) := by
  rw [Draft.scanFraction.eq_def]
  split
  · simp
  split
  · split
    · simp [Draft.noDigits]
    · exact scanPower_ends
  · exact scanPower_ends

theorem scanNumber_ends : Draft.scanNumber negative s ≠ (.number n, none) := by
  rw [Draft.scanNumber]
  split
  · simp [Draft.noDigits]
  · simp
  · exact scanFraction_ends

theorem toNat_of_isDigit (digit : c.isDigit = true) : 48 ≤ c.toNat ∧ c.toNat ≤ 57 := by
  simp only [Char.isDigit, Bool.and_eq_true, decide_eq_true_eq, UInt32.le_iff_toNat_le, ge_iff_le] at digit
  exact digit

theorem isDigit_ofNat (digit : c.isDigit = true) : c.toNat < 128 ∧ Draft.isDigit (UInt8.ofNat c.toNat) = true ∧
    (UInt8.ofNat c.toNat).toNat = c.toNat := by
  have bounds := toNat_of_isDigit digit
  have value : (UInt8.ofNat c.toNat).toNat = c.toNat := by
    rw [UInt8.toNat_ofNat']
    omega
  refine ⟨by omega, ?_, value⟩
  simp only [Draft.isDigit, Bool.and_eq_true, decide_eq_true_eq, UInt8.le_iff_toNat_le, value]
  exact bounds

theorem digitRun_ofChars {cs : List Char} (digits : Decimal.AllDigits cs) :
    Draft.digitRun (Bytes.ofChars cs) = (cs.map fun c => c.toNat - '0'.toNat, []) := by
  induction cs with
  | nil => rfl
  | cons c cs ih =>
      rcases List.forall_mem_cons.mp digits with ⟨first, others⟩
      rcases isDigit_ofNat first with ⟨small, digit, value⟩
      rcases Prod.mk.inj (ih others) with ⟨run, left⟩
      rw [Bytes.ofChars_cons_ascii small]
      simp only [Draft.digitRun, List.takeWhile_cons, List.dropWhile_cons, digit, if_true, List.map_cons, run, left,
        value]
      rfl

theorem scanNumber_toDigits (negative : Bool) (m : Nat) :
    Draft.scanNumber negative (Bytes.ofChars (Nat.toDigits 10 m)) =
    (.number ⟨negative, (Nat.toDigits 10 m).map fun c => c.toNat - '0'.toNat, [], none⟩, some []) := by
  have digits := Decimal.toDigits_allDigits m
  have unpadded := Digits.toDigits_ne_zero_cons m
  have some_ : Nat.toDigits 10 m ≠ [] := Nat.toDigits_ne_nil
  rw [Draft.scanNumber, digitRun_ofChars digits]
  generalize Nat.toDigits 10 m = cs at *
  match cs with
  | [] => exact absurd rfl some_
  | [c] =>
    rw [List.map_singleton]
    cases c.toNat - '0'.toNat <;> rfl
  | c :: d :: rest =>
    have value : c.toNat - '0'.toNat ≠ 0 := by
      intro zero
      have bounds := toNat_of_isDigit (digits c List.mem_cons_self)
      have first : c.toNat = 48 := Nat.le_antisymm (Nat.sub_eq_zero_iff_le.mp zero) bounds.1
      apply unpadded d rest
      rw [← Char.ofNat_toNat c, first]
    rw [List.map_cons, List.map_cons]
    cases found : c.toNat - '0'.toNat with
    | zero => exact absurd found value
    | succ k => rfl

theorem ne_of_isDigit (digit : Draft.isDigit b = true) (mark : UInt8) (other : Draft.isDigit mark = false) :
    b ≠ mark := by
  rintro rfl
  rw [other] at digit
  cases digit

theorem isBlank_of_isDigit (digit : Draft.isDigit b = true) : Draft.isBlank b = false := by
  simp [Draft.isBlank, ne_of_isDigit digit 0x20 (by decide), ne_of_isDigit digit 0x0A (by decide),
    ne_of_isDigit digit 0x0D (by decide), ne_of_isDigit digit 0x09 (by decide)]

theorem scanValue_digit {fuel : Nat} (digit : Draft.isDigit b = true) :
    Draft.scanValue (fuel + 1) (b :: rest) = Draft.scanNumber false (b :: rest) := by
  rw [Draft.scanValue]
  simp [Draft.skipBlank, isBlank_of_isDigit digit, ne_of_isDigit digit 0x6E (by decide),
    ne_of_isDigit digit 0x74 (by decide), ne_of_isDigit digit 0x66 (by decide),
    ne_of_isDigit digit 0x2D (by decide), digit]

theorem opens_signed {sign : Bool} {cs : List Char} (first : Decimal.StartsWithDigit cs) : ∃ b bytes,
    Bytes.ofChars ((if sign then ['-'] else []) ++ cs) = b :: bytes ∧ Draft.isBlank b = false ∧ b ≠ 0x5D := by
  rcases first with ⟨c, cs, rfl, digit⟩
  rcases isDigit_ofNat digit with ⟨small, digit, _⟩
  cases sign with
  | true => exact ⟨_, _, Bytes.ofChars_cons_ascii (by decide) _, by decide, by decide⟩
  | false =>
      exact ⟨_, _, Bytes.ofChars_cons_ascii small cs, isBlank_of_isDigit digit, ne_of_isDigit digit 0x5D (by decide)⟩

theorem scanValue_signed {sign : Bool} {cs : List Char} (first : Decimal.StartsWithDigit cs) (fuel : Nat)
    (rest : Bytes) :
    Draft.scanValue (fuel + 1) (Bytes.ofChars ((if sign then ['-'] else []) ++ cs) ++ rest) =
      Draft.scanNumber sign (Bytes.ofChars cs ++ rest) := by
  rcases first with ⟨c, cs, rfl, digit⟩
  rcases isDigit_ofNat digit with ⟨small, digit, _⟩
  cases sign with
  | true =>
      have front : Bytes.ofChars ('-' :: c :: cs) = 0x2D :: Bytes.ofChars (c :: cs) :=
        Bytes.ofChars_cons_ascii (by decide) _
      exact congrArg (fun s => Draft.scanValue (fuel + 1) (s ++ rest)) front
  | false =>
      have front := Bytes.ofChars_cons_ascii small cs
      rw [if_neg Bool.false_ne_true, List.nil_append, front, List.cons_append, scanValue_digit digit]

theorem skipBlank_numeric {cs : List Char} (numeric : ∀ c ∈ cs, Decimal.isNumeric c = true)
    (suffix : t <:+ Bytes.ofChars cs) (blank : Draft.skipBlank t = []) : t = [] := by
  have visible : ∀ b ∈ Bytes.ofChars cs, Draft.isBlank b = false := by
    intro b member
    rcases List.mem_flatMap.mp member with ⟨c, own, encoded⟩
    have kind := numeric c own
    simp only [Decimal.isNumeric, Bool.or_eq_true, beq_iff_eq] at kind
    rcases kind with (((digit | rfl) | rfl) | rfl) | rfl
    · rcases isDigit_ofNat digit with ⟨small, digit, _⟩
      rw [Bytes.encode_ascii small, List.mem_singleton] at encoded
      rw [encoded, isBlank_of_isDigit digit]
    all_goals
      rw [Bytes.encode_ascii (by decide), List.mem_singleton] at encoded
      rw [encoded]
      decide
  cases t with
  | nil => rfl
  | cons b t =>
      have shown := visible b (suffix.mem List.mem_cons_self)
      rw [Draft.skipBlank, List.dropWhile_cons_of_neg (by simp [shown])] at blank
      cases blank

end PlaceGateway.Json
