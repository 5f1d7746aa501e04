import PlaceGateway.Proofs.Decimal.Interval
/-! The texts of doubles. Each tells the decimal that it writes out, and so the double that the decimal was
found for. -/

namespace PlaceGateway.Decimal

variable {x x' : Binary64} {cs whole fraction digits : List Char} {c : Char}

def AllDigits (cs : List Char) : Prop := ∀ c ∈ cs, c.isDigit = true

def pointedValue (whole fraction : List Char) : ℚ :=
  Nat.ofDigitChars 10 (whole ++ fraction) 0 / 10 ^ fraction.length

def plainValue (cs : List Char) : ℚ :=
  match cs.splitOnP (· == '.') with
  | [whole] => pointedValue whole []
  | [whole, fraction] => pointedValue whole fraction
  | _ => 0

def powerValue : List Char → Int
  | '-' :: digits => -(Nat.ofDigitChars 10 digits 0 : Nat)
  | '+' :: digits => (Nat.ofDigitChars 10 digits 0 : Nat)
  | _ => 0

def textValue (cs : List Char) : ℚ :=
  match cs.splitOnP (· == 'e') with
  | [plain] => plainValue plain
  | [plain, power] => plainValue plain * 10 ^ powerValue power
  | _ => 0

def isNumeric (c : Char) : Bool := c.isDigit || c == '-' || c == '+' || c == '.' || c == 'e'

def StartsWithDigit (cs : List Char) : Prop := ∃ d rest, cs = d :: rest ∧ d.isDigit = true

/-- The text of a number that is no integer's: it begins with a digit, and has a point or an exponent. -/
structure IsRealText (cs : List Char) : Prop where
  first : StartsWithDigit cs
  numeric : ∀ c ∈ cs, isNumeric c = true
  marked : '.' ∈ cs ∨ 'e' ∈ cs

theorem AllDigits.splitOnP (digits : AllDigits cs) (other : c.isDigit = false) :
    cs.splitOnP (· == c) = [cs] := by
  apply List.splitOnP_eq_singleton
  intro d member
  rw [beq_eq_false_iff_ne]
  rintro rfl
  rw [digits d member] at other
  cases other

theorem AllDigits.numeric (digits : AllDigits cs) : ∀ c ∈ cs, isNumeric c = true := by
  intro c member
  simp [isNumeric, digits c member]

theorem AllDigits.append (digits : AllDigits whole) (digits' : AllDigits fraction) :
    AllDigits (whole ++ fraction) := by
  intro c member
  rcases List.mem_append.mp member with member | member
  · exact digits c member
  · exact digits' c member

theorem zeros_allDigits (n : Nat) : AllDigits (List.replicate n '0') := by
  intro c member
  rw [List.eq_of_mem_replicate member]
  rfl

theorem toDigits_allDigits (n : Nat) : AllDigits (Nat.toDigits 10 n) := by
  intro c member
  exact Nat.isDigit_of_mem_toDigits (by decide) (by decide) member

theorem plainValue_pointed (digits : AllDigits whole) (digits' : AllDigits fraction) :
    plainValue (whole ++ '.' :: fraction) = pointedValue whole fraction := by
  rw [plainValue, List.splitOnP_append_cons _ _ (by rfl), digits.splitOnP (by decide),
    digits'.splitOnP (by decide)]
  rfl

theorem plainValue_digits (digits : AllDigits whole) : plainValue whole = pointedValue whole [] := by
  rw [plainValue, digits.splitOnP (by decide)]

theorem pointedValue_eq (whole fraction : List Char) :
    pointedValue whole fraction = Nat.ofDigitChars 10 (whole ++ fraction) 0 * 10 ^ (-fraction.length : Int) := by
  rw [pointedValue, zpow_neg, zpow_natCast, div_eq_mul_inv]

theorem positional_spec (digits : AllDigits cs) (some_ : cs ≠ []) (w : Int) : ∃ whole fraction,
    positional cs w true = whole ++ '.' :: fraction ∧ whole ≠ [] ∧ AllDigits whole ∧ AllDigits fraction ∧
      pointedValue whole fraction = Nat.ofDigitChars 10 cs 0 * 10 ^ (w - cs.length) := by
  -- Zeros go before the digits or behind them, or the point goes among them.
  rw [positional]
  split
  · rename_i small
    refine ⟨['0'], List.replicate (-w).toNat '0' ++ cs, rfl, List.cons_ne_nil _ _, zeros_allDigits 1,
      (zeros_allDigits _).append digits, ?_⟩
    have zero : Nat.ofDigitChars 10 ['0'] 0 = 0 := rfl
    rw [pointedValue_eq, Nat.ofDigitChars_append, Nat.ofDigitChars_append, Nat.ofDigitChars_replicate_zero, zero,
      Nat.mul_zero, List.length_append, List.length_replicate]
    congr 2
    omega
  split
  · rename_i large short
    refine ⟨cs ++ List.replicate (w.toNat - cs.length) '0', ['0'], rfl, by simp [some_],
      digits.append (zeros_allDigits _), zeros_allDigits 1, ?_⟩
    have filled : Nat.ofDigitChars 10 (cs ++ List.replicate (w.toNat - cs.length) '0' ++ ['0']) 0 =
        10 ^ (w.toNat - cs.length) * Nat.ofDigitChars 10 cs 0 * 10 := by
      rw [Nat.ofDigitChars_append, Nat.ofDigitChars_append, Nat.ofDigitChars_replicate_zero]
      exact Nat.mul_comm _ _
    have power : (10 : ℚ) ^ (w - cs.length) = 10 ^ (w.toNat - cs.length) := by
      rw [← zpow_natCast]
      congr 1
      omega
    rw [pointedValue, filled, power, List.length_singleton]
    push_cast
    ring
  · rename_i large long
    refine ⟨cs.take w.toNat, cs.drop w.toNat, rfl, ?_, ?_, ?_, ?_⟩
    · rw [← List.length_pos_iff, List.length_take]
      omega
    · intro c member
      exact digits c (List.mem_of_mem_take member)
    · intro c member
      exact digits c (List.mem_of_mem_drop member)
    · rw [pointedValue_eq, List.take_append_drop, List.length_drop]
      congr 2
      omega

theorem numeric_of_pointed (digits : AllDigits whole) (digits' : AllDigits fraction) :
    ∀ c ∈ whole ++ '.' :: fraction, isNumeric c = true := by
  intro c member
  rcases List.mem_append.mp member with member | member
  · exact digits.numeric c member
  rcases List.mem_cons.mp member with rfl | member
  · rfl
  · exact digits'.numeric c member

theorem AllDigits.first (digits : AllDigits whole) (some_ : whole ≠ []) (rest : List Char) :
    StartsWithDigit (whole ++ rest) := by
  cases whole with
  | nil => exact absurd rfl some_
  | cons d whole => exact ⟨d, whole ++ rest, rfl, digits d List.mem_cons_self⟩

theorem positional_text (digits : AllDigits cs) (some_ : cs ≠ []) (w : Int) :
    IsRealText (positional cs w true) ∧
      textValue (positional cs w true) = Nat.ofDigitChars 10 cs 0 * 10 ^ (w - cs.length) := by
  rcases positional_spec digits some_ w with ⟨whole, fraction, is, nonempty, digits, digits', value⟩
  have unpowered : (whole ++ '.' :: fraction).splitOnP (· == 'e') = [whole ++ '.' :: fraction] := by
    apply List.splitOnP_eq_singleton
    intro c member
    rw [beq_eq_false_iff_ne]
    rintro rfl
    rcases List.mem_append.mp member with member | member
    · cases digits _ member
    rcases List.mem_cons.mp member with same | member
    · cases same
    · cases digits' _ member
  rw [is]
  constructor
  · exact ⟨digits.first nonempty _, numeric_of_pointed digits digits', .inl (by simp)⟩
  · rw [textValue, unpowered]
    exact (plainValue_pointed digits digits').trans value

def powerChars (power : Int) : List Char :=
  (if power < 0 then '-' else '+') :: (Nat.repr power.natAbs).toList

theorem powerValue_powerChars (power : Int) : powerValue (powerChars power) = power := by
  rw [powerChars, Nat.toList_repr]
  split
  · rw [powerValue, Nat.ofDigitChars_ten_toDigits]
    omega
  · rw [powerValue, Nat.ofDigitChars_ten_toDigits]
    omega

theorem powerChars_numeric (power : Int) : ∀ c ∈ powerChars power, isNumeric c = true ∧ c ≠ 'e' := by
  intro c member
  rcases List.mem_cons.mp member with rfl | member
  · split <;> decide
  · rw [Nat.toList_repr] at member
    refine ⟨(toDigits_allDigits _).numeric c member, ?_⟩
    rintro rfl
    cases toDigits_allDigits _ _ member

theorem scientific_spec (digits : AllDigits cs) (some_ : cs ≠ []) (power : Int) : ∃ plain,
    scientific cs power = plain ++ 'e' :: powerChars power ∧ StartsWithDigit plain ∧
      (∀ c ∈ plain, isNumeric c = true ∧ c ≠ 'e') ∧
      plainValue plain = Nat.ofDigitChars 10 cs 0 * 10 ^ (1 - cs.length : Int) := by
  have plain {cs : List Char} (digits : AllDigits cs) : ∀ c ∈ cs, isNumeric c = true ∧ c ≠ 'e' := by
    intro c member
    refine ⟨digits.numeric c member, ?_⟩
    rintro rfl
    cases digits _ member
  have value (d : Char) (rest : List Char) : pointedValue [d] rest =
      Nat.ofDigitChars 10 (d :: rest) 0 * 10 ^ (1 - (d :: rest).length : Int) := by
    rw [pointedValue_eq, List.length_cons]
    congr 2
    omega
  match cs, digits, some_ with
  | [d], digits, _ =>
      refine ⟨[d], rfl, ⟨d, [], rfl, digits d List.mem_cons_self⟩, plain digits, ?_⟩
      rw [plainValue_digits digits]
      exact value d []
  | d :: next :: rest, digits, _ =>
      rcases List.forall_mem_cons.mp digits with ⟨first, later⟩
      have alone : AllDigits [d] := List.forall_mem_singleton.mpr first
      refine ⟨d :: '.' :: next :: rest, rfl, ⟨d, _, rfl, first⟩, ?_, ?_⟩
      · intro c member
        rcases List.mem_cons.mp member with rfl | member
        · exact plain alone c List.mem_cons_self
        rcases List.mem_cons.mp member with rfl | member
        · decide
        · exact plain later c member
      · exact (plainValue_pointed alone later).trans (value d (next :: rest))

theorem scientific_text (digits : AllDigits cs) (some_ : cs ≠ []) (power : Int) :
    IsRealText (scientific cs power) ∧
      textValue (scientific cs power) = Nat.ofDigitChars 10 cs 0 * 10 ^ (power + 1 - cs.length) := by
  rcases scientific_spec digits some_ power with ⟨plain, is, ⟨d, rest, front, first⟩, numeric, value⟩
  have alone {cs : List Char} (none_ : ∀ c ∈ cs, isNumeric c = true ∧ c ≠ 'e') :
      cs.splitOnP (· == 'e') = [cs] := by
    apply List.splitOnP_eq_singleton
    intro c member
    rw [beq_eq_false_iff_ne]
    exact (none_ c member).2
  rw [is]
  constructor
  · refine ⟨⟨d, rest ++ 'e' :: powerChars power, by rw [front]; rfl, first⟩, ?_, .inr (by simp)⟩
    intro c member
    rcases List.mem_append.mp member with member | member
    · exact (numeric c member).1
    rcases List.mem_cons.mp member with rfl | member
    · rfl
    · exact (powerChars_numeric power c member).1
  · rw [textValue, List.splitOnP_append_cons _ _ (by rfl), alone numeric, alone (powerChars_numeric power)]
    change plainValue plain * 10 ^ powerValue (powerChars power) = _
    rw [value, powerValue_powerChars, mul_assoc, ← zpow_add₀ (by norm_num)]
    congr 2
    omega

def unsignedText (x : Binary64) : List Char :=
  if x.isZero then ['0', '.', '0']
  else
    let d := shortest .even x
    let digits := (Nat.repr d.digits).toList
    let power := digits.length + d.exponent - 1
    if -5 ≤ power ∧ power < 16 then positional digits (power + 1) true else scientific digits power

theorem toList_jsonText (x : Binary64) :
    (jsonText x).toList = (if x.isNegative then ['-'] else []) ++ unsignedText x := by
  have sign : (if x.isNegative then "-" else "").toList = if x.isNegative then ['-'] else [] := by
    split <;> rfl
  rw [jsonText, unsignedText]
  split
  · rw [String.toList_append, sign]
    rfl
  · rw [String.toList_append, sign, String.toList_ofList]

theorem unsignedText_spec (x : Binary64) : IsRealText (unsignedText x) ∧
    ((x.magnitude = 0 ∧ textValue (unsignedText x) = 0) ∨
      (0 < x.magnitude ∧ RoundsTo (textValue (unsignedText x)) x.magnitude)) := by
  rw [unsignedText]
  split
  · rename_i zero
    have digits : AllDigits ['0'] := zeros_allDigits 1
    have text := positional_text digits (List.cons_ne_nil _ _) 1
    refine ⟨text.1, .inl ⟨by simpa [Binary64.isZero] using zero, ?_⟩⟩
    calc textValue ['0', '.', '0'] = Nat.ofDigitChars 10 ['0'] 0 * 10 ^ (1 - (1 : Nat) : Int) := text.2
      _ = 0 := by simp [Nat.ofDigitChars]
  · rename_i nonzero
    have positive : 0 < x.magnitude := by
      rw [Nat.pos_iff_ne_zero]
      simpa [Binary64.isZero] using nonzero
    have rounds := shortest_roundsTo .even positive
    generalize shortest .even x = d at *
    have digits := toDigits_allDigits d.digits
    have number : Nat.ofDigitChars 10 (Nat.toDigits 10 d.digits) 0 = d.digits := Nat.ofDigitChars_ten_toDigits
    have some_ : Nat.toDigits 10 d.digits ≠ [] := Nat.toDigits_ne_nil
    have power : ((Nat.toDigits 10 d.digits).length : Int) + d.exponent - 1 + 1 -
        (Nat.toDigits 10 d.digits).length = d.exponent := by omega
    simp only [Nat.toList_repr]
    split
    · have text := positional_text digits some_ ((Nat.toDigits 10 d.digits).length + d.exponent - 1 + 1)
      refine ⟨text.1, .inr ⟨positive, ?_⟩⟩
      rw [text.2, number, power]
      exact rounds
    · have text := scientific_text digits some_ ((Nat.toDigits 10 d.digits).length + d.exponent - 1)
      refine ⟨text.1, .inr ⟨positive, ?_⟩⟩
      rw [text.2, number, power]
      exact rounds

theorem magnitude_of_unsignedText (same : unsignedText x = unsignedText x') : x.magnitude = x'.magnitude := by
  have spec := (unsignedText_spec x).2
  have spec' := (unsignedText_spec x').2
  rw [same] at spec
  rcases spec with ⟨zero, value⟩ | ⟨positive, rounds⟩
  · rcases spec' with ⟨zero', _⟩ | ⟨positive', rounds'⟩
    · rw [zero, zero']
    · have bound := rounds'.pos positive'
      rw [value] at bound
      exact absurd bound (lt_irrefl 0)
  · rcases spec' with ⟨_, value'⟩ | ⟨_, rounds'⟩
    · have bound := rounds.pos positive
      rw [value'] at bound
      exact absurd bound (lt_irrefl 0)
    · exact rounds.unique rounds'

theorem sign_append_inj {sign sign' : Bool} {cs cs' : List Char} (first : StartsWithDigit cs)
    (first' : StartsWithDigit cs')
    (same : (if sign then ['-'] else []) ++ cs = (if sign' then ['-'] else []) ++ cs') :
    sign = sign' ∧ cs = cs' := by
  rcases first with ⟨d, rest, rfl, digit⟩
  rcases first' with ⟨d', rest', rfl, digit'⟩
  cases sign <;> cases sign'
  · exact ⟨rfl, same⟩
  · cases same
    cases digit
  · cases same
    cases digit'
  · exact ⟨rfl, (List.cons.inj same).2⟩

theorem jsonText_injective (same : jsonText x = jsonText x') : x = x' := by
  have chars := congrArg String.toList same
  rw [toList_jsonText, toList_jsonText] at chars
  rcases sign_append_inj (unsignedText_spec x).1.first (unsignedText_spec x').1.first chars with ⟨sign, unsigned⟩
  exact Binary64.eq_of_sign_of_magnitude sign (magnitude_of_unsignedText unsigned)

end PlaceGateway.Decimal
