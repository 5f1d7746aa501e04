import Mathlib.Algebra.GroupWithZero.Nat
import PlaceGateway.DurationText
import PlaceGateway.Proofs.Digits
/-! Durations come back from the texts that they are written as. -/

namespace PlaceGateway

def DurationUnit.length (u : DurationUnit) : Nat := u.seconds * 10 ^ 9 + u.nanos

namespace DurationText

variable {c : Char} {cs rest : List Char} {total start whole offset n : Nat}

theorem not_digit_of_letter (letter : isLetter c = true) : c.isDigit = false ∧ Text.isBlank c = false := by
  have upper (is : c.isUpper = true) : 65 ≤ c.toNat ∧ c.toNat ≤ 90 := of_decide_eq_true is
  have lower (is : c.isLower = true) : 97 ≤ c.toNat ∧ c.toNat ≤ 122 := by
    obtain ⟨low, high⟩ := (Bool.and_eq_true _ _).mp is
    exact ⟨of_decide_eq_true low, of_decide_eq_true high⟩
  have letter : (c.isUpper = true ∨ c.isLower = true) ∨ c = 'µ' := by
    change (c.isUpper || c.isLower || c == 'µ') = true at letter
    rwa [Bool.or_eq_true, Bool.or_eq_true, beq_iff_eq] at letter
  have letter := letter.imp_left (Or.imp upper lower)
  rcases letter with letter | rfl
  · constructor
    · rw [Bool.eq_false_iff]
      intro digit
      simp only [Char.isDigit, Bool.and_eq_true, decide_eq_true_eq, UInt32.le_iff_toNat_le, ge_iff_le] at digit
      change 48 ≤ c.toNat ∧ c.toNat ≤ 57 at digit
      omega
    · simp only [Text.isBlank, Bool.or_eq_false_iff, beq_eq_false_iff_ne, Bool.and_eq_false_iff,
        decide_eq_false_iff_not]
      omega
  · decide

theorem fits_of_lt (small : n < 2 ^ 64) : fits n = .ok n := if_pos small

/-- Digits are read one by one. The number that they come to bounds those on the way to it. -/
theorem steps_digits (total offset : Nat) (rest : List Char) (digits : ∀ c ∈ cs, c.isDigit = true)
    (small : Nat.ofDigitChars 10 cs whole < 2 ^ 64) :
    ∃ offset', steps ⟨total, .number whole⟩ offset (cs ++ rest) =
      steps ⟨total, .number (Nat.ofDigitChars 10 cs whole)⟩ offset' rest := by
  induction cs generalizing whole offset with
  | nil => exact ⟨offset, rfl⟩
  | cons c cs ih =>
    have digit : c.isDigit = true := digits c List.mem_cons_self
    have next : whole * 10 + DurationText.digit c = 10 * whole + (c.toNat - '0'.toNat) := by
      rw [Nat.mul_comm]
      rfl
    rw [Nat.ofDigitChars_cons] at small ⊢
    obtain ⟨offset', read⟩ := ih (offset + c.utf8Size)
      (fun c member => digits c (List.mem_cons_of_mem _ member)) small
    refine ⟨offset', ?_⟩
    have first : step ⟨total, .number whole⟩ offset c =
        .ok ⟨total, .number (10 * whole + (c.toNat - '0'.toNat))⟩ := by
      simp only [step, digit, if_true]
      rw [next, fits_of_lt (Nat.lt_of_le_of_lt (Digits.le_ofDigitChars cs _) small)]
      rfl
    rw [List.cons_append, steps, first]
    exact read

theorem steps_number (total start offset : Nat) (rest : List Char) (small : n < 2 ^ 64) :
    ∃ offset', steps ⟨total, .gap start⟩ offset (Nat.toDigits 10 n ++ rest) =
      steps ⟨total, .number n⟩ offset' rest := by
  have digits {c : Char} (member : c ∈ Nat.toDigits 10 n) : c.isDigit = true :=
    Nat.isDigit_of_mem_toDigits (by decide) (by decide) member
  have value : Nat.ofDigitChars 10 (Nat.toDigits 10 n) 0 = n := Nat.ofDigitChars_ten_toDigits
  cases split : Nat.toDigits 10 n with
  | nil => exact absurd split Nat.toDigits_ne_nil
  | cons c cs =>
    rw [split] at digits value
    rw [Nat.ofDigitChars_cons, Nat.mul_zero, Nat.zero_add] at value
    have first : step ⟨total, .gap start⟩ offset c = .ok ⟨total, .number (c.toNat - '0'.toNat)⟩ := by
      simp only [step, digits List.mem_cons_self, if_true]
      rfl
    obtain ⟨offset', read⟩ := steps_digits total (offset + c.utf8Size) rest
      (fun c member => digits (List.mem_cons_of_mem _ member)) (value ▸ small)
    rw [value] at read
    refine ⟨offset', ?_⟩
    rw [List.cons_append, steps, first]
    exact read

theorem steps_letters (total n offset : Nat) (rest : List Char) (letters : ∀ c ∈ cs, isLetter c = true)
    (front : List Char) :
    ∃ offset', steps ⟨total, .unit n none front⟩ offset (cs ++ rest) =
      steps ⟨total, .unit n none (cs.reverse ++ front)⟩ offset' rest := by
  induction cs generalizing front offset with
  | nil => exact ⟨offset, rfl⟩
  | cons c cs ih =>
    have letter := letters c List.mem_cons_self
    obtain ⟨digit, blank⟩ := not_digit_of_letter letter
    have first : step ⟨total, .unit n none front⟩ offset c = .ok ⟨total, .unit n none (c :: front)⟩ := by
      simp [step, digit, blank, letter]
    obtain ⟨offset', read⟩ := ih (offset + c.utf8Size)
      (fun c member => letters c (List.mem_cons_of_mem _ member)) (c :: front)
    refine ⟨offset', ?_⟩
    rw [List.cons_append, steps, first, List.reverse_cons, List.append_assoc]
    exact read

def names (unit : DurationUnit) (name : String) : Bool :=
  DurationUnit.ofName? name == some unit && !name.toList.isEmpty && name.toList.all isLetter

theorem all_names (unit : DurationUnit) : unit.names.all (names unit) = true := by
  cases unit <;> decide +kernel

theorem ofName?_of_mem (unit : DurationUnit) (name : String) (named : name ∈ unit.names) :
    DurationUnit.ofName? name = some unit ∧ name.toList ≠ [] ∧ ∀ c ∈ name.toList, isLetter c = true := by
  have read := List.all_eq_true.mp (all_names unit) name named
  simp only [names, Bool.and_eq_true, beq_iff_eq, Bool.not_eq_true', List.isEmpty_eq_false_iff,
    List.all_eq_true] at read
  exact ⟨read.1.1, read.1.2, read.2⟩

/-- A number with one of the names of a unit. Numbers of the units below a second do not come to a second. -/
structure Item where
  number : Nat
  unit : DurationUnit
  name : String
  named : name ∈ unit.names
  fine : number * unit.nanos < 10 ^ 9

namespace Item

def text (i : Item) : String := toString i.number ++ i.name

def nanos (i : Item) : Nat := i.number * i.unit.length

theorem toList_text (i : Item) : i.text.toList = Nat.toDigits 10 i.number ++ i.name.toList := by
  rw [text, String.toList_append, Nat.toString_eq_ofList_toDigits, String.toList_ofList]

theorem nanos_eq (i : Item) : i.nanos = i.number * i.unit.seconds * 10 ^ 9 + i.number * i.unit.nanos := by
  rw [nanos, DurationUnit.length, Nat.mul_add, Nat.mul_assoc]

end Item

variable {i : Item}

theorem ok_bind {α β : Type} (a : α) (f : α → Except DurationError β) : (Except.ok a >>= f) = f a := rfl

theorem add_bind (total seconds nanos : Nat) :
    add total seconds nanos = (fits seconds >>= fun seconds => fits nanos >>= fun nanos =>
      fits (total % 10 ^ 9 + nanos) >>= fun _ =>
        fits ((total + seconds * 10 ^ 9 + nanos) / 10 ^ 9) >>= fun _ =>
          .ok (total + seconds * 10 ^ 9 + nanos)) := rfl

/-- Nothing overflows on the way to a total that is a duration. -/
theorem add_eq {seconds nanos : Nat} (fine : nanos < 10 ^ 9)
    (small : total + (seconds * 10 ^ 9 + nanos) < 2 ^ 64 * 10 ^ 9) :
    add total seconds nanos = .ok (total + (seconds * 10 ^ 9 + nanos)) := by
  have whole : fits seconds = .ok _ := fits_of_lt (by omega)
  have below : fits nanos = .ok _ := fits_of_lt (by omega)
  have carried : fits (total % 10 ^ 9 + nanos) = .ok _ := fits_of_lt (by omega)
  have sum : fits ((total + seconds * 10 ^ 9 + nanos) / 10 ^ 9) = .ok _ := fits_of_lt (by omega)
  rw [add_bind, whole, ok_bind, below, ok_bind, carried, ok_bind, sum, ok_bind, Nat.add_assoc]

theorem addItem_eq (small : total + i.nanos < 2 ^ 64 * 10 ^ 9) :
    addItem total i.number none i.name.toList.reverse = .ok (total + i.nanos) := by
  obtain ⟨known, nonempty, _⟩ := ofName?_of_mem i.unit i.name i.named
  rw [i.nanos_eq] at small ⊢
  have added := add_eq i.fine small
  simp only [addItem, List.reverse_eq_nil_iff, nonempty, if_false, List.reverse_reverse,
    String.ofList_toList, known, bind, Except.bind, added, pure, Except.pure]

theorem steps_item (total start offset : Nat) (rest : List Char) (small : i.number < 2 ^ 64) :
    ∃ offset', steps ⟨total, .gap start⟩ offset (i.text.toList ++ rest) =
      steps ⟨total, .unit i.number none i.name.toList.reverse⟩ offset' rest := by
  obtain ⟨_, nonempty, letters⟩ := ofName?_of_mem i.unit i.name i.named
  obtain ⟨middle, number⟩ := steps_number total start offset (i.name.toList ++ rest) small
  rw [i.toList_text, List.append_assoc, number]
  cases split : i.name.toList with
  | nil => exact absurd split nonempty
  | cons c cs =>
    rw [split] at letters
    have letter := letters c List.mem_cons_self
    obtain ⟨digit, blank⟩ := not_digit_of_letter letter
    have first : step ⟨total, .number i.number⟩ middle c = .ok ⟨total, .unit i.number none [c]⟩ := by
      simp [step, digit, blank, letter]
    obtain ⟨offset', read⟩ := steps_letters total i.number (middle + c.utf8Size) rest
      (fun c member => letters c (List.mem_cons_of_mem _ member)) [c]
    refine ⟨offset', ?_⟩
    rw [List.cons_append, steps, first, List.reverse_cons]
    exact read

theorem steps_blank (small : total + i.nanos < 2 ^ 64 * 10 ^ 9) :
    steps ⟨total, .unit i.number none i.name.toList.reverse⟩ offset (' ' :: rest) =
      steps ⟨total + i.nanos, .gap (offset + 1)⟩ (offset + 1) rest := by
  have blank : step ⟨total, .unit i.number none i.name.toList.reverse⟩ offset ' ' =
      (addItem total i.number none i.name.toList.reverse).map fun nanos => ⟨nanos, .gap (offset + 1)⟩ := rfl
  rw [steps, blank, addItem_eq small, Except.map, ok_bind]
  rfl

theorem finish_items (total start offset : Nat) (items : List Item) (nonempty : items ≠ [])
    (numbers : ∀ i ∈ items, i.number < 2 ^ 64)
    (small : total + (items.map Item.nanos).sum < 2 ^ 64 * 10 ^ 9) :
    (steps ⟨total, .gap start⟩ offset ([' '].intercalate (items.map fun i => i.text.toList)) >>= finish) =
      .ok (total + (items.map Item.nanos).sum) := by
  induction items generalizing total start offset with
  | nil => exact absurd rfl nonempty
  | cons i items ih =>
    rw [List.map_cons, List.sum_cons] at small
    rw [List.map_cons, List.map_cons, List.sum_cons]
    have first := numbers i List.mem_cons_self
    cases items with
    | nil =>
      obtain ⟨offset', read⟩ := steps_item total start offset [] first
      have ended : finish ⟨total, .unit i.number none i.name.toList.reverse⟩ =
          addItem total i.number none i.name.toList.reverse := rfl
      rw [List.append_nil] at read
      rw [List.map_nil, List.sum_nil, Nat.add_zero] at small
      rw [List.map_nil, List.map_nil, List.sum_nil, Nat.add_zero, List.intercalate_singleton, read, steps,
        ok_bind, ended, addItem_eq small]
    | cons next items =>
      obtain ⟨offset', read⟩ := steps_item total start offset
        (' ' :: [' '].intercalate ((next :: items).map fun i => i.text.toList)) first
      rw [List.intercalate_cons_of_ne_nil (by simp), List.append_assoc, List.singleton_append, read,
        steps_blank (by omega), ← Nat.add_assoc]
      exact ih _ _ _ (List.cons_ne_nil _ _) (fun i member => numbers i (List.mem_cons_of_mem _ member))
        (by omega)

theorem exists_letter (i : Item) (items : List Item) :
    ∃ c ∈ [' '].intercalate ((i :: items).map fun i => i.text.toList), isLetter c = true := by
  obtain ⟨_, nonempty, letters⟩ := ofName?_of_mem i.unit i.name i.named
  obtain ⟨c, member⟩ := List.exists_mem_of_ne_nil _ nonempty
  have inside : c ∈ i.text.toList := by
    rw [i.toList_text]
    exact List.mem_append_right _ member
  refine ⟨c, ?_, letters c member⟩
  cases items with
  | nil => rwa [List.map_singleton, List.intercalate_singleton]
  | cons next items =>
    rw [List.map_cons, List.intercalate_cons_of_ne_nil (by simp), List.append_assoc]
    exact List.mem_append_left _ inside

def Comes (texts : List String) (nanos : Nat) : Prop :=
  ∃ items : List Item, texts = items.map Item.text ∧ (∀ i ∈ items, i.number < 2 ^ 64) ∧
    (items.map Item.nanos).sum = nanos

theorem comes_nil : Comes [] 0 := ⟨[], rfl, nofun, rfl⟩

theorem comes_singleton (i : Item) (small : i.number < 2 ^ 64) : Comes [i.text] i.nanos :=
  ⟨[i], rfl, List.forall_mem_singleton.mpr small, by rw [List.map_singleton, List.sum_singleton]⟩

theorem Comes.append {texts texts' : List String} {nanos nanos' : Nat} (comes : Comes texts nanos)
    (comes' : Comes texts' nanos') : Comes (texts ++ texts') (nanos + nanos') := by
  obtain ⟨items, rfl, small, rfl⟩ := comes
  obtain ⟨items', rfl, small', rfl⟩ := comes'
  refine ⟨items ++ items', by rw [List.map_append], ?_, by rw [List.map_append, List.sum_append]⟩
  exact List.forall_mem_append.mpr ⟨small, small'⟩

theorem Comes.of_eq {texts : List String} {nanos nanos' : Nat} (comes : Comes texts nanos)
    (same : nanos = nanos') : Comes texts nanos' := same ▸ comes

theorem comes_item (unit : DurationUnit) {name : String} (named : name ∈ unit.names) (small : n < 2 ^ 64)
    (fine : n * unit.nanos < 10 ^ 9) : Comes (Duration.item n name) (n * unit.length) := by
  rw [Duration.item]
  split
  · rename_i zero
    rw [zero, Nat.zero_mul]
    exact comes_nil
  · exact comes_singleton ⟨n, unit, name, named, fine⟩ small

theorem fine_of_whole {unit : DurationUnit} (whole : unit.nanos = 0) (n : Nat) : n * unit.nanos < 10 ^ 9 := by
  rw [whole, Nat.mul_zero]
  decide

theorem comes_longItem (unit : DurationUnit) {name : String} (named : name ∈ unit.names)
    (plural : name ++ "s" ∈ unit.names) (whole : unit.nanos = 0) (small : n < 2 ^ 64) :
    Comes (Duration.longItem n name) (n * unit.length) := by
  have fine := fine_of_whole whole n
  rw [Duration.longItem]
  split
  · rename_i zero
    rw [zero, Nat.zero_mul]
    exact comes_nil
  · rw [String.append_assoc]
    split
    · rw [String.append_empty]
      exact comes_singleton ⟨n, unit, name, named, fine⟩ small
    · exact comes_singleton ⟨n, unit, name ++ "s", plural, fine⟩ small

theorem readNanos_of_comes {texts : List String} {nanos : Nat} (comes : Comes texts nanos)
    (positive : 0 < nanos) (small : nanos < 2 ^ 64 * 10 ^ 9) :
    readNanos (" ".intercalate texts) = .ok nanos := by
  obtain ⟨items, rfl, numbers, rfl⟩ := comes
  have chars : (" ".intercalate (items.map Item.text)).toList =
      [' '].intercalate (items.map fun i => i.text.toList) := by
    rw [String.toList_intercalate, List.map_map]
    rfl
  cases items with
  | nil => cases positive
  | cons i items =>
    obtain ⟨c, member, letter⟩ := exists_letter i items
    have read := finish_items 0 0 0 (i :: items) (List.cons_ne_nil _ _) numbers
      (by rwa [Nat.zero_add])
    rw [← chars] at member read
    have longer : " ".intercalate ((i :: items).map Item.text) ≠ "0" := by
      intro zero
      rw [zero] at member
      rw [List.mem_singleton.mp member] at letter
      cases letter
    have told : (" ".intercalate ((i :: items).map Item.text)).toList.all Text.isBlank = false := by
      rw [List.all_eq_false]
      exact ⟨c, member, by rw [(not_digit_of_letter letter).2]; exact Bool.false_ne_true⟩
    rw [readNanos, if_neg longer, told]
    rw [Nat.zero_add] at read
    exact read

end DurationText

namespace Duration

open DurationText

theorem comes_items {nanos : Nat} (bound : nanos < 2 ^ 64 * 10 ^ 9) :
    let seconds := nanos / 10 ^ 9
    let rest := nanos % 10 ^ 9
    let inYear := seconds % 31557600
    let inMonth := inYear % 2630016
    let inDay := inMonth % 86400
    Comes (longItem (seconds / 31557600) "year" ++ longItem (inYear / 2630016) "month" ++
      longItem (inMonth / 86400) "day" ++ item (inDay / 3600) "h" ++ item (inDay % 3600 / 60) "m" ++
      item (inDay % 60) "s" ++ item (rest / 10 ^ 6) "ms" ++ item (rest / 10 ^ 3 % 1000) "us" ++
      item (rest % 1000) "ns") nanos := by
  intro seconds rest inYear inMonth inDay
  have years : Comes (longItem (seconds / 31557600) "year") _ :=
    comes_longItem .year (by decide) (by decide) rfl (by omega)
  have months : Comes (longItem (inYear / 2630016) "month") _ :=
    comes_longItem .month (by decide) (by decide) rfl (by omega)
  have days : Comes (longItem (inMonth / 86400) "day") _ :=
    comes_longItem .day (by decide) (by decide) rfl (by omega)
  have hours : Comes (item (inDay / 3600) "h") _ :=
    comes_item .hour (by decide) (by omega) (fine_of_whole rfl _)
  have minutes : Comes (item (inDay % 3600 / 60) "m") _ :=
    comes_item .minute (by decide) (by omega) (fine_of_whole rfl _)
  have secs : Comes (item (inDay % 60) "s") _ :=
    comes_item .second (by decide) (by omega) (fine_of_whole rfl _)
  have millis : Comes (item (rest / 10 ^ 6) "ms") _ :=
    comes_item .millisecond (by decide) (by omega) (by rw [DurationUnit.nanos]; omega)
  have micros : Comes (item (rest / 10 ^ 3 % 1000) "us") _ :=
    comes_item .microsecond (by decide) (by omega) (by rw [DurationUnit.nanos]; omega)
  have nanoseconds : Comes (item (rest % 1000) "ns") _ :=
    comes_item .nanosecond (by decide) (by omega) (by rw [DurationUnit.nanos]; omega)
  have coarse := ((((years.append months).append days).append hours).append minutes).append secs
  refine (((coarse.append millis).append micros).append nanoseconds).of_eq ?_
  simp only [DurationUnit.length, DurationUnit.seconds, DurationUnit.nanos]
  omega

theorem ofText_text (d : Duration) : ofText d.text = .ok d := by
  obtain ⟨nanos, nanos_lt⟩ := d
  have capped : ofNanos nanos = ⟨nanos, nanos_lt⟩ := by
    rw [ofNanos]
    congr 1
    exact Nat.min_eq_left (by omega)
  have read : readNanos (text ⟨nanos, nanos_lt⟩) = .ok nanos := by
    rw [text]
    split
    · rename_i zero
      have zero : nanos = 0 := zero
      rw [zero]
      rfl
    · rename_i nonzero
      exact readNanos_of_comes (comes_items nanos_lt) (Nat.pos_of_ne_zero nonzero) nanos_lt
  rw [ofText, read, Except.map, capped]

end Duration

end PlaceGateway
