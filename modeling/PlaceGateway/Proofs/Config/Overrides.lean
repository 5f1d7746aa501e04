import PlaceGateway.Config.Load
import PlaceGateway.Proofs.DurationText
/-! What the variables of the environment make of a configuration: each one that is present puts its value in
its own place, in their order, up to the first one whose value means nothing. -/

namespace PlaceGateway

def IsNumber (text : String) (n : Nat) : Prop :=
  ∃ digits : List Char, digits ≠ [] ∧ (∀ c ∈ digits, c.isDigit = true) ∧ Nat.ofDigitChars 10 digits 0 = n ∧
    (text.toList = digits ∨ text.toList = '+' :: digits)

def Config.fixed (c : Config) : Duration × Duration × Duration :=
  (c.cache.cleanupInterval, c.cache.redis.connectionTimeout, c.cache.redis.operationTimeout)

namespace Variable

variable {v w : Variable} {text : String} {n m : Nat} {c c' : Config}

/-- What a text says about the setting of a variable. Names are read in any case. -/
def Means : (v : Variable) → String → v.Value → Prop
  | port, text, x => IsNumber text x.toNat
  | requestTimeout, text, x | reconnectInterval, text, x | providerTimeout, text, x =>
    Duration.ofText text = .ok x
  | ttl, text, x => ∃ d, Duration.ofText text = .ok d ∧ x = if d.nanos = 0 then none else some d
  | backend, text, x =>
    (Text.lowercase text, x) ∈ [("redis", CacheBackend.redis), ("valkey", .redis), ("memory", .memory)]
  | logFormat, text, x =>
    (Text.lowercase text, x) ∈ [("json", LogFormat.json), ("pretty", .pretty), ("text", .pretty)]
  | metricsEnabled, text, x => (text, x) ∈ [("true", true), ("false", false)]
  | redisUsername, text, x | redisPassword, text, x => x = some text
  | bindAddress, text, x | keyPrefix, text, x | redisUrl, text, x | baseUrl, text, x | apiKey, text, x
  | logLevel, text, x | metricsAddress, text, x => x = text

theorem mem_all (v : Variable) : v ∈ all := by
  cases v <;> decide

theorem all_nodup : all.Nodup := by
  decide

theorem set_get (v : Variable) (c : Config) : v.set (v.get c) c = c := by
  cases v <;> rfl

@[simp] theorem fixed_set (v : Variable) (x : v.Value) (c : Config) : (v.set x c).fixed = c.fixed := by
  cases v <;> rfl

theorem config_ext (settings : ∀ v : Variable, v.get c = v.get c') (fixed : c.fixed = c'.fixed) : c = c' := by
  rcases c with ⟨⟨_, _, _⟩, ⟨_, _, _, _, ⟨_, _, _, _, _, _⟩⟩, ⟨_, _, _⟩, ⟨_, _, _, _⟩⟩
  rcases c' with ⟨⟨_, _, _⟩, ⟨_, _, _, _, ⟨_, _, _, _, _, _⟩⟩, ⟨_, _, _⟩, ⟨_, _, _, _⟩⟩
  cases fixed
  cases settings bindAddress
  cases settings port
  cases settings requestTimeout
  cases settings backend
  cases settings keyPrefix
  cases settings ttl
  cases settings redisUrl
  cases settings redisUsername
  cases settings redisPassword
  cases settings reconnectInterval
  cases settings baseUrl
  cases settings apiKey
  cases settings providerTimeout
  cases settings logLevel
  cases settings logFormat
  cases settings metricsEnabled
  cases settings metricsAddress
  rfl

theorem portDigits_eq_ok_iff {cs : List Char} (small : n < 65536) :
    portDigits n cs = .ok m ↔ (∀ c ∈ cs, c.isDigit = true) ∧ Nat.ofDigitChars 10 cs n = m ∧ m < 65536 := by
  induction cs generalizing n with
  | nil =>
      simp only [portDigits, Except.ok.injEq, Nat.ofDigitChars_nil, List.not_mem_nil, false_implies,
        implies_true, true_and]
      omega
  | cons c rest ih =>
      have next : n * 10 + (c.toNat - 48) = 10 * n + (c.toNat - '0'.toNat) := by
        rw [Nat.mul_comm]
        rfl
      rw [portDigits, Nat.ofDigitChars_cons, List.forall_mem_cons, next]
      by_cases digit : c.isDigit = true
      · simp only [digit, not_true_eq_false, if_false, true_and]
        split
        · rename_i within
          exact ih within
        · rename_i beyond
          -- The number only grows from here, so it stays too large for a port.
          have grows := Digits.le_ofDigitChars rest (10 * n + (c.toNat - '0'.toNat))
          constructor
          · exact nofun
          · intro read
            omega
      · rw [if_pos digit]
        constructor
        · exact nofun
        · intro read
          exact absurd read.1.1 digit

theorem readPort_eq_ok_iff {x : UInt16} : readPort text = .ok x ↔ IsNumber text x.toNat := by
  -- What the digits come to is below 2 ^ 16, so it is the same number in either type.
  have digits (cs : List Char) : (portDigits 0 cs).map UInt16.ofNat = .ok x ↔
      (∀ c ∈ cs, c.isDigit = true) ∧ Nat.ofDigitChars 10 cs 0 = x.toNat := by
    have small : x.toNat < 65536 := x.toNat_lt
    rw [← and_iff_left (a := Nat.ofDigitChars 10 cs 0 = x.toNat) small,
      ← portDigits_eq_ok_iff (by decide)]
    cases read : portDigits 0 cs with
    | error e => exact ⟨nofun, nofun⟩
    | ok n =>
        have bound := ((portDigits_eq_ok_iff (by decide)).mp read).2.2
        simp only [Except.map, Except.ok.injEq]
        constructor
        · intro same
          rw [← same, UInt16.toNat_ofNat_of_lt' bound]
        · intro same
          rw [same, UInt16.ofNat_toNat]
  have plus : '+'.isDigit = false := by decide
  rw [readPort, IsNumber]
  split
  · rename_i empty
    constructor
    · exact nofun
    · intro read
      rcases read with ⟨cs, some_, _, _, is | is⟩
      · exact absurd (is.symm.trans empty) some_
      · cases is.symm.trans empty
  · rename_i c rest signed
    rw [digits]
    constructor
    · intro read
      exact ⟨c :: rest, List.cons_ne_nil _ _, read.1, read.2, .inr signed⟩
    · intro read
      rcases read with ⟨cs, _, all, value, is | is⟩
      · have first := all '+' (by rw [← is, signed]; exact List.mem_cons_self)
        exact absurd first (by rw [plus]; decide)
      · cases signed.symm.trans is
        exact ⟨all, value⟩
  · rename_i nonempty unsigned
    rw [digits]
    constructor
    · intro read
      exact ⟨text.toList, nonempty, read.1, read.2, .inl rfl⟩
    · intro read
      rcases read with ⟨cs, some_, all, value, is | is⟩
      · rw [is]
        exact ⟨all, value⟩
      · cases cs with
        | nil => exact absurd rfl some_
        | cons c rest => exact absurd is (unsigned c rest)

theorem readDuration_eq_ok_iff {d : Duration} : readDuration text = .ok d ↔ Duration.ofText text = .ok d := by
  rw [readDuration]
  cases Duration.ofText text with
  | error e =>
      constructor
      · intro read
        cases read
      · intro read
        cases read
  | ok d' =>
      constructor
      · intro read
        cases read
        rfl
      · intro read
        cases read
        rfl

theorem readTtl_eq_ok_iff {x : Option Duration} :
    readTtl text = .ok x ↔ ∃ d, Duration.ofText text = .ok d ∧ x = if d.nanos = 0 then none else some d := by
  have zero (d : Duration) : (if d.isZero then none else some d) = if d.nanos = 0 then none else some d := by
    simp [Duration.isZero]
  simp only [← readDuration_eq_ok_iff, ← zero]
  rw [readTtl]
  cases readDuration text with
  | error e =>
      constructor
      · intro read
        cases read
      · intro read
        rcases read with ⟨d, read, _⟩
        cases read
  | ok d =>
      constructor
      · intro read
        cases read
        exact ⟨d, rfl, rfl⟩
      · intro read
        rcases read with ⟨d', read, rfl⟩
        cases read
        rfl

theorem readBackend_eq_ok_iff {x : CacheBackend} : readBackend text = .ok x ↔
    (Text.lowercase text, x) ∈ [("redis", CacheBackend.redis), ("valkey", .redis), ("memory", .memory)] := by
  rw [readBackend]
  split
  · rename_i redis
    rcases redis with is | is <;> simp [is, eq_comm]
  · rename_i other
    split
    · rename_i memory
      simp [memory, eq_comm]
    · rename_i unknown
      simp_all

theorem readLogFormat_eq_ok_iff {x : LogFormat} : readLogFormat text = .ok x ↔
    (Text.lowercase text, x) ∈ [("json", LogFormat.json), ("pretty", .pretty), ("text", .pretty)] := by
  rw [readLogFormat]
  split
  · rename_i json
    simp [json, eq_comm]
  · rename_i other
    split
    · rename_i pretty
      rcases pretty with is | is <;> simp [is, eq_comm]
    · rename_i unknown
      simp_all

theorem readFlag_eq_ok_iff {x : Bool} :
    readFlag text = .ok x ↔ (text, x) ∈ [("true", true), ("false", false)] := by
  rw [readFlag]
  split
  · rename_i yes
    simp [yes, eq_comm]
  · rename_i other
    split
    · rename_i no
      simp [no, eq_comm]
    · rename_i unknown
      simp_all

theorem read_eq_ok_iff {x : v.Value} : v.read text = .ok x ↔ v.Means text x := by
  cases v with
  | port => exact readPort_eq_ok_iff
  | requestTimeout | reconnectInterval | providerTimeout => exact readDuration_eq_ok_iff
  | ttl => exact readTtl_eq_ok_iff
  | backend => exact readBackend_eq_ok_iff
  | logFormat => exact readLogFormat_eq_ok_iff
  | metricsEnabled => exact readFlag_eq_ok_iff
  | redisUsername | redisPassword | bindAddress | keyPrefix | redisUrl | baseUrl | apiKey | logLevel
  | metricsAddress =>
      change Except.ok _ = Except.ok x ↔ x = _
      rw [Except.ok.injEq, eq_comm]

def IsAcceptable (lookup : String → Option String) (v : Variable) : Prop :=
  ∀ text, lookup v.name = some text → ∃ x, v.Means text x

theorem isAcceptable_iff {lookup : String → Option String} :
    v.IsAcceptable lookup ↔ ∀ text ∈ lookup v.name, (v.read text).isOk = true := by
  have readable (text : String) : (v.read text).isOk = true ↔ ∃ x, v.Means text x := by
    simp only [← read_eq_ok_iff]
    cases v.read text <;> simp [Except.isOk, Except.toBool]
  simp only [IsAcceptable, readable, Option.mem_def]

instance (lookup : String → Option String) (v : Variable) : Decidable (v.IsAcceptable lookup) :=
  decidable_of_iff _ isAcceptable_iff.symm

instance {P : Variable → Prop} [DecidablePred P] : Decidable (∀ v, P v) :=
  decidable_of_iff (∀ v ∈ all, P v) ⟨fun listed v => listed v v.mem_all, fun every v _ => every v⟩

end Variable

namespace Config

variable {lookup : String → Option String} {vs front rest : List Variable} {v : Variable} {c c' next : Config}

/-- The one configuration holds what the present ones among the variables mean, and is the other one besides. -/
structure Overridden (lookup : String → Option String) (vs : List Variable) (c c' : Config) : Prop where
  present : ∀ v ∈ vs, ∀ text, lookup v.name = some text → v.Means text (v.get c')
  absent : ∀ v : Variable, lookup v.name = none → v.get c' = v.get c
  beyond : ∀ v : Variable, v ∉ vs → v.get c' = v.get c
  fixed : c'.fixed = c.fixed

theorem Overridden.nil (lookup : String → Option String) (c : Config) : Overridden lookup [] c c :=
  ⟨nofun, fun _ _ => rfl, fun _ _ => rfl, rfl⟩

theorem Overridden.cons {text : String} {x : v.Value} (given : lookup v.name = some text) (means : v.Means text x)
    (new : v ∉ vs) (others : Overridden lookup vs (v.set x c) c') : Overridden lookup (v :: vs) c c' := by
  have else_ {w : Variable} (other : w ≠ v) : w.get (v.set x c) = w.get c := Variable.get_set_of_ne other x c
  refine ⟨?_, ?_, ?_, ?_⟩
  · intro w member text' given'
    rcases List.mem_cons.mp member with rfl | member
    · cases given.symm.trans given'
      rw [others.beyond _ new, Variable.get_set]
      exact means
    · exact others.present w member text' given'
  · intro w absent
    have other : w ≠ v := by
      rintro rfl
      cases absent.symm.trans given
    rw [others.absent w absent, else_ other]
  · intro w outside
    rw [List.mem_cons, not_or] at outside
    rw [others.beyond w outside.2, else_ outside.1]
  · rw [others.fixed, Variable.fixed_set]

theorem Overridden.skip (absent : lookup v.name = none) (others : Overridden lookup vs c c') :
    Overridden lookup (v :: vs) c c' := by
  refine ⟨?_, others.absent, ?_, others.fixed⟩
  · intro w member text given
    rcases List.mem_cons.mp member with rfl | member
    · cases absent.symm.trans given
    · exact others.present w member text given
  · intro w outside
    exact others.beyond w (fun member => outside (List.mem_cons_of_mem v member))

theorem overrideWith_append (rest : List Variable) (nodup : vs.Nodup)
    (acceptable : ∀ v ∈ vs, v.IsAcceptable lookup) (c : Config) :
    ∃ c', overrideWith lookup (vs ++ rest) c = overrideWith lookup rest c' ∧ Overridden lookup vs c c' := by
  induction vs generalizing c with
  | nil => exact ⟨c, rfl, .nil lookup c⟩
  | cons v vs ih =>
      rcases List.nodup_cons.mp nodup with ⟨new, nodup⟩
      rcases List.forall_mem_cons.mp acceptable with ⟨first, acceptable⟩
      rw [List.cons_append, overrideWith]
      cases given : lookup v.name with
      | none =>
          rcases ih nodup acceptable c with ⟨c', same, others⟩
          exact ⟨c', same, others.skip given⟩
      | some text =>
          rcases first text given with ⟨x, means⟩
          rcases ih nodup acceptable (v.set x c) with ⟨c', same, others⟩
          simp only [Variable.read_eq_ok_iff.mpr means]
          exact ⟨c', same, others.cons given means new⟩

theorem overrideWith_append_self (rest : List Variable)
    (holds : ∀ v ∈ vs, ∀ text, lookup v.name = some text → v.Means text (v.get c)) :
    overrideWith lookup (vs ++ rest) c = overrideWith lookup rest c := by
  induction vs with
  | nil => rfl
  | cons v vs ih =>
      rcases List.forall_mem_cons.mp holds with ⟨first, holds⟩
      rw [List.cons_append, overrideWith, ← ih holds]
      cases given : lookup v.name with
      | none => rfl
      | some text =>
          simp only [Variable.read_eq_ok_iff.mpr (first text given), Variable.set_get]

theorem Overridden.unique {c'' : Config} (one : Overridden lookup vs c c') (other : Overridden lookup vs c c'') :
    c' = c'' := by
  apply Variable.config_ext
  · intro v
    by_cases member : v ∈ vs
    · cases given : lookup v.name with
      | none => rw [one.absent v given, other.absent v given]
      | some text =>
          have read := Variable.read_eq_ok_iff.mpr (one.present v member text given)
          have read' := Variable.read_eq_ok_iff.mpr (other.present v member text given)
          exact Except.ok.inj (read.symm.trans read')
    · rw [one.beyond v member, other.beyond v member]
  · rw [one.fixed, other.fixed]

theorem Overridden.iff {c'' : Config} (one : Overridden lookup vs c c') :
    Overridden lookup vs c c'' ↔ c'' = c' := by
  constructor
  · intro other
    exact other.unique one
  · intro same
    rw [same]
    exact one

theorem exists_first_unacceptable (vs : List Variable) (unacceptable : ¬ ∀ v ∈ vs, v.IsAcceptable lookup) :
    ∃ front v rest, vs = front ++ v :: rest ∧ (∀ w ∈ front, w.IsAcceptable lookup) ∧
      ¬ v.IsAcceptable lookup := by
  induction vs with
  | nil => exact absurd nofun unacceptable
  | cons v vs ih =>
      by_cases first : v.IsAcceptable lookup
      · have later : ¬ ∀ w ∈ vs, w.IsAcceptable lookup := by
          intro all
          exact unacceptable (List.forall_mem_cons.mpr ⟨first, all⟩)
        rcases ih later with ⟨front, w, rest, rfl, before, refused⟩
        exact ⟨v :: front, w, rest, rfl, List.forall_mem_cons.mpr ⟨first, before⟩, refused⟩
      · exact ⟨[], v, vs, rfl, nofun, first⟩

theorem overrideWith_of_unacceptable (rest : List Variable) (refused : ¬ v.IsAcceptable lookup) (c : Config) :
    ∃ text error, lookup v.name = some text ∧ v.read text = .error error ∧
      overrideWith lookup (v :: rest) c = (c, some ⟨v, error⟩) := by
  simp only [Variable.IsAcceptable, not_forall, not_exists] at refused
  rcases refused with ⟨text, given, meaningless⟩
  cases read : v.read text with
  | ok x => exact absurd (Variable.read_eq_ok_iff.mp read) (meaningless x)
  | error error =>
      refine ⟨text, error, given, read, ?_⟩
      simp only [overrideWith, given, read]

/-- Acceptable variables are all applied. Otherwise the call fails with a message about the first one whose
value means nothing, and exactly the ones before it are applied. The same variables change nothing more. -/
theorem override_applies (lookup : String → Option String) (c : Config) :
    ((∀ v : Variable, v.IsAcceptable lookup) →
      overrideError (c.override lookup).2 = .ok () ∧
      ∀ c', Overridden lookup Variable.all c c' ↔ c' = (c.override lookup).1) ∧
    ((¬ ∀ v : Variable, v.IsAcceptable lookup) → ∃ front v rest text error,
      Variable.all = front ++ v :: rest ∧ (∀ w ∈ front, w.IsAcceptable lookup) ∧
      lookup v.name = some text ∧ (∀ x, ¬ v.Means text x) ∧ v.read text = .error error ∧
      overrideError (c.override lookup).2 =
        .error (.configuration ("Invalid " ++ v.name ++ ": " ++ error.message)) ∧
      ∀ c', Overridden lookup front c c' ↔ c' = (c.override lookup).1) ∧
    (c.override lookup).1.override lookup = c.override lookup := by
  by_cases acceptable : ∀ v : Variable, v.IsAcceptable lookup
  · rcases overrideWith_append [] Variable.all_nodup (fun v _ => acceptable v) c with ⟨c', whole, overridden⟩
    have all : c.override lookup = (c', none) := by
      rw [override, ← List.append_nil Variable.all, whole, overrideWith]
    have again : c'.override lookup = (c', none) := by
      rw [override, ← List.append_nil Variable.all, overrideWith_append_self [] overridden.present, overrideWith]
    rw [all]
    refine ⟨?_, ?_, again⟩
    · intro _
      exact ⟨rfl, fun _ => overridden.iff⟩
    · intro unacceptable
      exact absurd acceptable unacceptable
  · have some_ : ¬ ∀ v ∈ Variable.all, v.IsAcceptable lookup := by
      intro listed
      exact acceptable fun v => listed v v.mem_all
    rcases exists_first_unacceptable Variable.all some_ with ⟨front, v, rest, split, before, refused⟩
    have nodup : front.Nodup := (List.nodup_append.mp (split ▸ Variable.all_nodup)).1
    rcases overrideWith_append (v :: rest) nodup before c with ⟨c', whole, overridden⟩
    rcases overrideWith_of_unacceptable rest refused c' with ⟨text, error, given, read, ended⟩
    have all : c.override lookup = (c', some ⟨v, error⟩) := by
      rw [override, split, whole, ended]
    have again : c'.override lookup = (c', some ⟨v, error⟩) := by
      rw [override, split, overrideWith_append_self (v :: rest) overridden.present, ended]
    rw [all]
    refine ⟨?_, ?_, again⟩
    · intro all
      exact absurd all acceptable
    · intro _
      have meaningless (x : v.Value) : ¬ v.Means text x := by
        intro means
        rw [Variable.read_eq_ok_iff.mpr means] at read
        cases read
      exact ⟨front, v, rest, text, error, split, before, given, meaningless, read, rfl, fun _ => overridden.iff⟩

def sourceOf (given : List (String × String)) : String → Option String := fun asked => given.lookup asked

def acceptedSource : String → Option String :=
  sourceOf [("PLACES_CACHE_TTL", "0s"), ("PLACES_SERVER_PORT", "+080")]

def refusedSource : String → Option String :=
  sourceOf [("PLACES_METRICS_ENABLED", "yes"), ("PLACES_LOG_FORMAT", "XML"), ("PLACES_SERVER_PORT", "80")]

theorem override_applies_to_port :
    ((∀ v : Variable, v.IsAcceptable acceptedSource) ∧
      ∀ c', Overridden acceptedSource Variable.all {} c' ↔
        c' = { server := { port := 80 }, cache := { ttl := none } }) ∧
    (¬ ∀ v : Variable, v.IsAcceptable refusedSource) ∧
    (Config.override refusedSource {}).2 = some ⟨.logFormat, .name "xml"⟩ ∧
    ∃ front, Variable.logFormat ∉ front ∧ Overridden refusedSource front {} { server := { port := 80 } } := by
  have accepted : ∀ v : Variable, v.IsAcceptable acceptedSource := by decide +kernel
  have refused : ¬ ∀ v : Variable, v.IsAcceptable refusedSource := by decide +kernel
  have settings : { server := { port := 80 }, cache := { ttl := none } } =
    (Config.override acceptedSource {}).1 := by decide +kernel
  have kept : { server := { port := 80 } } = (Config.override refusedSource {}).1 := by decide +kernel
  constructor
  · rw [settings]
    exact ⟨accepted, ((override_applies acceptedSource {}).1 accepted).2⟩
  · refine ⟨refused, by decide +kernel, ?_⟩
    rcases (override_applies refusedSource {}).2.1 refused with
      ⟨front, _, _, _, _, _, before, _, _, _, _, applied⟩
    refine ⟨front, ?_, (applied _).mpr kept⟩
    intro member
    exact absurd (before _ member) (by decide +kernel)

end Config

end PlaceGateway
