import PlaceGateway.Config.Document
import PlaceGateway.Proofs.DurationText
import PlaceGateway.Proofs.SocketAddress
/-! A configuration that is written and read again, over any text layer that carries texts, numbers, flags
and nothing as they are. Only a missing lifetime does not come back. -/

namespace PlaceGateway

open Yaml (Node)

namespace Yaml.Node

mutual

/-- The node is the value. A text must not look like nothing, so that one that would is not plain. -/
inductive Carries : Node → Json → Prop
  | text {plain : Bool} {s : String} (told : (scalar plain s).isNull = false) :
      Carries (scalar plain s) (.text s)
  | integer (i : Int) : Carries (scalar true (toString i)) (.integer i)
  | flag (b : Bool) : Carries (scalar true (toString b)) (.flag b)
  | null {name : String} (known : name ∈ nullNames) : Carries (scalar true name) .null
  | record {entries : List (Node × Node)} {members : List (String × Json)} (each : CarriesAll entries members) :
      Carries (mapping entries) (.record members)

inductive CarriesAll : List (Node × Node) → List (String × Json) → Prop
  | nil : CarriesAll [] []
  | cons {plain : Bool} {name : String} {node : Node} {value : Json} {entries : List (Node × Node)}
      {members : List (String × Json)} (first : Carries node value) (rest : CarriesAll entries members) :
      CarriesAll ((scalar plain name, node) :: entries) ((name, value) :: members)

end

def Fields.Carry (fields : Fields) (members : List (String × Json)) : Prop :=
  List.Forall₂ (fun field member => field.1 = member.1 ∧ Carries field.2 member.2) fields members

theorem CarriesAll.carry {entries : List (Node × Node)} {members : List (String × Json)}
    (each : CarriesAll entries members) :
    ∃ fields : Fields, (mapping entries).fields? = some fields ∧ fields.Carry members := by
  induction members generalizing entries with
  | nil =>
    cases each
    exact ⟨[], rfl, .nil⟩
  | cons member members ih =>
    obtain _ | ⟨first, rest⟩ := each
    obtain ⟨fields, read, carry⟩ := ih rest
    refine ⟨(_, _) :: fields, ?_, .cons ⟨rfl, first⟩ carry⟩
    change (List.mapM _ (_ :: _)) = _
    rw [List.mapM_cons]
    change (do let rest ← (mapping _).fields?; some (_ :: rest)) = _
    rw [read]
    rfl

theorem Carries.fields {node : Node} {members : List (String × Json)}
    (carried : Carries node (.record members)) :
    ∃ fields : Fields, node.fields? = some fields ∧ fields.Carry members := by
  cases carried with
  | record each => exact each.carry

@[simp]
theorem exists_text (s : String) : ∃ node, Carries node (.text s) := ⟨scalar false s, .text rfl⟩

@[simp]
theorem exists_integer (i : Int) : ∃ node, Carries node (.integer i) := ⟨_, .integer i⟩

@[simp]
theorem exists_flag (b : Bool) : ∃ node, Carries node (.flag b) := ⟨_, .flag b⟩

@[simp]
theorem exists_credential (credential : Option String) :
    ∃ node, Carries node ((credential.map .text).getD .null) := by
  cases credential with
  | none => exact ⟨scalar true "null", .null (by decide)⟩
  | some s => exact exists_text s

theorem exists_record {members : List (String × Json)} (each : ∀ m ∈ members, ∃ node, Carries node m.2) :
    ∃ node, Carries node (.record members) := by
  suffices all : ∃ entries, CarriesAll entries members from ⟨_, .record all.choose_spec⟩
  induction members with
  | nil => exact ⟨[], .nil⟩
  | cons m members ih =>
    obtain ⟨⟨node, first⟩, rest⟩ := List.forall_mem_cons.mp each
    obtain ⟨entries, rest⟩ := ih rest
    exact ⟨(scalar false m.1, node) :: entries, .cons first rest⟩

section Fields

variable {α : Type} {fields : Fields} {members : List (String × Json)} {name : String}

theorem Fields.Carry.named (carry : fields.Carry members) (name : String) :
    Fields.Carry (fields.filter (·.1 == name)) (members.filter (·.1 == name)) := by
  induction carry with
  | nil => exact .nil
  | cons first _ ih =>
    rw [List.filter_cons, List.filter_cons, first.1]
    split
    · exact .cons first ih
    · exact ih

theorem Fields.Carry.read_eq {value : Json} {read : Node → Option α} {a : α} (carry : fields.Carry members)
    (once : members.filter (·.1 == name) = [(name, value)])
    (reads : ∀ node, Carries node value → read node = some a) (default : α) :
    fields.read name read default = some a := by
  have found := carry.named name
  rw [once] at found
  rw [Fields.read]
  generalize fields.filter (·.1 == name) = same at found
  obtain _ | ⟨⟨_, carried⟩, _ | _⟩ := found
  exact reads _ carried

theorem Fields.Carry.read_missing (carry : fields.Carry members)
    (missing : members.filter (·.1 == name) = []) (read : Node → Option α) (default : α) :
    fields.read name read default = some default := by
  have found := carry.named name
  rw [missing] at found
  rw [Fields.read]
  generalize fields.filter (·.1 == name) = same at found
  cases found
  rfl

end Fields

section Values

variable {node : Node}

theorem text?_of_carries {s : String} (carried : Carries node (.text s)) : node.text? = some s := by
  cases carried
  rfl

theorem duration?_of_carries {d : Duration} (carried : Carries node (.text d.text)) :
    node.duration? = some d := by
  rw [duration?, text?_of_carries carried]
  change (Duration.ofText d.text).toOption = some d
  rw [Duration.ofText_text]
  rfl

theorem flag?_of_carries {b : Bool} (carried : Carries node (.flag b)) : node.flag? = some b := by
  cases carried
  cases b <;> rfl

theorem natural?_of_carries {n : Nat} (carried : Carries node (.integer n)) (small : n < 2 ^ 64) :
    node.natural? = some n := by
  cases carried
  have chars : (toString (n : Int)).toList = Nat.toDigits 10 n := by
    change (toString n).toList = _
    rw [Nat.toString_eq_ofList_toDigits, String.toList_ofList]
  have unsigned : (Nat.toDigits 10 n).head? ≠ some '+' := by
    intro plus
    have digit := Nat.isDigit_of_mem_toDigits (by decide) (by decide) (List.mem_of_head? plus)
    exact absurd digit (by decide)
  simp only [natural?, bare, chars, if_neg unsigned]
  split
  · rename_i same
    exact absurd same (Digits.toDigits_ne_zero_cons n _ _)
  · rename_i same
    exact absurd same (Digits.toDigits_ne_zero_cons n _ _)
  · rename_i same
    exact absurd same (Digits.toDigits_ne_zero_cons n _ _)
  · rename_i same
    exact absurd same (Digits.toDigits_ne_zero_cons n _ _)
  · rw [digits?, SocketAddress.number?_toDigits small (Nat.le_refl _)]

theorem port?_of_carries {port : UInt16} (carried : Carries node (.integer port.toNat)) :
    node.port? = some port := by
  have small : port.toNat < 65536 := port.toNat_lt
  rw [port?, natural?_of_carries carried (Nat.lt_trans small (by decide))]
  change (if port.toNat < 65536 then some (UInt16.ofNat port.toNat) else none) = some port
  rw [if_pos small, UInt16.ofNat_toNat]

theorem optional?_of_text {α : Type} {s : String} {read : Node → Option α} {a : α}
    (reads : ∀ node, Carries node (.text s) → read node = some a) (carried : Carries node (.text s)) :
    node.optional? read = some (some a) := by
  have known := reads node carried
  cases carried with
  | text told =>
    rw [optional?, told, known]
    · rfl
    · exact nofun

theorem optional?_of_null {α : Type} {read : Node → Option α} (carried : Carries node .null) :
    node.optional? read = some none := by
  cases carried with
  | @null name known =>
    have nothing : (scalar true name).isNull = true := by
      rw [isNull, List.contains_iff_mem.mpr known, Bool.or_true]
    rw [optional?, nothing]
    · rfl
    · exact nofun

theorem credential?_of_carries {credential : Option String}
    (carried : Carries node ((credential.map .text).getD .null)) : node.optional? text? = some credential := by
  cases credential with
  | none => exact optional?_of_null carried
  | some s => exact optional?_of_text (fun _ => text?_of_carries) carried

theorem choice?_of_carries {α : Type} {s : String} {ofName? : String → Option α} {a : α}
    (named : ofName? s = some a) (carried : Carries node (.text s)) : node.choice? ofName? = some a := by
  cases carried
  exact named

end Values

end Yaml.Node

open Yaml.Node

variable {node : Node}

theorem ServerConfig.ofNode?_of_carries {c : ServerConfig} (carried : Carries node c.json) :
    ofNode? node = some c := by
  obtain ⟨fields, read, carry⟩ := carried.fields
  rw [ofNode?, read]
  simp only [Option.bind_eq_bind, Option.bind_some]
  rw [carry.read_eq rfl fun _ => text?_of_carries, carry.read_eq rfl fun _ => port?_of_carries,
    carry.read_eq rfl fun _ => duration?_of_carries]
  rfl

theorem RedisConfig.ofNode?_of_carries {c : RedisConfig} (carried : Carries node c.json) :
    ofNode? node = some c := by
  obtain ⟨fields, read, carry⟩ := carried.fields
  rw [ofNode?, read]
  simp only [Option.bind_eq_bind, Option.bind_some]
  rw [carry.read_eq rfl fun _ => text?_of_carries, carry.read_eq rfl fun _ => credential?_of_carries,
    carry.read_eq rfl fun _ => credential?_of_carries, carry.read_eq rfl fun _ => duration?_of_carries,
    carry.read_eq rfl fun _ => duration?_of_carries, carry.read_eq rfl fun _ => duration?_of_carries]
  rfl

theorem ProviderConfig.ofNode?_of_carries {c : ProviderConfig} (carried : Carries node c.json) :
    ofNode? node = some c := by
  obtain ⟨fields, read, carry⟩ := carried.fields
  rw [ofNode?, read]
  simp only [Option.bind_eq_bind, Option.bind_some]
  rw [carry.read_eq rfl fun _ => text?_of_carries, carry.read_eq rfl fun _ => text?_of_carries,
    carry.read_eq rfl fun _ => duration?_of_carries]
  rfl

theorem LogFormat.ofName?_name (f : LogFormat) : ofName? f.name = some f := by
  cases f <;> rfl

theorem CacheBackend.ofName?_name (b : CacheBackend) : ofName? b.name = some b := by
  cases b <;> rfl

theorem ObservabilityConfig.ofNode?_of_carries {c : ObservabilityConfig} (carried : Carries node c.json) :
    ofNode? node = some c := by
  obtain ⟨fields, read, carry⟩ := carried.fields
  rw [ofNode?, read]
  simp only [Option.bind_eq_bind, Option.bind_some]
  rw [carry.read_eq rfl fun _ => text?_of_carries,
    carry.read_eq rfl fun _ => choice?_of_carries c.logFormat.ofName?_name,
    carry.read_eq rfl fun _ => flag?_of_carries, carry.read_eq rfl fun _ => text?_of_carries]
  rfl

def CacheConfig.withLifetime (c : CacheConfig) : CacheConfig :=
  { c with ttl := some (c.ttl.getD (.ofSeconds 86400)) }

theorem CacheConfig.ofNode?_of_carries {c : CacheConfig} (carried : Carries node c.json) :
    ofNode? node = some c.withLifetime := by
  obtain ⟨backend, keyPrefix, ttl, cleanupInterval, redis⟩ := c
  obtain ⟨fields, read, carry⟩ := carried.fields
  rw [ofNode?, read]
  simp only [Option.bind_eq_bind, Option.bind_some]
  cases ttl with
  | none =>
    rw [carry.read_eq rfl fun _ => choice?_of_carries backend.ofName?_name,
      carry.read_eq rfl fun _ => text?_of_carries, carry.read_missing rfl,
      carry.read_eq rfl fun _ => duration?_of_carries, carry.read_eq rfl fun _ => RedisConfig.ofNode?_of_carries]
    rfl
  | some d =>
    rw [carry.read_eq rfl fun _ => choice?_of_carries backend.ofName?_name,
      carry.read_eq rfl fun _ => text?_of_carries,
      carry.read_eq rfl fun _ => optional?_of_text fun _ => duration?_of_carries,
      carry.read_eq rfl fun _ => duration?_of_carries, carry.read_eq rfl fun _ => RedisConfig.ofNode?_of_carries]
    rfl

namespace Config

variable {c : Config} {text : String}

theorem exists_carries (c : Config) : ∃ node, Carries node c.json := by
  have server : ∃ node, Carries node c.server.json := exists_record (by simp)
  have redis : ∃ node, Carries node c.cache.redis.json := exists_record (by simp)
  have cache : ∃ node, Carries node c.cache.json := by
    refine exists_record ?_
    cases c.cache.ttl <;> simp [redis]
  have provider : ∃ node, Carries node c.provider.json := exists_record (by simp)
  have observability : ∃ node, Carries node c.observability.json := exists_record (by simp)
  exact exists_record (by simp [server, cache, provider, observability])

theorem ofNode?_of_carries (carried : Carries node c.json) :
    ofNode? node = some { c with cache := c.cache.withLifetime } := by
  obtain ⟨fields, read, carry⟩ := carried.fields
  rw [ofNode?, read]
  simp only [Option.bind_eq_bind, Option.bind_some]
  rw [carry.read_eq rfl fun _ => ServerConfig.ofNode?_of_carries,
    carry.read_eq rfl fun _ => CacheConfig.ofNode?_of_carries,
    carry.read_eq rfl fun _ => ProviderConfig.ofNode?_of_carries,
    carry.read_eq rfl fun _ => ObservabilityConfig.ofNode?_of_carries]
  rfl

theorem withLifetime_eq_iff : { c with cache := c.cache.withLifetime } = c ↔ c.cache.ttl ≠ none := by
  constructor
  · intro same missing
    have lifetime : c.cache.withLifetime.ttl = c.cache.ttl := congrArg (·.cache.ttl) same
    rw [missing] at lifetime
    cases lifetime
  · intro present
    obtain ⟨d, ttl⟩ := Option.ne_none_iff_exists'.mp present
    have lifetime : c.cache.withLifetime = c.cache := by
      rw [CacheConfig.withLifetime, ttl]
      exact congrArg (fun ttl => { c.cache with ttl }) ttl.symm
    rw [lifetime]

theorem ofYaml?_of_carries (document : Yaml.document? text = some (some node)) (carried : Carries node c.json) :
    ofYaml? text = some { c with cache := c.cache.withLifetime } := by
  rw [ofYaml?, document]
  exact ofNode?_of_carries carried

/-- A configuration that is carried is read in every field but a missing lifetime, in place of which there
is the default one. So it comes back exactly if it has a lifetime. A text is read as the node that it holds. -/
theorem rereading_restores_iff (carried : Carries node c.json) :
    ofNode? node = some { c with cache := c.cache.withLifetime } ∧
    (ofNode? node = some c ↔ c.cache.ttl ≠ none) ∧
    ∀ text, Yaml.document? text = some (some node) → ofYaml? text = some { c with cache := c.cache.withLifetime } := by
  have read := ofNode?_of_carries carried
  refine ⟨read, ?_, fun text document => ofYaml?_of_carries document carried⟩
  rw [read, Option.some.injEq]
  exact withLifetime_eq_iff

theorem rereading_restores_credentials : ∃ (c : Config) (node : Node), c.cache.redis.username = some "null" ∧
    c.cache.redis.password = none ∧ c.server.requestTimeout.text = "1m 500ms 7ns" ∧ Carries node c.json ∧
    ofNode? node = some c := by
  let c : Config :=
    { server := { requestTimeout := .ofNanos 60500000007 }, cache := { redis := { username := some "null" } } }
  obtain ⟨node, carried⟩ := exists_carries c
  exact ⟨c, node, rfl, rfl, by decide +kernel, carried, (rereading_restores_iff carried).2.1.mpr nofun⟩

/-- Entries that stay until they are overwritten are written as entries that are gone after a day. -/
theorem missing_lifetime_is_lost : ∃ (c : Config) (node : Node), c.cache.ttl = none ∧ Carries node c.json ∧
    ofNode? node = some { c with cache := { c.cache with ttl := some (.ofSeconds 86400) } } ∧
    ofNode? node ≠ some c := by
  let c : Config := { cache := { ttl := none } }
  obtain ⟨node, carried⟩ := exists_carries c
  have read := ofNode?_of_carries carried
  refine ⟨c, node, rfl, carried, read, ?_⟩
  rw [read]
  decide

end Config

end PlaceGateway
