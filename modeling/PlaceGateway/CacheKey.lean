import PlaceGateway.Decimal
import PlaceGateway.Sha256
/-! Cache keys. The parameters of a request are put into one canonical form, whose parts are hashed
into a key within a namespace of keys. -/

namespace PlaceGateway

inductive ParamValue where
  | text (value : String)
  | texts (values : List String)
  | real (value : Binary64)
  | flag (value : Bool)
  | integer (value : Int)
  deriving DecidableEq, Repr

namespace ParamValue

/-- Lists are compared as multisets, so a list is written in order of code points. -/
def normalize : ParamValue → String
  | text value => value
  | texts values =>
    "[" ++ ",".intercalate (values.mergeSort fun a b => decide (a ≤ b)) ++ "]"
  | real value => Decimal.keyText value
  | flag value => if value then "true" else "false"
  | integer value => toString value

/-- Empty texts and lists say nothing; `false` and zero are real values. -/
def isUnspecified : ParamValue → Bool
  | text value => value.isEmpty
  | texts values => values.isEmpty
  | _ => false

end ParamValue

/-- Named parameters in strictly increasing order of their names. -/
structure RequestParams where
  entries : List (String × Option ParamValue)
  deriving DecidableEq, Repr

namespace RequestParams

def empty : RequestParams := ⟨[]⟩

def insertEntry (name : String) (value : Option ParamValue) :
    List (String × Option ParamValue) → List (String × Option ParamValue)
  | [] => [(name, value)]
  | entry :: rest =>
    if name < entry.1 then (name, value) :: entry :: rest
    else if entry.1 = name then (name, value) :: rest
    else entry :: insertEntry name value rest

/-- The last value of a name counts, also when it is absent. -/
def insert (params : RequestParams) (name : String) (value : Option ParamValue) : RequestParams :=
  ⟨insertEntry name value params.entries⟩

def ofList (additions : List (String × Option ParamValue)) : RequestParams :=
  additions.foldl (fun params addition => params.insert addition.1 addition.2) empty

def get? (params : RequestParams) (name : String) : Option ParamValue :=
  (params.entries.lookup name).join

def size (params : RequestParams) : Nat := params.entries.length

def part? (name : String) : Option ParamValue → Option String
  | some value => if value.isUnspecified then none else some (name ++ "=" ++ value.normalize)
  | none => none

def parts (params : RequestParams) : List String :=
  params.entries.filterMap fun entry => part? entry.1 entry.2

end RequestParams

namespace CacheKey

/-- What is hashed: every part after a zero byte. -/
def digestInput (parts : List String) : Bytes :=
  parts.flatMap fun part => 0 :: Bytes.ofText part

def fingerprint (parts : List String) : String := Sha256.hexDigest (digestInput parts)

end CacheKey

/-- Keys that share their first characters; a new version of them hides every older entry. -/
structure KeySpace where
  root : String
  deriving DecidableEq, Repr

namespace KeySpace

def standard : KeySpace := ⟨"gplaces:v1:"⟩

def key (space : KeySpace) (operation : String) (parts : List String) : String :=
  space.root ++ operation ++ ":" ++ CacheKey.fingerprint parts

def keyOf (space : KeySpace) (operation : String) (params : RequestParams) : String :=
  space.key operation params.parts

end KeySpace

end PlaceGateway
