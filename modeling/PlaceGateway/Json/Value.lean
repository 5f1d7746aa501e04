import PlaceGateway.Decimal
import PlaceGateway.Bytes
/-! JSON documents as the gateway writes them: compact, members in the given order. -/

namespace PlaceGateway

inductive Json where
  | null
  | flag (value : Bool)
  | integer (value : Int)
  | real (value : Binary64)
  | text (value : String)
  | list (items : List Json)
  | record (members : List (String × Json))
  deriving Repr

namespace Json

def escapeChar (c : Char) : List Char :=
  if c = '"' then ['\\', '"']
  else if c = '\\' then ['\\', '\\']
  else if c = '\x08' then ['\\', 'b']
  else if c = '\x0c' then ['\\', 'f']
  else if c = '\n' then ['\\', 'n']
  else if c = '\x0d' then ['\\', 'r']
  else if c = '\t' then ['\\', 't']
  else if c.toNat < 32 then
    ['\\', 'u', '0', '0', Bytes.hexDigit (c.toNat / 16), Bytes.hexDigit (c.toNat % 16)]
  else [c]

def quote (text : String) : List Char := '"' :: text.toList.flatMap escapeChar ++ ['"']

mutual

def chars : Json → List Char
  | null => ['n', 'u', 'l', 'l']
  | flag true => ['t', 'r', 'u', 'e']
  | flag false => ['f', 'a', 'l', 's', 'e']
  | integer i => (toString i).toList
  | real x => if x.isFinite then (Decimal.jsonText x).toList else ['n', 'u', 'l', 'l']
  | text s => quote s
  | list [] => ['[', ']']
  | list (item :: rest) => '[' :: item.chars ++ tailChars rest
  | record [] => ['\x7b', '\x7d']
  | record (m :: rest) => '\x7b' :: quote m.1 ++ ':' :: m.2.chars ++ memberTailChars rest

def tailChars : List Json → List Char
  | [] => [']']
  | item :: rest => ',' :: item.chars ++ tailChars rest

def memberTailChars : List (String × Json) → List Char
  | [] => ['\x7d']
  | m :: rest => ',' :: quote m.1 ++ ':' :: m.2.chars ++ memberTailChars rest

end

def render (j : Json) : String := String.ofList j.chars

def member : Json → String → Json
  | record members, name => (members.lookup name).getD null
  | _, _ => null

end Json

end PlaceGateway
