import PlaceGateway.Yaml.Scalar
/-! YAML documents: block and flow collections, scalars, anchors and their aliases. -/

namespace PlaceGateway.Yaml

inductive Node where
  | scalar (plain : Bool) (text : String)
  | sequence (items : List Node)
  | mapping (entries : List (Node × Node))
  | tagged (tag : String) (node : Node)
  deriving Repr

abbrev Anchors := List (String × Node)

/-- What was read, the anchors known after it, and where the reader stands then. -/
abbrev Reading (α : Type) := α × Anchors × Cursor

namespace Node

def missing : Node := scalar true ""

def ofText (plain : Bool) (text : List Char) : Node := scalar plain (String.ofList text)

def bare : Node → Node
  | tagged _ node => node.bare
  | node => node

end Node

def isAnchorChar (c : Char) : Bool := c.isAlphanum || c == '_' || c == '-'

def anchorName? (cs : List Char) : Option (String × List Char) :=
  let name := (cs.drop 1).takeWhile isAnchorChar
  let rest := cs.drop (name.length + 1)
  if name ≠ [] ∧ (endsWord rest ∨ rest.head?.any fun c => "?:,]\x7d%@\x60".toList.contains c) then
    some (String.ofList name, rest)
  else none

def isTagChar (c : Char) : Bool := c.isAlphanum || "-_;/?:@&=+$.!~*'()%".toList.contains c

def tag? (flow : Bool) (cs : List Char) : Option (String × List Char) := do
  let (name, rest) ← match cs.drop 1 with
    | '<' :: rest =>
      let name := rest.takeWhile (· != '>')
      if rest.length = name.length then none else some (String.ofList name, rest.drop (name.length + 1))
    | '!' :: rest =>
      let name := rest.takeWhile isTagChar
      if name = [] then none
      else some ("tag:yaml.org,2002:" ++ String.ofList name, rest.drop name.length)
    | rest =>
      let name := rest.takeWhile isTagChar
      if (rest.dropWhile isAnchorChar).head? = some '!' then none
      else some (String.ofList ('!' :: name), rest.drop name.length)
  if endsWord rest ∨ (flow ∧ rest.head? = some ',') then some (name, rest) else none

def key? (c : Cursor) : Option (Node × Cursor) :=
  let finish (node : Node) (rest : List Char) : Option (Node × Cursor) :=
    match rest.dropWhile isSpace with
    | ':' :: value => if endsWord value then some (node, .after value) else none
    | _ => none
  match quoted? c.chars with
  | some (text, rest) =>
    if (c.chars.take (c.chars.length - rest.length)).contains '\n' then none
    else finish (.ofText false text) rest
  | none =>
    if endsWord (c.chars.drop 1) ∧ c.chars.head? = some ':' then some (.missing, .after (c.chars.drop 1))
    else if startsPlain false c.chars then
      let (text, rest) := plainLine false c.chars
      finish (.ofText true text) rest
    else none

/-- A key on one line with its anchors and tags, or an alias for a key. -/
def fullKey? : Nat → Anchors → Cursor → Option (Reading Node)
  | 0, _, _ => none
  | fuel + 1, anchors, c =>
    match c.chars with
    | '&' :: _ => do
      let (name, rest) ← anchorName? c.chars
      let (node, anchors, c) ← fullKey? fuel anchors (.after (rest.dropWhile isSpace))
      return (node, (name, node) :: anchors, c)
    | '!' :: _ => do
      let (name, rest) ← tag? false c.chars
      let (node, anchors, c) ← fullKey? fuel anchors (.after (rest.dropWhile isSpace))
      return (.tagged name node, anchors, c)
    | '*' :: _ => do
      let (name, rest) ← anchorName? c.chars
      let node ← anchors.lookup name
      match rest.dropWhile isSpace with
      | ':' :: value => if endsWord value then some (node, anchors, .after value) else none
      | _ => none
    | _ => do
      let (node, c) ← key? c
      return (node, anchors, c)

/-- Between brackets, no colon of plain text stands before a mark. -/
def hasLooseColon (cs : List Char) : Bool :=
  (cs.zip (cs.drop 1)).any fun (a, b) => a == ':' && (b == '?' || isFlowMark b)

mutual

def flowNode : Nat → Anchors → Cursor → Option (Reading Node)
  | 0, _, _ => none
  | fuel + 1, anchors, c =>
    match c.chars with
    | '[' :: rest => do
      let (items, anchors, c) ← flowItems fuel anchors (Cursor.after rest).settleFlow
      return (.sequence items, anchors, c)
    | '\x7b' :: rest => do
      let (entries, anchors, c) ← flowEntries fuel anchors (Cursor.after rest).settleFlow
      return (.mapping entries, anchors, c)
    | '*' :: _ => do
      let (name, rest) ← anchorName? c.chars
      return (← anchors.lookup name, anchors, .after rest)
    | '&' :: _ => do
      let (name, rest) ← anchorName? c.chars
      let (node, anchors, c) ← flowNode fuel anchors (Cursor.after rest).settleFlow
      return (node, (name, node) :: anchors, c)
    | '!' :: _ => do
      let (name, rest) ← tag? true c.chars
      let c := (Cursor.after rest).settleFlow
      if c.chars.head?.any (",]\x7d".toList.contains ·) then
        return (.tagged name .missing, anchors, c)
      else
        let (node, anchors, c) ← flowNode fuel anchors c
        return (.tagged name node, anchors, c)
    | _ =>
      if c.isAtEnd then none
      else match quoted? c.chars with
        | some (text, rest) => some (.ofText false text, anchors, .after rest)
        | none =>
          if startsPlain true c.chars then
            let (text, rest) := plainText true 0 c.chars
            if hasLooseColon (c.chars.take (c.chars.length - rest.length + 1)) then none
            else some (.ofText true text, anchors, .after rest)
          else none

/-- A node and, after a colon, the value that it is the key of. After a question mark it is a key in any
case. -/
def flowPair : Nat → Anchors → Cursor → Option (Reading (Node × Option Node))
  | 0, _, _ => none
  | fuel + 1, anchors, c => do
    let isKey := c.chars.head? = some '?'
    let c := if isKey then (c.advance 1).settleFlow else c
    let (key, anchors, c) ←
      if c.chars.head? = some ':' ∨ (isKey ∧ c.chars.head?.any (",]\x7d".toList.contains ·)) then
        some (Node.missing, anchors, c)
      else flowNode fuel anchors c
    let c := c.settleFlow
    if c.chars.head? = some ':' then
      let c := (c.advance 1).settleFlow
      if c.chars.head?.any (",]\x7d".toList.contains ·) then
        return ((key, some .missing), anchors, c)
      else
        let (value, anchors, c) ← flowNode fuel anchors c
        return ((key, some value), anchors, c.settleFlow)
    else return ((key, if isKey then some .missing else none), anchors, c)

def flowItems : Nat → Anchors → Cursor → Option (Reading (List Node))
  | 0, _, _ => none
  | fuel + 1, anchors, c =>
    if c.chars.head? = some ']' then some ([], anchors, c.advance 1)
    else do
      let ((key, value), anchors, c) ← flowPair fuel anchors c
      let item := match value with
        | none => key
        | some value => .mapping [(key, value)]
      match c.chars with
      | ',' :: _ =>
        let (items, anchors, c) ← flowItems fuel anchors (c.advance 1).settleFlow
        return (item :: items, anchors, c)
      | ']' :: _ => return ([item], anchors, c.advance 1)
      | _ => none

def flowEntries : Nat → Anchors → Cursor → Option (Reading (List (Node × Node)))
  | 0, _, _ => none
  | fuel + 1, anchors, c =>
    if c.chars.head? = some '\x7d' then some ([], anchors, c.advance 1)
    else do
      let ((key, value), anchors, c) ← flowPair fuel anchors c
      let entry := (key, value.getD .missing)
      match c.chars with
      | ',' :: _ =>
        let (entries, anchors, c) ← flowEntries fuel anchors (c.advance 1).settleFlow
        return (entry :: entries, anchors, c)
      | '\x7d' :: _ => return ([entry], anchors, c.advance 1)
      | _ => none

end

def startsWith (mark : Char) : List Char → Bool
  | c :: rest => c == mark && endsWord rest
  | [] => false

def startsItem (cs : List Char) : Bool := startsWith '-' cs

mutual

def blockNode : Nat → Nat → Anchors → Cursor → Option (Reading Node)
  | 0, _, _, _ => none
  | fuel + 1, least, anchors, c =>
    if c.isAtEnd then none
    else if startsItem c.chars then
      if c.fresh then do
        let (items, anchors, c) ← blockItems fuel c.column anchors c
        return (.sequence items, anchors, c)
      else none
    else if c.fresh ∧ (startsWith '?' c.chars ∨ (fullKey? fuel anchors c).isSome) then do
      let (entries, anchors, c) ← blockEntries fuel c.column anchors c
      return (.mapping entries, anchors, c)
    else match c.chars with
      | '[' :: _ | '\x7b' :: _ => flowNode (2 * c.chars.length + 2) anchors c
      | '|' :: _ | '>' :: _ => do
        let (text, c) ← blockText? least c.chars
        return (.ofText false text, anchors, c)
      | '*' :: _ => do
        let (name, rest) ← anchorName? c.chars
        return (← anchors.lookup name, anchors, .after rest)
      | '&' :: _ => do
        let (name, rest) ← anchorName? c.chars
        let (node, anchors, c) ← blockValue fuel least false anchors (.after rest)
        return (node, (name, node) :: anchors, c)
      | '!' :: _ => do
        let (name, rest) ← tag? false c.chars
        let (node, anchors, c) ← blockValue fuel least false anchors (.after rest)
        return (.tagged name node, anchors, c)
      | _ =>
        match quoted? c.chars with
        | some (text, rest) => some (.ofText false text, anchors, .after rest)
        | none =>
          if startsPlain false c.chars then
            let (text, rest) := plainText false least c.chars
            some (.ofText true text, anchors, .after rest)
          else none

/-- What stands after a colon or a dash, from the least column on. The items of a sequence may stand one
column before it in a mapping. -/
def blockValue : Nat → Nat → Bool → Anchors → Cursor → Option (Reading Node)
  | 0, _, _, _, _ => none
  | fuel + 1, least, inMapping, anchors, c =>
    let c := c.settle
    if c.isAtEnd then some (.missing, anchors, c)
    else if ¬c.fresh ∨ least ≤ c.column then blockNode fuel least anchors c
    else if inMapping ∧ c.column + 1 = least ∧ startsItem c.chars then
      blockNode fuel c.column anchors c
    else some (.missing, anchors, c)

def blockItems : Nat → Nat → Anchors → Cursor → Option (Reading (List Node))
  | 0, _, _, _ => none
  | fuel + 1, column, anchors, c => do
    let inside := { c.advance 1 with fresh := true }
    let (item, anchors, c) ← blockValue fuel (column + 1) false anchors inside
    let c := c.settle
    if c.isAtEnd ∨ (c.fresh ∧ c.column < column) ∨
        (c.fresh ∧ c.column = column ∧ ¬startsItem c.chars) then
      return ([item], anchors, c)
    else if c.fresh ∧ c.column = column then
      let (items, anchors, c) ← blockItems fuel column anchors c
      return (item :: items, anchors, c)
    else none

/-- A key and its value. After a question mark the key may be any node, and its value stands after a
colon below it. -/
def blockEntry : Nat → Nat → Anchors → Cursor → Option (Reading (Node × Node))
  | 0, _, _, _ => none
  | fuel + 1, column, anchors, c =>
    if startsWith '?' c.chars then do
      let (key, anchors, c) ← blockValue fuel (column + 1) true anchors { c.advance 1 with fresh := true }
      let c := c.settle
      if c.fresh ∧ c.column = column ∧ startsWith ':' c.chars then
        let inside := { c.advance 1 with fresh := true }
        let (value, anchors, c) ← blockValue fuel (column + 1) true anchors inside
        return ((key, value), anchors, c)
      else return ((key, .missing), anchors, c)
    else do
      let (key, anchors, c) ← fullKey? fuel anchors c
      let (value, anchors, c) ← blockValue fuel (column + 1) true anchors c
      return ((key, value), anchors, c)

def blockEntries : Nat → Nat → Anchors → Cursor → Option (Reading (List (Node × Node)))
  | 0, _, _, _ => none
  | fuel + 1, column, anchors, c => do
    let (entry, anchors, c) ← blockEntry fuel column anchors c
    let c := c.settle
    if c.isAtEnd ∨ (c.fresh ∧ c.column < column) then return ([entry], anchors, c)
    else if c.fresh ∧ c.column = column then
      let (entries, anchors, c) ← blockEntries fuel column anchors c
      return (entry :: entries, anchors, c)
    else none

end

def isPrintable (c : Char) : Bool :=
  let n := c.toNat
  n == 9 || n == 10 || n == 13 || n == 0x85 || (0x20 ≤ n && n ≤ 0x7E) || (0xA0 ≤ n && n != 0xFEFF &&
    n != 0xFFFE && n != 0xFFFF)

def lines : List Char → List Char
  | '\x0d' :: '\n' :: rest => '\n' :: lines rest
  | c :: rest => (if c = '\x0d' ∨ c = '\u0085' then '\n' else c) :: lines rest
  | [] => []

def isDirective (line : List Char) : Bool :=
  match ((line.splitOnP isSpace).filter (· ≠ [])).takeWhile (·.head? ≠ some '#') with
  | [name, version] => name = "%YAML".toList && ["1.1".toList, "1.2".toList].contains version
  | [name, handle, _] => name = "%TAG".toList && handle.head? = some '!' && handle.getLast? = some '!'
  | _ => false

def directives? : Nat → Bool → List Char → Option (Bool × Cursor)
  | 0, _, _ => none
  | fuel + 1, found, cs =>
    let c := (Cursor.mk cs 0 true).settle
    if c.column = 0 ∧ c.chars.head? = some '%' then
      let line := c.chars.takeWhile (· != '\n')
      if isDirective line then directives? fuel true (c.chars.drop line.length) else none
    else some (found, c)

def endsDocument : Nat → Cursor → Bool
  | 0, c => c.chars = []
  | fuel + 1, c =>
    let c := c.settle
    match c.chars with
    | [] => true
    | '.' :: '.' :: '.' :: rest => c.column = 0 && endsWord rest && endsDocument fuel (.after rest)
    | _ => false

/-- The node of the only document; an empty document has none. A document whose beginning is not marked
has no directives, and its end is marked only after a node. -/
def document? (text : String) : Option (Option Node) := do
  let cs := lines (if text.toList.head? = some '\uFEFF' then text.toList.drop 1 else text.toList)
  if !cs.all isPrintable then none
  let (directed, start) ← directives? (cs.length + 1) false cs
  let marked := start.column = 0 ∧ start.chars.take 3 = ['-', '-', '-'] ∧ start.isAtEnd
  if ¬marked ∧ (directed ∨ (start.chars ≠ [] ∧ start.isAtEnd)) then none
  let c := if marked then (start.advance 3).settle else start
  if c.isAtEnd then if endsDocument cs.length c then return none else none
  let (node, _, c) ← blockNode (4 * cs.length + 4) 0 [] c
  if endsDocument cs.length c then return some node else none

end PlaceGateway.Yaml
