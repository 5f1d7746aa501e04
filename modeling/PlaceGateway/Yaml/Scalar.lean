import PlaceGateway.Text.Characters
/-! Scalars of YAML documents: plain, quoted, and block text. -/

namespace PlaceGateway.Yaml

def isSpace (c : Char) : Bool := c == ' ' || c == '\t'

def endsWord : List Char → Bool
  | [] => true
  | c :: _ => isSpace c || c == '\n'

def isFlowMark (c : Char) : Bool := ",[]\x7b\x7d".toList.contains c

def startsMarker : List Char → Bool
  | '-' :: '-' :: '-' :: rest => endsWord rest
  | '.' :: '.' :: '.' :: rest => endsWord rest
  | _ => false

structure Cursor where
  chars : List Char
  column : Nat
  fresh : Bool
  deriving Repr

namespace Cursor

def isAtEnd (c : Cursor) : Bool := c.chars = [] || (c.column = 0 && startsMarker c.chars)

def advance (c : Cursor) (count : Nat) : Cursor :=
  ⟨c.chars.drop count, c.column + count, false⟩

def after (rest : List Char) : Cursor := ⟨rest, 1, false⟩

def settleFrom (flow : Bool) : Bool → Nat → Bool → List Char → Cursor
  | _, column, fresh, [] => ⟨[], column, fresh⟩
  | comment, column, fresh, c :: rest =>
    if c = '\n' then settleFrom flow false 0 true rest
    else if comment then settleFrom flow true (column + 1) fresh rest
    else if c = '#' then settleFrom flow true (column + 1) fresh rest
    else if c = ' ' ∨ (c = '\t' ∧ (flow ∨ ¬fresh)) then settleFrom flow false (column + 1) fresh rest
    else ⟨c :: rest, column, fresh⟩

/-- Skips blanks, comments and line breaks. A tab is no indentation. -/
def settle (c : Cursor) : Cursor := settleFrom false false c.column c.fresh c.chars

def settleFlow (c : Cursor) : Cursor := settleFrom true false c.column c.fresh c.chars

end Cursor

def folded (breaks : Nat) : List Char := if breaks = 1 then [' '] else List.replicate (breaks - 1) '\n'

def startsPlain (flow : Bool) : List Char → Bool
  | [] => false
  | '-' :: rest => !endsWord rest
  | '?' :: rest | ':' :: rest => !flow && !endsWord rest
  | c :: _ => !(isSpace c || c == '\n' || (",[]\x7b\x7d#&*!|>'\"%@\x60".toList.contains c))

def plainRun (flow : Bool) : Char → List Char → List Char
  | _, [] => []
  | before, c :: rest =>
    if c = '\n' ∨ (c = '#' ∧ isSpace before) ∨ (c = ':' ∧ endsWord rest) ∨ (flow ∧ isFlowMark c) then []
    else c :: plainRun flow c rest

def plainLine (flow : Bool) (cs : List Char) : List Char × List Char :=
  let text := Text.dropEnd isSpace (plainRun flow '.' cs)
  (text, cs.drop text.length)

def nextText (least : Nat) : Nat → Nat → List Char → Nat × Nat × List Char
  | breaks, column, [] => (breaks, column, [])
  | breaks, column, c :: rest =>
    if c = '\n' then nextText least (breaks + 1) 0 rest
    else if c = ' ' ∨ (c = '\t' ∧ (breaks = 0 ∨ least ≤ column)) then nextText least breaks (column + 1) rest
    else (breaks, column, c :: rest)

/-- Further lines of plain text; in a block they are indented to the least column. -/
def plainTail (flow : Bool) (least : Nat) : Nat → List Char → List Char × List Char
  | 0, cs => ([], cs)
  | fuel + 1, cs =>
    match nextText least 0 0 cs with
    | (breaks, column, rest) =>
      let (text, after) := plainLine flow rest
      if breaks = 0 ∨ text = [] ∨ rest.head? = some '#' ∨ rest.head? = some '\t' ∨ (¬flow ∧ column < least) ∨
          (column = 0 ∧ startsMarker rest) then ([], cs)
      else
        let (more, after) := plainTail flow least fuel after
        (folded breaks ++ text ++ more, after)

def plainText (flow : Bool) (least : Nat) (cs : List Char) : List Char × List Char :=
  let (text, rest) := plainLine flow cs
  let (more, rest) := plainTail flow least cs.length rest
  (text ++ more, rest)

/-- Blanks or line breaks of quoted text that are not yet known to be within a line. -/
inductive Gap where
  | blanks (reversed : List Char)
  | lines (blank : Nat)
  | joined (blank : Nat)
  deriving Repr

namespace Gap

def text : Gap → List Char
  | blanks reversed => reversed.reverse
  | lines 0 => [' ']
  | lines n | joined n => List.replicate n '\n'

def space (c : Char) : Gap → Gap
  | blanks reversed => blanks (c :: reversed)
  | gap => gap

def lineBreak : Gap → Gap
  | blanks _ => lines 0
  | lines n => lines (n + 1)
  | joined n => joined (n + 1)

end Gap

def escape? (c : Char) : Option Char :=
  [('0', '\x00'), ('a', '\x07'), ('b', '\x08'), ('t', '\t'), ('\t', '\t'), ('n', '\n'), ('v', '\x0b'),
    ('f', '\x0c'), ('r', '\x0d'), ('e', '\x1b'), (' ', ' '), ('"', '"'), ('/', '/'), ('\\', '\\'),
    ('N', '\u0085'), ('_', '\u00a0'), ('L', '\u2028'), ('P', '\u2029')].lookup c

def escapeDigits? (c : Char) : Option Nat := [('x', 2), ('u', 4), ('U', 8)].lookup c

def hexDigit? (c : Char) : Option Nat :=
  if c.isDigit then some (c.toNat - 48)
  else if 'a' ≤ c ∧ c ≤ 'f' then some (c.toNat - 87)
  else if 'A' ≤ c ∧ c ≤ 'F' then some (c.toNat - 55)
  else none

def codePoint? (count : Nat) (cs : List Char) : Option Char := do
  let digits ← (cs.take count).mapM hexDigit?
  let n := digits.foldl (fun n d => n * 16 + d) 0
  if digits.length = count ∧ n.isValidChar then some (Char.ofNat n) else none

def quotedText (double : Bool) : Nat → Gap → List Char → List Char → Option (List Char × List Char)
  | 0, _, _, _ => none
  | _ + 1, _, _, [] => none
  | fuel + 1, gap, done, c :: rest =>
    let text := done ++ gap.text
    if c = '\n' then
      if startsMarker rest then none else quotedText double fuel gap.lineBreak done rest
    else if isSpace c then quotedText double fuel (gap.space c) done rest
    else if ¬double ∧ c = '\'' then
      match rest with
      | '\'' :: rest => quotedText double fuel (.blanks []) (text ++ ['\'']) rest
      | rest => some (text, rest)
    else if double ∧ c = '"' then some (text, rest)
    else if double ∧ c = '\\' then
      match rest with
      | [] => none
      | '\n' :: rest => quotedText double fuel (.joined 0) text rest
      | e :: rest =>
        match escape? e, escapeDigits? e with
        | some c, _ => quotedText double fuel (.blanks []) (text ++ [c]) rest
        | none, some count => do
          quotedText double fuel (.blanks []) (text ++ [← codePoint? count rest]) (rest.drop count)
        | none, none => none
    else quotedText double fuel (.blanks []) (text ++ [c]) rest

def quoted? : List Char → Option (List Char × List Char)
  | '\'' :: rest => quotedText false (rest.length + 1) (.blanks []) [] rest
  | '"' :: rest => quotedText true (rest.length + 1) (.blanks []) [] rest
  | _ => none

inductive Chomp where
  | strip
  | clip
  | keep
  deriving DecidableEq, Repr

structure BlockHeader where
  folded : Bool
  chomp : Chomp
  indent : Option Nat
  deriving Repr

def chomp? : Char → Option Chomp
  | '-' => some .strip
  | '+' => some .keep
  | _ => none

def indent? (c : Char) : Option Nat :=
  if c.isDigit ∧ c ≠ '0' then some (c.toNat - 48) else none

def blockHeader? : List Char → Option BlockHeader
  | style :: rest =>
    let folded := style == '>'
    match rest with
    | [] => some ⟨folded, .clip, none⟩
    | [a] =>
      match chomp? a, indent? a with
      | some chomp, _ => some ⟨folded, chomp, none⟩
      | none, some n => some ⟨folded, .clip, some n⟩
      | none, none => none
    | [a, b] =>
      match chomp? a, indent? a, chomp? b, indent? b with
      | some chomp, _, _, some n | none, some n, some chomp, _ => some ⟨folded, chomp, some n⟩
      | _, _, _, _ => none
    | _ => none
  | [] => none

def indentation (line : List Char) : Nat := (line.takeWhile (· == ' ')).length

def isBlankLine (line : List Char) : Bool := line.all (· == ' ')

/-- The indentation of the first line with text, or of a longer blank line before it. -/
def detectIndent : List (List Char) → Nat
  | [] => 0
  | line :: rest =>
    if isBlankLine line then max line.length (detectIndent rest) else indentation line

def blockBreaks (fold : Bool) (before after : List Char) (blank : Nat) : List Char :=
  let indented (line : List Char) := line.head?.any isSpace
  if fold ∧ ¬indented before ∧ ¬indented after then folded (blank + 1)
  else List.replicate (blank + 1) '\n'

def blockLines (fold : Bool) : List Char → Nat → List (List Char) → List Char × Nat
  | _, blank, [] => ([], blank)
  | before, blank, line :: rest =>
    if line = [] then blockLines fold before (blank + 1) rest
    else
      let (more, ending) := blockLines fold line 0 rest
      (blockBreaks fold before line blank ++ line ++ more, ending)

/-- Block text of lines without their indentation, all of which end with a line break. -/
def blockText (header : BlockHeader) (lines : List (List Char)) : List Char :=
  let blank := (lines.takeWhile (· = [])).length
  let ending (n : Nat) : List Char := List.replicate n '\n'
  match lines.drop blank with
  | [] => if header.chomp = .keep then ending blank else []
  | first :: rest =>
    let (more, blankAtEnd) := blockLines header.folded first 0 rest
    let text := ending blank ++ first ++ more
    match header.chomp with
    | .strip => text
    | .clip => text ++ ['\n']
    | .keep => text ++ ending (blankAtEnd + 1)

def blockText? (least : Nat) (cs : List Char) : Option (List Char × Cursor) := do
  let mark := cs.takeWhile fun c => !(isSpace c || c == '\n')
  let header ← blockHeader? mark
  let line := (cs.drop mark.length).takeWhile (· != '\n')
  let comment := line.dropWhile isSpace
  if comment ≠ [] ∧ comment.head? ≠ some '#' then none
  let body := (cs.drop (mark.length + line.length)).drop 1
  let lines := body.splitOnP (· == '\n')
  let indent := match header.indent with
    | some n => (least - 1) + n
    | none => max (max least 1) (detectIndent lines)
  let within := lines.takeWhile fun line => isBlankLine line || indent ≤ indentation line
  let rest := lines.drop within.length
  let ended := if rest = [] ∧ within.getLast? = some [] then within.dropLast else within
  return (blockText header (ended.map (·.drop indent)), ⟨['\n'].intercalate rest, 0, true⟩)

end PlaceGateway.Yaml
