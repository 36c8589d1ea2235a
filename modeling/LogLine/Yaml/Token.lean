-- SUMMARY: The tokens of a YAML text, and reading the text of a single one.
import LogLine.Text.Utf8
import LogLine.Yaml.Cursor

/-!
# Tokens

The tokens of a YAML text are its indicators, its properties and its scalars,
together with the starts and ends of block collections, which the text shows
only by its indentation. This file reads the tokens that have a text of their
own; each reader gives the token and the place after it, or nothing where the
text is malformed.
-/

namespace LogLine.Yaml

/-- A tag, by its bytes. Escapes may stand for any bytes, so a tag need not be a text. -/
abbrev Tag := List UInt8

/-- How a scalar is written. -/
inductive ScalarStyle where
  | plain | singleQuoted | doubleQuoted | literal | folded
deriving DecidableEq, Repr

/-- A token of a YAML text. -/
inductive Token where
  | version (major minor : Nat)
  | tagHandle (handle : Text) (lead : Tag)
  | documentStart
  | documentEnd
  | blockSequenceStart
  | blockMappingStart
  | blockEnd
  | flowSequenceStart
  | flowSequenceEnd
  | flowMappingStart
  | flowMappingEnd
  | blockEntry
  | flowEntry
  | key
  | value
  | alias (name : Text)
  | anchor (name : Text)
  | tag (handle : Text) (suffix : Tag)
  | scalar (value : Text) (style : ScalarStyle)
deriving DecidableEq, Repr

namespace Token

/-! ## Anchors and tags -/

/-- Reads the name after the indicator of an anchor or an alias. -/
def anchorName? (c : Cursor) : Option (Text × Cursor) :=
  let name := c.rest.takeWhile isWord
  let after := c.skip name.length
  let ends := after.endsAt 0 || after.peek.any ("?:,]\x7d%@\x60".toList.contains ·)
  if name = [] ∨ ¬ ends then none else some (name, after)

/-- Whether a character may be part of a tag. Inside angle brackets, commas and square brackets
    may too. -/
def isUriChar (verbatim : Bool) (x : Char) : Bool :=
  isWord x || ";/?:@&=+$.%!~*'()".toList.contains x || (verbatim && ",[]".toList.contains x)

/-- The bytes that a first byte calls for after it, or `none` for a byte that cannot be first. -/
def followers? (byte : Nat) : Option Nat :=
  if byte < 128 then some 0
  else if byte / 32 = 6 then some 1
  else if byte / 16 = 14 then some 2
  else if byte / 8 = 30 then some 3
  else none

/-- Reads the characters of a tag as bytes, when a number of bytes is still called for. An escape is
    a percent sign with two hexadecimal digits. The bytes that follow a first one are escapes
    too; beyond their number nothing is asked of them, so that they need not make up a text. -/
def uriBytes? : (due : Nat) → Text → Option (List UInt8)
  | 0, [] => some []
  | _ + 1, [] => none
  | due, '%' :: a :: b :: rest => do
    let byte := 16 * (← Text.digitValue? a) + (← Text.digitValue? b)
    let due ←
      match due with
      | 0 => followers? byte
      | due + 1 => if byte / 64 = 2 then some due else none
    return UInt8.ofNat byte :: (← uriBytes? due rest)
  | 0, x :: rest => if x = '%' then none else (uriBytes? 0 rest).map (Text.utf8 [x] ++ ·)
  | _ + 1, _ :: _ => none

/-- Reads the characters of a tag and gives the place after them. A tag ends before its first zero
    byte. -/
def uri? (verbatim : Bool) (c : Cursor) : Option (Tag × Cursor) :=
  let written := c.rest.takeWhile (isUriChar verbatim)
  (uriBytes? 0 written).map fun bytes => (bytes.takeWhile (· ≠ 0), c.skip written.length)

/-- Reads the characters of a tag, of which there has to be one. -/
def someUri? (verbatim : Bool) (c : Cursor) : Option (Tag × Cursor) :=
  if c.peek.any (isUriChar verbatim) then uri? verbatim c else none

/-- Reads a handle: an exclamation mark, and perhaps a word with another one. The word without
    the second mark is given as it stands. -/
def handle? (c : Cursor) : Option (Text × Cursor) :=
  if c.isAt '!' then
    let word := (c.rest.drop 1).takeWhile isWord
    let after := c.skip (1 + word.length)
    if after.isAt '!' then some ('!' :: word ++ ['!'], after.next) else some ('!' :: word, after)
  else none

/-- Whether a handle is one with a word, or the double mark. -/
def isFullHandle (handle : Text) : Bool := 1 < handle.length && handle.getLast? == some '!'

/-- Reads a tag, which a blank has to follow, or a comma inside a flow collection. -/
def tag? (inFlow : Bool) (c : Cursor) : Option (Token × Cursor) := do
  let (handle, suffix, after) ←
    if c.peekAt 1 = some '<' then do
      let (suffix, after) ← someUri? true (c.skip 2)
      if after.isAt '>' then some ([], suffix, after.next) else none
    else do
      let (handle, after) ← handle? c
      if isFullHandle handle then
        let (suffix, after) ← someUri? false after
        some (handle, suffix, after)
      else
        let (more, after) ← uri? false after
        let suffix := Text.utf8 (handle.drop 1) ++ more
        some (if suffix = [] then ([], Text.utf8 ['!'], after) else (['!'], suffix, after))
  if (inFlow && after.isAt ',') || after.endsAt 0 then some (.tag handle suffix, after) else none

/-! ## Directives -/

/-- Reads a number of at most nine digits. -/
def versionNumber? (c : Cursor) : Option (Nat × Cursor) :=
  let digits := c.rest.takeWhile Char.isDigit
  if 9 < digits.length then none
  else (Text.number? 10 digits).map fun n => (n, c.skip digits.length)

/-- Reads a directive after its percent sign, up to the end of its line. -/
def directive? (c : Cursor) : Option (Token × Cursor) := do
  let name := c.rest.takeWhile isWord
  let after := c.skip name.length
  if name = [] ∨ ¬ after.endsAt 0 then none
  let after := after.skipWhile isBlank
  let (token, after) ←
    if name = "YAML".toList then do
      let (major, after) ← versionNumber? after
      if ¬ after.isAt '.' then none
      let (minor, after) ← versionNumber? after.next
      some (Token.version major minor, after)
    else if name = "TAG".toList then do
      let (handle, after) ← handle? after
      if handle ≠ ['!'] ∧ ¬ isFullHandle handle then none
      if ¬ after.peek.any isBlank then none
      let (lead, after) ← someUri? true (after.skipWhile isBlank)
      if ¬ after.endsAt 0 then none
      some (Token.tagHandle handle lead, after)
    else none
  let after := (after.skipWhile isBlank).skipComment
  if after.atLineEnd then some (token, after.next) else none

/-! ## Plain scalars -/

/-- Whether a plain scalar ends before the next character. -/
def endsPlain (inFlow : Bool) (c : Cursor) : Bool :=
  (c.isAt ':' && c.endsAt 1) || (inFlow && c.peek.any isFlowIndicator)

/-- Whether the next character is a colon that a flow collection cannot have here. -/
def strayColon (inFlow : Bool) (c : Cursor) : Bool :=
  inFlow && c.isAt ':' && (c.peekAt 1).any fun x => x == '?' || isFlowIndicator x

def plainWord? (inFlow : Bool) : Nat → Cursor → Option (Text × Cursor)
  | 0, c => some ([], c)
  | fuel + 1, c =>
    match c.peek with
    | none => some ([], c)
    | some x =>
      if isBlank x || isBreak x then some ([], c)
      else if strayColon inFlow c then none
      else if endsPlain inFlow c then some ([], c)
      else (plainWord? inFlow fuel c.next).map fun (t, after) => (x :: t, after)

/-- Reads a gap. In a plain scalar a tab must not stand in a new line's indentation. -/
def gap? (indent : Int) : Nat → Gap → Cursor → Option (Gap × Cursor)
  | 0, g, c => some (g, c)
  | fuel + 1, g, c =>
    match c.peek with
    | none => some (g, c)
    | some x =>
      if isBlank x || isBreak x then
        if g.first.isSome && x == '\t' && (c.column : Int) < indent then none
        else gap? indent fuel (g.add x) c.next
      else some (g, c)

/-- A plain scalar that was read: its text, the place after it and after the blanks that follow,
    and whether those contain a line break. -/
structure Plain where
  text : Text
  after : Cursor
  broken : Bool

/-- Reads a plain scalar whose lines are indented by at least the given column. -/
def plain? (inFlow : Bool) (indent : Int) : Nat → Text → Gap → Cursor → Option Plain
  | 0, text, gap, c => some ⟨text, c, gap.first.isSome⟩
  | fuel + 1, text, gap, c =>
    if c.atDocumentMarker || c.isAt '#' then some ⟨text, c, gap.first.isSome⟩
    else do
      let (word, after) ← plainWord? inFlow c.rest.length c
      let text := if word = [] then text else text ++ gap.fold ++ word
      let gap := if word = [] then gap else {}
      if ¬ after.peek.any fun x => isBlank x || isBreak x then
        return ⟨text, after, gap.first.isSome⟩
      let (gap, after) ← gap? indent after.rest.length gap after
      if ¬ inFlow && (after.column : Int) < indent then
        return ⟨text, after, gap.first.isSome⟩
      plain? inFlow indent fuel text gap after

/-! ## Quoted scalars -/

/-- The characters that a letter after a backslash stands for. -/
def escapes : List (Char × Char) :=
  [('0', '\x00'), ('a', '\x07'), ('b', '\x08'), ('t', '\t'), ('\t', '\t'), ('n', '\n'),
    ('v', '\x0b'), ('f', '\x0c'), ('r', '\r'), ('e', '\x1b'), (' ', ' '), ('"', '"'), ('/', '/'),
    ('\\', '\\'), ('N', '\u0085'), ('_', '\u00a0'), ('L', '\u2028'), ('P', '\u2029')]

/-- The number of digits after a letter that introduces a code point. -/
def codeLength? : Char → Option Nat
  | 'x' => some 2
  | 'u' => some 4
  | 'U' => some 8
  | _ => none

/-- The character that is written after a backslash, and the number of characters it takes. -/
def escape? : Text → Option (Char × Nat)
  | [] => none
  | x :: rest =>
    match escapes.lookup x with
    | some y => some (y, 1)
    | none => do
      let length ← codeLength? x
      let digits := rest.take length
      if digits.length < length then none
      let u ← Text.number? 16 digits
      if u.isValidChar then some (Char.ofNat u, length + 1) else none

/-- Reads a word of a quoted scalar, up to a blank or the closing quote. The result tells whether
    the word ends with an escaped line break. -/
def quotedWord? (single : Bool) : Nat → Cursor → Option (Text × Bool × Cursor)
  | 0, c => some ([], false, c)
  | fuel + 1, c =>
    match c.peek with
    | none => some ([], false, c)
    | some x =>
      if isBlank x || isBreak x then some ([], false, c)
      else if single && x == '\'' && c.peekAt 1 == some '\'' then
        (quotedWord? single fuel (c.skip 2)).map fun (t, r) => ('\'' :: t, r)
      else if x == (if single then '\'' else '"') then some ([], false, c)
      else if ¬ single && x == '\\' then
        if (c.peekAt 1).any isBreak then some ([], true, c.skip 2)
        else do
          let (y, length) ← escape? (c.rest.drop 1)
          let (t, r) ← quotedWord? single fuel (c.skip (1 + length))
          return (y :: t, r)
      else
        (quotedWord? single fuel c.next).map fun (t, r) => (x :: t, r)

/-- The gap after an escaped line break: only the line breaks that follow count. -/
def gapAfterEscape (g : Gap) : Text :=
  match g.first with
  | none => []
  | some x => x :: g.more

/-- Reads the rest of a quoted scalar after its opening quote. -/
def quoted? (single : Bool) : Nat → Text → Cursor → Option (Text × Cursor)
  | 0, _, _ => none
  | fuel + 1, text, c =>
    if c.atDocumentMarker || c.rest.isEmpty then none
    else do
      let (word, escapedBreak, after) ← quotedWord? single c.rest.length c
      let text := text ++ word
      if after.isAt (if single then '\'' else '"') then
        return (text, after.next)
      let (gap, after) ← gap? 0 after.rest.length {} after
      quoted? single fuel (text ++ if escapedBreak then gapAfterEscape gap else gap.fold) after

/-! ## Block scalars -/

/-- What becomes of the line breaks at the end of a block scalar. -/
inductive Chomping where
  | strip | clip | keep
deriving DecidableEq, Repr

def Chomping.ofChar? : Char → Option Chomping
  | '+' => some .keep
  | '-' => some .strip
  | _ => none

def indentation? (c : Cursor) : Option (Nat × Cursor) :=
  match c.peek with
  | some x =>
    if x.isDigit then
      if x = '0' then none else some (x.toNat - '0'.toNat, c.next)
    else some (0, c)
  | none => some (0, c)

def chomping (c : Cursor) : Option Chomping × Cursor :=
  match c.peek.bind Chomping.ofChar? with
  | some k => (some k, c.next)
  | none => (none, c)

/-- Reads the header of a block scalar up to the end of its line: the chomping and the
    indentation, zero if it is not given. -/
def blockHeader? (c : Cursor) : Option (Chomping × Nat × Cursor) := do
  let (first, after) := chomping c
  let (indentation, after) ← indentation? after
  let (second, after) :=
    if first.isNone && 0 < indentation then chomping after else (none, after)
  let after := (after.skipWhile isBlank).skipComment
  if after.atLineEnd then
    some ((first <|> second).getD .clip, indentation, after.next)
  else none

/-- Reads the indentation and the empty lines before a line of a block scalar: the line breaks,
    the greatest column seen, and the place of the line's text. With no indentation known yet,
    every space counts as indentation. -/
def blockBreaks? (indent : Nat) : Nat → Nat → Cursor → Option (Text × Nat × Cursor)
  | 0, widest, c => some ([], widest, c)
  | fuel + 1, widest, c =>
    let spaces := c.rest.takeWhile (· == ' ')
    let count := if indent = 0 then spaces.length else min spaces.length (indent - c.column)
    let c := c.skip count
    let widest := max widest c.column
    if (indent = 0 || c.column < indent) && c.isAt '\t' then none
    else
      match c.peek with
      | some x =>
        if isBreak x then
          (blockBreaks? indent fuel widest c.next).map fun (breaks, r) => (x :: breaks, r)
        else some ([], widest, c)
      | none => some ([], widest, c)

/-- Reads the lines of a block scalar with a known indentation. `lead` is the line break before
    the next line, `breaks` are the empty lines after it, and `blank` tells whether the last line
    began with a blank. -/
def blockLines? (literal : Bool) (indent : Nat) (chomp : Chomping) :
    Nat → (text lead breaks : Text) → (blank : Bool) → Cursor → Option (Text × Cursor)
  | 0, _, _, _, _, _ => none
  | fuel + 1, text, lead, breaks, blank, c =>
    if c.column = indent ∧ ¬ c.rest.isEmpty then do
      let startsBlank := c.peek.any isBlank
      let joint :=
        if ¬ literal && lead == ['\n'] && !blank && !startsBlank then
          if breaks = [] then [' '] else []
        else lead
      let line := c.rest.takeWhile (!isBreak ·)
      let after := c.skip line.length
      let lead := after.peek.toList
      let (breaks', _, next) ← blockBreaks? indent after.rest.length 0 after.next
      blockLines? literal indent chomp fuel (text ++ joint ++ breaks ++ line) lead breaks'
        startsBlank next
    else
      let text := if chomp = .strip then text else text ++ lead
      some (if chomp = .keep then text ++ breaks else text, c)

/-- Reads a block scalar after its indicator, inside a collection with the given indentation. -/
def block? (literal : Bool) (parent : Int) (c : Cursor) : Option (Text × Cursor) := do
  let (chomp, given, c) ← blockHeader? c
  let given := if given = 0 then 0 else (max parent 0).toNat + given
  let (breaks, widest, c) ← blockBreaks? given (c.rest.length + 1) 0 c
  let indent := if given = 0 then max widest (max (parent + 1) 1).toNat else given
  blockLines? literal indent chomp (c.rest.length + 1) [] [] breaks false c

end Token

end LogLine.Yaml
