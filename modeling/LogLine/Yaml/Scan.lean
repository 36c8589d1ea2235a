-- SUMMARY: Splitting a YAML text into its tokens.
import LogLine.Yaml.Token

/-!
# Scanning

The scanner goes through a YAML text and lists its tokens. Indentation becomes
tokens of its own. A key without an indicator is recognised only by the colon
after it, so the scanner remembers where such a key may have begun, one place
for every open flow collection, and puts the key's token there afterwards. Such
a key has to end on its own line within 1024 bytes.
-/

namespace LogLine.Yaml

/-- A place where a key without an indicator may have begun. -/
structure PossibleKey where
  /-- The number of tokens before it. -/
  position : Nat
  line : Nat
  index : Nat
  column : Nat
  /-- Whether nothing but a key can stand there. -/
  required : Bool
deriving Repr

/-- A scanner in the middle of a text. -/
structure Scanner where
  cursor : Cursor
  tokens : Array Token := #[]
  /-- The column of the innermost block collection, below zero outside all of them. -/
  indent : Int := -1
  /-- The columns of the collections around it. -/
  outer : List Int := []
  /-- The place of a possible key at every flow level, the innermost first. -/
  keys : List (Option PossibleKey) := [none]
  /-- Whether a key may begin here. -/
  keyAllowed : Bool := true

namespace Scanner

/-- Whether the scanner is inside a flow collection. -/
def inFlow (s : Scanner) : Bool := 1 < s.keys.length

def emit (s : Scanner) (t : Token) : Scanner := { s with tokens := s.tokens.push t }

def moveTo (s : Scanner) (c : Cursor) : Scanner := { s with cursor := c }

/-- Says whether a key may begin here. -/
def allowKey (s : Scanner) (b : Bool) : Scanner := { s with keyAllowed := b }

/-! ## Indentation -/

/-- Begins a block collection if the column is to the right of the innermost one. Its token goes
    to the given position. -/
def openBlock (s : Scanner) (column position : Nat) (t : Token) : Scanner :=
  if ¬ s.inFlow ∧ s.indent < column then
    { s with
      indent := column
      outer := s.indent :: s.outer
      tokens := s.tokens.insertIdxIfInBounds position t }
  else s

/-- Ends every block collection of the list that is to the right of a column. -/
def closeAll (column : Int) : Array Token → Int → List Int → Array Token × Int × List Int
  | tokens, indent, [] => (tokens, indent, [])
  | tokens, indent, outer :: rest =>
    if column < indent then closeAll column (tokens.push .blockEnd) outer rest
    else (tokens, indent, outer :: rest)

/-- Ends every block collection to the right of a column. -/
def closeBlocks (s : Scanner) (column : Int) : Scanner :=
  if s.inFlow then s
  else
    let (tokens, indent, outer) := closeAll column s.tokens s.indent s.outer
    { s with tokens, indent, outer }

/-! ## Possible keys -/

/-- Whether a key that began at a place can no longer end before the cursor. -/
def isStale (c : Cursor) (k : PossibleKey) : Bool := k.line < c.line || k.index + 1024 < c.index

/-- Forgets the possible keys that can no longer be one. -/
def dropStale? (s : Scanner) : Option Scanner := do
  let keys ← s.keys.mapM fun key =>
    match key with
    | some k =>
      if isStale s.cursor k then if k.required then none else some none else some (some k)
    | none => some none
  return { s with keys }

/-- Forgets the possible key of this flow level. -/
def dropKey? (s : Scanner) : Option Scanner :=
  match s.keys with
  | some k :: rest => if k.required then none else some { s with keys := none :: rest }
  | _ => some s

/-- Remembers that a key may begin here. -/
def saveKey? (s : Scanner) : Option Scanner :=
  if ¬ s.keyAllowed then some s
  else do
    let s ← s.dropKey?
    let c := s.cursor
    let required := ¬ s.inFlow ∧ s.indent = c.column
    let key := ⟨s.tokens.size, c.line, c.index, c.column, required⟩
    return { s with keys := some key :: s.keys.tail }

/-! ## Between tokens -/

/-- Goes to the next token, over blanks, comments and line breaks. A tab counts as a blank only
    where no key may begin. A byte order mark at the start of a line is passed over and takes a
    column. -/
def toNextToken : Nat → Scanner → Scanner
  | 0, s => s
  | fuel + 1, s =>
    let c := if s.cursor.column = 0 ∧ s.cursor.isAt '\uFEFF' then s.cursor.next else s.cursor
    let tabs := s.inFlow || !s.keyAllowed
    let c := (c.skipWhile fun x => x == ' ' || (tabs && x == '\t')).skipComment
    if c.peek.any isBreak then
      toNextToken fuel ((s.moveTo c.next).allowKey (s.keyAllowed || !s.inFlow))
    else s.moveTo c

/-! ## One token -/

/-- Takes a directive or a document marker, of the given length, which ends all collections. -/
def documentToken? (s : Scanner) (t : Token) (after : Cursor) : Option Scanner := do
  let s ← (s.closeBlocks (-1)).dropKey?
  return ((s.allowKey false).emit t).moveTo after

/-- Takes the start of a flow collection. -/
def flowStart? (s : Scanner) (t : Token) : Option Scanner := do
  let s ← s.saveKey?
  let s := { s with keys := none :: s.keys }
  return ((s.allowKey true).emit t).moveTo s.cursor.next

/-- Takes the end of a flow collection. -/
def flowEnd? (s : Scanner) (t : Token) : Option Scanner := do
  let s ← s.dropKey?
  let s := if s.inFlow then { s with keys := s.keys.tail } else s
  return ((s.allowKey false).emit t).moveTo s.cursor.next

/-- Takes a comma. -/
def flowEntry? (s : Scanner) : Option Scanner := do
  let s ← s.dropKey?
  return ((s.allowKey true).emit .flowEntry).moveTo s.cursor.next

/-- Takes the indicator of an entry of a block sequence. -/
def blockEntry? (s : Scanner) : Option Scanner := do
  if ¬ s.inFlow ∧ ¬ s.keyAllowed then none
  let s := s.openBlock s.cursor.column s.tokens.size .blockSequenceStart
  let s ← s.dropKey?
  return ((s.allowKey true).emit .blockEntry).moveTo s.cursor.next

def keyIndicator? (s : Scanner) : Option Scanner := do
  if ¬ s.inFlow ∧ ¬ s.keyAllowed then none
  let s := s.openBlock s.cursor.column s.tokens.size .blockMappingStart
  let s ← s.dropKey?
  return ((s.allowKey (!s.inFlow)).emit .key).moveTo s.cursor.next

/-- Takes the colon before a value, and with it the key before it if it had no indicator. -/
def value? (s : Scanner) : Option Scanner := do
  match s.keys.head?.join with
  | some k =>
    let s := { s with
      tokens := s.tokens.insertIdxIfInBounds k.position .key
      keys := none :: s.keys.tail }
    let s := s.openBlock k.column k.position .blockMappingStart
    return ((s.allowKey false).emit .value).moveTo s.cursor.next
  | none =>
    if ¬ s.inFlow ∧ ¬ s.keyAllowed then none
    let s := s.openBlock s.cursor.column s.tokens.size .blockMappingStart
    return ((s.allowKey (!s.inFlow)).emit .value).moveTo s.cursor.next

/-- Takes a token that may begin a key. -/
def content? (s : Scanner) (t : Token) (after : Cursor) (allowed : Bool) : Option Scanner := do
  let s ← s.saveKey?
  return ((s.allowKey allowed).emit t).moveTo after

def blockScalar? (s : Scanner) (literal : Bool) : Option Scanner := do
  let s ← s.dropKey?
  let (text, after) ← Token.block? literal s.indent s.cursor.next
  let style := if literal then .literal else .folded
  return ((s.allowKey true).emit (.scalar text style)).moveTo after

def quotedScalar? (s : Scanner) (single : Bool) : Option Scanner := do
  let (text, after) ← Token.quoted? single (s.cursor.rest.length + 1) [] s.cursor.next
  let style := if single then .singleQuoted else .doubleQuoted
  s.content? (.scalar text style) after false

/-- Takes a plain scalar. A key may begin after it if it ended at a line break. -/
def plainScalar? (s : Scanner) : Option Scanner := do
  let plain ←
    Token.plain? s.inFlow (s.indent + 1) (s.cursor.rest.length + 1) [] {} s.cursor
  s.content? (.scalar plain.text .plain) plain.after plain.broken

/-- Whether a plain scalar begins with the next character. -/
def beginsPlain (s : Scanner) (x : Char) : Bool :=
  let c := s.cursor
  !(isBlank x || isBreak x || "-?:,[]\x7b\x7d#&*!|>'\"%@\x60".toList.contains x) ||
    (x == '-' && !((c.peekAt 1).any isBlank)) ||
    (!s.inFlow && (x == '?' || x == ':') && !c.endsAt 1)

/-- Takes the token that begins with the next character. -/
def token? (s : Scanner) (x : Char) : Option Scanner :=
  let c := s.cursor
  let indicator := c.endsAt 1
  if c.column = 0 ∧ x = '%' then
    (Token.directive? c.next).bind fun (t, after) => s.documentToken? t after
  else if c.atMarker '-' then s.documentToken? .documentStart (c.skip 3)
  else if c.atMarker '.' then s.documentToken? .documentEnd (c.skip 3)
  else if x = '[' then s.flowStart? .flowSequenceStart
  else if x = '{' then s.flowStart? .flowMappingStart
  else if x = ']' then s.flowEnd? .flowSequenceEnd
  else if x = '}' then s.flowEnd? .flowMappingEnd
  else if x = ',' then s.flowEntry?
  else if x = '-' ∧ indicator then s.blockEntry?
  else if x = '?' ∧ (s.inFlow ∨ indicator) then s.keyIndicator?
  else if x = ':' ∧ (s.inFlow ∨ indicator) then s.value?
  else if x = '*' then
    (Token.anchorName? c.next).bind fun (name, after) => s.content? (.alias name) after false
  else if x = '&' then
    (Token.anchorName? c.next).bind fun (name, after) => s.content? (.anchor name) after false
  else if x = '!' then
    (Token.tag? s.inFlow c).bind fun (t, after) => s.content? t after false
  else if x = '|' ∧ ¬ s.inFlow then s.blockScalar? true
  else if x = '>' ∧ ¬ s.inFlow then s.blockScalar? false
  else if x = '\'' then s.quotedScalar? true
  else if x = '"' then s.quotedScalar? false
  else if s.beginsPlain x then s.plainScalar?
  else none

/-- Scans to the end of the text. -/
def run? : Nat → Scanner → Option (Array Token)
  | 0, _ => none
  | fuel + 1, s => do
    let s := toNextToken (s.cursor.rest.length + 1) s
    let s ← s.dropStale?
    let s := s.closeBlocks s.cursor.column
    match s.cursor.peek with
    | none =>
      let s ← (s.closeBlocks (-1)).dropKey?
      return s.tokens
    | some x => run? fuel (← s.token? x)

end Scanner

/-- The tokens of a YAML text, or `none` where it has none. -/
def Token.scan? (t : Text) : Option (List Token) :=
  if t.all isAllowed then
    let text := withLineFeeds t
    ((Scanner.mk { rest := text } #[] (-1) [] [none] true).run? (text.length + 2)).map Array.toList
  else none

end LogLine.Yaml
