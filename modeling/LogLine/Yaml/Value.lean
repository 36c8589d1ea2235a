-- SUMMARY: Reading typed values from YAML nodes.
import LogLine.Yaml.Node

/-!
# Values

What a node means depends on the value that is asked for. A text is any scalar
as it is written; numbers and truth values are unquoted words; a value that may
be left out is left out by a null word or by nothing at all. A node that does
not hold the value asked for gives nothing.
-/

namespace LogLine.Yaml

namespace Document

/-- The node itself, or the one that it is an alias for. -/
def target? (d : Document) : Node → Option Node
  | .alias n => d.anchored.lookup n
  | node => some node

/-- A reader of values from the nodes of a document. -/
abbrev Of (α : Type) := Document → Node → Option α

/-! ## Scalars -/

/-- The words for null. -/
def isNull (t : Text) : Bool := ["null", "Null", "NULL", "~"].map String.toList |>.contains t

def coreTag (name : String) : Tag := Text.utf8 ("tag:yaml.org,2002:".toList ++ name.toList)

/-- The name that a tag of the text's own gives: what follows its exclamation mark, or the mark
    itself where nothing does. -/
def ownName? : Tag → Option Text
  | [] => none
  | mark :: name =>
    if mark ≠ UInt8.ofNat '!'.toNat then none
    else Text.ofUtf8? (if name = [] then [mark] else name)

/-- A text: any scalar. -/
def text? : Of Text := fun d node =>
  match d.target? node with
  | some (.scalar value _ _) => some value
  | _ => none

/-- The word of a plain scalar, or of a literal one that has the tag of its type. -/
def word? (tag : Tag) : Of Text := fun d node =>
  match d.target? node with
  | some (.scalar value .plain _) => some value
  | some (.scalar value .literal t) => if t = some tag then some value else none
  | _ => none

/-- Whether a numeral has a zero before other digits. -/
def hasLeadingZero (t : Text) : Bool :=
  let digits :=
    match t with
    | '+' :: rest => rest
    | '-' :: rest => rest
    | _ => t
  1 < digits.length && digits.head? == some '0' && digits.all Char.isDigit

/-- The number of a numeral: decimal without leading zeros, or in base sixteen, eight or two after
    `0x`, `0o` or `0b`. A plus sign may come first. Numbers have to fit into 64 bits. -/
def numeral? (t : Text) : Option Nat :=
  let digits := Text.afterOrAll ['+'] t
  let fits := fun (base : Nat) (t : Text) => (Text.number? base t).filter (· < UInt64.size)
  match (Text.after? ['0', 'x'] digits).bind (fits 16) <|>
      (Text.after? ['0', 'o'] digits).bind (fits 8) <|>
      (Text.after? ['0', 'b'] digits).bind (fits 2) with
  | some n => some n
  | none => if hasLeadingZero t then none else fits 10 digits

/-- A number of cells. -/
def nat? : Of Nat := fun d node => (word? (coreTag "int") d node).bind numeral?

/-- The truth value of a word. -/
def truth? (t : Text) : Option Bool :=
  if ["true", "True", "TRUE"].map String.toList |>.contains t then some true
  else if ["false", "False", "FALSE"].map String.toList |>.contains t then some false
  else none

def bool? : Of Bool := fun d node => (word? (coreTag "bool") d node).bind truth?

/-- One of several words: a scalar that is one, or nothing under a tag that names one. -/
def choice? {α : Type} (ofName? : Text → Option α) : Of α := fun d node =>
  match d.target? node with
  | some (.scalar value style tag) =>
    match tag.bind ownName? with
    | some name => if style = .plain ∧ (value = [] ∨ isNull value) then ofName? name else none
    | none => ofName? value
  | _ => none

/-! ## Optional values and collections -/

/-- A value that may be left out. -/
def optional? {α : Type} (f : Of α) : Of (Option α) := fun d node =>
  match d.target? node with
  | some (.scalar value .plain (some tag)) =>
    if tag = coreTag "null" then if isNull value then some none else none
    else (f d node).map some
  | some (.scalar value .plain none) =>
    if value = [] ∨ isNull value then some none else (f d node).map some
  | some _ => (f d node).map some
  | none => none

/-- The items of a sequence; nothing at all is the empty one. -/
def list? {α : Type} (f : Of α) : Of (List α) := fun d node =>
  match d.target? node with
  | some (.sequence items _) => items.mapM (f d)
  | some (.scalar [] .plain _) => some []
  | _ => none

/-- The entries of a mapping with texts as keys, in their order; nothing at all is the empty
    mapping. -/
def entries? (d : Document) (node : Node) : Option (List (Text × Node)) :=
  match d.target? node with
  | some (.mapping entries _) => entries.mapM fun e => (text? d e.1).map (·, e.2)
  | some (.scalar [] .plain _) => some []
  | _ => none

/-- The entries of a mapping that has only known keys, each at most once. -/
def record? (known : List Text) (d : Document) (node : Node) : Option (List (Text × Node)) := do
  let entries ← entries? d node
  let keys := entries.map (·.1)
  if keys.all known.contains ∧ keys.eraseDups.length = keys.length then some entries else none

/-- The value under a key of a mapping, if the key is there. -/
def member? {α : Type} (f : Of (Option α)) (d : Document) (entries : List (Text × Node))
    (key : String) : Option (Option α) :=
  match entries.lookup key.toList with
  | some node => f d node
  | none => some none

/-- Puts an entry into a list that is sorted by its keys, in place of an entry with the key. -/
def insertSorted {α : Type} (key : Text) (value : α) : List (Text × α) → List (Text × α)
  | [] => [(key, value)]
  | (k, v) :: rest =>
    if key < k then (key, value) :: (k, v) :: rest
    else if key = k then (key, value) :: rest
    else (k, v) :: insertSorted key value rest

/-- The entries of a mapping with any keys, sorted by them; of two entries with one key the later
    one counts. -/
def table? {α : Type} (f : Of α) : Of (List (Text × α)) := fun d node => do
  let entries ← entries? d node
  let values ← entries.mapM fun e => (f d e.2).map (e.1, ·)
  return values.foldl (fun table e => insertSorted e.1 e.2 table) []

end Document

end LogLine.Yaml
