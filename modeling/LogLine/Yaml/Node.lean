-- SUMMARY: YAML documents as trees, and reading them from tokens.
import LogLine.Yaml.Scan

/-!
# Documents

A document is a tree of scalars, sequences and mappings. An alias stands for
the node with its number; a document keeps the nodes that have one. An anchor's
number is the count of different names before it, so a name that is used twice
makes a later anchor share the number of an earlier one. The number is then
that of the later anchor's node.
-/

namespace LogLine.Yaml

/-- A node of a document. Scalars and collections may have a tag. -/
inductive Node where
  | scalar (value : Text) (style : ScalarStyle) (tag : Option Tag)
  | sequence (items : List Node) (tag : Option Tag)
  | mapping (entries : List (Node × Node)) (tag : Option Tag)
  | alias (number : Nat)

/-- A document: its root, and the nodes that an alias can stand for by their numbers. -/
structure Document where
  root : Node
  anchored : List (Nat × Node)

structure TokenReader where
  tokens : List Token
  /-- The handles of tags and what they stand for. -/
  handles : List (Text × Tag) := []
  /-- The numbers of the anchors by their names. -/
  names : List (Text × Nat) := []
  /-- The anchors met so far. -/
  anchors : Nat := 0
  /-- The nodes with a number, each with the place of its anchor among the anchors. -/
  anchored : List (Nat × Nat × Node) := []

/-- A step that reads tokens or finds that they make no document. -/
abbrev ReadM := StateT TokenReader Option

namespace ReadM

def peek : ReadM (Option Token) := return (← get).tokens.head?

/-- Passes over a token. -/
def skip : ReadM Unit := modify fun r => { r with tokens := r.tokens.drop 1 }

/-- Finds that the tokens make no document. -/
def refuse {α : Type} : ReadM α := fun _ => none

/-- Passes over a token of the given kind and tells whether there was one. -/
def accept (t : Token) : ReadM Bool := do
  if (← peek) = some t then
    skip
    return true
  else return false

/-- Gives an anchor its number, and tells its place among the anchors. -/
def number (name : Text) : ReadM (Nat × Nat) := do
  let r ← get
  let n := r.names.length
  set { r with names := (name, n) :: r.names.filter (·.1 ≠ name), anchors := r.anchors + 1 }
  return (n, r.anchors)

/-- Keeps a node under the number of its anchor, unless a later anchor's node has that number. -/
def keep (anchor : Option (Nat × Nat)) (node : Node) : ReadM Node := do
  if let some (n, place) := anchor then
    let r ← get
    if ¬ (r.anchored.lookup n).any fun kept => place < kept.1 then
      set { r with anchored := (n, place, node) :: r.anchored.filter (·.1 ≠ n) }
  return node

/-- The tag that a handle and a suffix stand for. -/
def tagOf (handle : Text) (suffix : Tag) : ReadM Tag := do
  if handle = [] then return suffix
  else
    match (← get).handles.lookup handle with
    | some lead => return lead ++ suffix
    | none => refuse

/-- The properties of a node: its anchor and its tag, in either order. -/
structure Properties where
  anchor : Option (Nat × Nat) := none
  tag : Option Tag := none
  /-- Whether there are any. -/
  given : Bool := false

/-- Reads an anchor, if one comes next. -/
def anchor (p : Properties) : ReadM Properties := do
  match ← peek with
  | some (.anchor name) =>
    skip
    return { p with anchor := some (← number name), given := true }
  | _ => return p

/-- Reads a tag, if one comes next. -/
def tag (p : Properties) : ReadM Properties := do
  match ← peek with
  | some (.tag handle suffix) =>
    skip
    return { p with tag := some (← tagOf handle suffix), given := true }
  | _ => return p

def properties : ReadM Properties := do
  match ← peek with
  | some (.tag _ _) => anchor (← tag {})
  | _ => tag (← anchor {})

/-- The node where nothing is written. -/
def empty (tag : Option Tag) : Node := .scalar [] .plain tag

end ReadM

open ReadM

mutual

/-- Reads a node. In a block it may be a block collection, and after a key also a sequence that is
    not indented. -/
def Node.read (block unindented : Bool) : Nat → ReadM Node
  | 0 => refuse
  | fuel + 1 => do
    match ← peek with
    | some (.alias name) =>
      skip
      match (← get).names.lookup name with
      | some n => return .alias n
      | none => refuse
    | _ =>
      let p ← properties
      match ← peek with
      | some (.scalar value style) =>
        skip
        keep p.anchor (.scalar value style p.tag)
      | some .blockEntry =>
        if unindented then
          keep p.anchor (.sequence (← readUnindented fuel) p.tag)
        else if p.given then keep p.anchor (empty p.tag)
        else refuse
      | some .flowSequenceStart =>
        skip
        keep p.anchor (.sequence (← readFlowSequence true fuel) p.tag)
      | some .flowMappingStart =>
        skip
        keep p.anchor (.mapping (← readFlowMapping true fuel) p.tag)
      | some .blockSequenceStart =>
        if block then
          skip
          keep p.anchor (.sequence (← readBlockSequence fuel) p.tag)
        else if p.given then keep p.anchor (empty p.tag)
        else refuse
      | some .blockMappingStart =>
        if block then
          skip
          keep p.anchor (.mapping (← readBlockMapping fuel) p.tag)
        else if p.given then keep p.anchor (empty p.tag)
        else refuse
      | _ => if p.given then keep p.anchor (empty p.tag) else refuse

/-- Reads the entries of a block sequence up to its end. -/
def readBlockSequence : Nat → ReadM (List Node)
  | 0 => refuse
  | fuel + 1 => do
    if ← accept .blockEnd then return []
    else if ← accept .blockEntry then
      let item ←
        match ← peek with
        | some .blockEntry | some .blockEnd => pure (empty none)
        | _ => Node.read true false fuel
      return item :: (← readBlockSequence fuel)
    else refuse

/-- Reads the entries of a sequence that is not indented. -/
def readUnindented : Nat → ReadM (List Node)
  | 0 => refuse
  | fuel + 1 => do
    if ← accept .blockEntry then
      let item ←
        match ← peek with
        | some .blockEntry | some .key | some .value | some .blockEnd => pure (empty none)
        | _ => Node.read true false fuel
      return item :: (← readUnindented fuel)
    else return []

/-- Reads the entries of a block mapping up to its end. -/
def readBlockMapping : Nat → ReadM (List (Node × Node))
  | 0 => refuse
  | fuel + 1 => do
    if ← accept .blockEnd then return []
    else if ← accept .key then
      let key ← readBlockPart fuel
      let value ← if ← accept .value then readBlockPart fuel else pure (empty none)
      return (key, value) :: (← readBlockMapping fuel)
    else refuse

/-- Reads a key or a value of a block mapping. -/
def readBlockPart : Nat → ReadM Node
  | 0 => refuse
  | fuel + 1 => do
    match ← peek with
    | some .key | some .value | some .blockEnd => return empty none
    | _ => Node.read true true fuel

/-- Reads the entries of a flow sequence up to its end. An entry with a key is a mapping of its
    own. -/
def readFlowSequence (first : Bool) : Nat → ReadM (List Node)
  | 0 => refuse
  | fuel + 1 => do
    if ← accept .flowSequenceEnd then return []
    else
      if !first then
        if ← accept .flowEntry then pure () else refuse
      if ← accept .flowSequenceEnd then return []
      else
        let item ←
          if ← accept .key then
            let key ←
              match ← peek with
              | some .value | some .flowEntry | some .flowSequenceEnd =>
                skip
                pure (empty none)
              | _ => Node.read false false fuel
            let value ←
              if ← accept .value then
                match ← peek with
                | some .flowEntry | some .flowSequenceEnd => pure (empty none)
                | _ => Node.read false false fuel
              else pure (empty none)
            pure (.mapping [(key, value)] none)
          else Node.read false false fuel
        return item :: (← readFlowSequence false fuel)

/-- Reads the entries of a flow mapping up to its end. -/
def readFlowMapping (first : Bool) : Nat → ReadM (List (Node × Node))
  | 0 => refuse
  | fuel + 1 => do
    if ← accept .flowMappingEnd then return []
    else
      if !first then
        if ← accept .flowEntry then pure () else refuse
      if ← accept .flowMappingEnd then return []
      else
        let entry ←
          if ← accept .key then
            let key ←
              match ← peek with
              | some .value | some .flowEntry | some .flowMappingEnd => pure (empty none)
              | _ => Node.read false false fuel
            let value ←
              if ← accept .value then
                match ← peek with
                | some .flowEntry | some .flowMappingEnd => pure (empty none)
                | _ => Node.read false false fuel
              else pure (empty none)
            pure (key, value)
          else
            let key ← Node.read false false fuel
            pure (key, empty none)
        return entry :: (← readFlowMapping false fuel)

end

namespace Document

def knownHandles : List (Text × Tag) :=
  [(['!'], ['!']), (['!', '!'], "tag:yaml.org,2002:".toList)].map fun h => (h.1, Text.utf8 h.2)

/-- Reads the directives of a document: at most one version, which has to be 1.1 or 1.2, and
    handles, each at most once. -/
def directives (version : Bool) : Nat → List (Text × Tag) → ReadM (Bool × List (Text × Tag))
  | 0, _ => refuse
  | fuel + 1, handles => do
    match ← peek with
    | some (.version major minor) =>
      if version ∨ major ≠ 1 ∨ (minor ≠ 1 ∧ minor ≠ 2) then refuse
      skip
      directives true fuel handles
    | some (.tagHandle handle lead) =>
      if (handles.lookup handle).isSome then refuse
      skip
      directives version fuel ((handle, lead) :: handles)
    | _ => return (version, handles)

/-- Passes over the markers of a document's end. -/
def skipEnds : Nat → ReadM Unit
  | 0 => pure ()
  | fuel + 1 => do
    if ← accept .documentEnd then skipEnds fuel

/-- Reads the content of a document after its start marker. -/
def content (fuel : Nat) : ReadM Node := do
  match ← peek with
  | none | some (.version _ _) | some (.tagHandle _ _) | some .documentStart
  | some .documentEnd => return empty none
  | _ => Node.read true false fuel

/-- Reads the only document of a text, or finds that it has none. A first document may lack its
    start marker. -/
def readOnly (fuel : Nat) : ReadM (Option Node) := do
  match ← peek with
  | none => return none
  | some t =>
    let root ←
      match t with
      | .version _ _ | .tagHandle _ _ | .documentStart => do
        let (_, own) ← directives false fuel []
        modify fun r => { r with handles := own ++ knownHandles }
        if ¬ (← accept .documentStart) then refuse
        content fuel
      | _ => do
        modify fun r => { r with handles := knownHandles }
        Node.read true false fuel
    skipEnds fuel
    match ← peek with
    | none => return some root
    | some _ => refuse

/-- The document of a YAML text. The outer `none` means that the text is malformed or holds more
    than one document, the inner one that it holds none. -/
def ofText? (t : Text) : Option (Option Document) := do
  let tokens ← Token.scan? t
  let (root, reader) ← (readOnly (8 * tokens.length + 8)).run { tokens }
  return root.map fun root => ⟨root, reader.anchored.map fun a => (a.1, a.2.2)⟩

end Document

end LogLine.Yaml
