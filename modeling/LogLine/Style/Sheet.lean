-- SUMMARY: Style specs: items, named styles and the style a spec resolves to.
import LogLine.Style.Color

/-!
# Style sheets

A spec is a comma-separated list of items, applied from left to right: an item
colours, adds an attribute, resets everything, or stands for a style
registered under its name. Names refer to names up to eight levels deep; an
item without a meaning changes nothing.
-/

namespace LogLine

/-! ## Items -/

/-- What one item of a spec asks for. -/
inductive StyleItem where
  | foreground (color : Option Color)
  | background (color : Option Color)
  | add (what : Attribute)
  | reset
  | named (name : Text)
deriving DecidableEq

/-- The attribute of a lower-case keyword. -/
def Attribute.ofKeyword? (word : Text) : Option Attribute :=
  if word = "bold".toList then some .bold
  else if word = "faint".toList ∨ word = "dim".toList then some .dim
  else if word = "italic".toList then some .italic
  else if word = "underline".toList then some .underline
  else if word = "blink".toList then some .blink
  else if word = "inverse".toList ∨ word = "reverse".toList then some .reverse
  else if word = "conceal".toList ∨ word = "hidden".toList then some .hidden
  else if word = "crossed-out".toList ∨ word = "strikethrough".toList then some .strike
  else none

namespace StyleItem

/-- Reads an item. The colour items begin in lower case, the keywords are of any case, and
    whatever is left is a name, from which one leading dot is dropped. -/
def ofText (item : Text) : StyleItem :=
  match Text.after? "fg:".toList item with
  | some color => .foreground (Color.ofText? color)
  | none =>
    match Text.after? "bg:".toList item with
    | some color => .background (Color.ofText? color)
    | none =>
      let word := Text.lower item
      match Attribute.ofKeyword? word with
      | some what => .add what
      | none =>
        if word = "default".toList ∨ word = "none".toList then .reset
        else .named (Text.afterOrAll ['.'] item)

/-- The items of a spec: the parts between commas without their blanks, empty ones left out. -/
def ofSpec (spec : Text) : List StyleItem :=
  ((Text.split ',' spec).map Text.trim |>.filter (· ≠ [])).map ofText

/-- What the item does to a style, given what its name does if it is one. -/
def applyWith (byName : Text → Style → Style) : StyleItem → Style → Style
  | .foreground c, s => c.elim s (s.withForeground ·)
  | .background c, s => c.elim s (s.withBackground ·)
  | .add what, s => s.withAttribute what
  | .reset, _ => .default
  | .named name, s => byName name s

end StyleItem

/-! ## Resolvers -/

/-- What gives a spec its style. -/
abbrev Resolver := Text → Style

/-- The resolver that knows no styles. -/
def Resolver.none : Resolver := fun _ => .default

/-- Named styles, each a name and its spec, the latest first. -/
structure StyleSheet where
  entries : List (Text × Text) := []

namespace StyleSheet

/-- Names the styles of a style sheet may go through below a spec. -/
def maxDepth : Nat := 8

/-- Registers a spec under a name, in place of an earlier one. -/
def register (sheet : StyleSheet) (name spec : Text) : StyleSheet :=
  ⟨(name, spec) :: sheet.entries.filter (·.1 ≠ name)⟩

/-- Registers every entry of a list, in its order. -/
def ofList (entries : List (Text × Text)) : StyleSheet :=
  entries.foldl (fun sheet e => sheet.register e.1 e.2) {}

/-- The spec registered under a name. -/
def find? (sheet : StyleSheet) (name : Text) : Option Text := sheet.entries.lookup name

/-- Whether a style is registered under a name. -/
def has (sheet : StyleSheet) (name : Text) : Bool := (sheet.find? name).isSome

/-- Applies a spec to a style, following names down to the given depth. -/
def apply (sheet : StyleSheet) : (depth : Nat) → (spec : Text) → Style → Style
  | 0, spec, style =>
    (StyleItem.ofSpec spec).foldl (fun s item => item.applyWith (fun _ s => s) s) style
  | depth + 1, spec, style =>
    (StyleItem.ofSpec spec).foldl
      (fun s item =>
        item.applyWith (fun name s => (sheet.find? name).elim s (apply sheet depth · s)) s)
      style

/-- The style of a spec. -/
def resolve (sheet : StyleSheet) : Resolver := fun spec => sheet.apply maxDepth spec .default

end StyleSheet

end LogLine
