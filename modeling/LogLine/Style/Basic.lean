-- SUMMARY: Colours, attributes and the style they make up.
import LogLine.Text.Basic

/-!
# Styles

A style gives a text a foreground, a background and a set of attributes. The
default style has none of the three.
-/

namespace LogLine

/-! ## Colours -/

/-- The eight colours with a name of their own on every terminal. -/
inductive BaseColor where
  | black | red | green | yellow | blue | magenta | cyan | white
deriving DecidableEq, Repr

/-- The place of a base colour in the terminal's order. -/
def BaseColor.index : BaseColor → Fin 8
  | .black => 0
  | .red => 1
  | .green => 2
  | .yellow => 3
  | .blue => 4
  | .magenta => 5
  | .cyan => 6
  | .white => 7

/-- A base colour, or an entry of the terminal's palette of 256. -/
inductive Color where
  | base (color : BaseColor)
  | palette (index : Fin 256)
deriving DecidableEq, Repr

/-! ## Attributes -/

/-- What a style can do to a character besides colouring it. -/
inductive Attribute where
  | bold | dim | italic | underline | blink | reverse | hidden | strike
deriving DecidableEq, Repr

/-- Every attribute, in the order in which terminals number them. -/
def Attribute.all : List Attribute :=
  [.bold, .dim, .italic, .underline, .blink, .reverse, .hidden, .strike]

theorem Attribute.mem_all (a : Attribute) : a ∈ Attribute.all := by
  cases a <;> decide

/-- A set of attributes, given by its membership test. -/
def Attributes := Attribute → Bool

namespace Attributes

def none : Attributes := fun _ => false

def only (a : Attribute) : Attributes := fun b => a == b

/-- The attributes of either set. -/
def union (s t : Attributes) : Attributes := fun a => s a || t a

instance : DecidableEq Attributes := fun s t =>
  decidable_of_iff (Attribute.all.all (fun a => s a == t a) = true)
    ⟨fun h => funext fun a => eq_of_beq (List.all_eq_true.1 h a a.mem_all),
      fun h => List.all_eq_true.2 fun _ _ => h ▸ beq_self_eq_true _⟩

end Attributes

/-! ## Styles -/

/-- The look of a character: colours that replace the terminal's own, and attributes. -/
structure Style where
  foreground : Option Color
  background : Option Color
  attributes : Attributes
deriving DecidableEq

namespace Style

/-- The style of text that nothing was said about. -/
def default : Style := ⟨none, none, .none⟩

instance : Inhabited Style := ⟨default⟩

def withForeground (c : Color) (s : Style) : Style := { s with foreground := some c }

def withBackground (c : Color) (s : Style) : Style := { s with background := some c }

def withAttribute (a : Attribute) (s : Style) : Style :=
  { s with attributes := s.attributes.union (.only a) }

end Style

end LogLine
