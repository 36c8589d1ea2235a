-- SUMMARY: Painting a text with the terminal's select-graphic-rendition sequences.
import LogLine.Style.Basic

/-!
# Painted text

A styled text reaches a terminal between escape sequences: one for the
foreground, one for the background, one for each attribute, and after the text
one that resets all of them. A text in the default style is written bare.
-/

namespace LogLine

/-- A select-graphic-rendition sequence with the given parameters. -/
def sgr (parameters : Text) : Text := '\x1b' :: '[' :: parameters ++ ['m']

/-- The parameters that choose a colour, for the decade of the foreground or the background. -/
def Color.parameters (decade : Nat) : Color → Text
  | .base c => Text.ofNat (10 * decade + c.index.val)
  | .palette i => Text.join [';'] [Text.ofNat (10 * decade + 8), ['5'], Text.ofNat i.val]

/-- The number of an attribute. -/
def Attribute.parameter : Attribute → Nat
  | .bold => 1
  | .dim => 2
  | .italic => 3
  | .underline => 4
  | .blink => 5
  | .reverse => 7
  | .hidden => 8
  | .strike => 9

namespace Style

/-- The parameters of the sequences that switch the style on. -/
def parameters (s : Style) : List Text :=
  (s.foreground.map (Color.parameters 3)).toList ++
    (s.background.map (Color.parameters 4)).toList ++
    (Attribute.all.filter s.attributes).map fun a => Text.ofNat a.parameter

/-- The text between the sequences that switch the style on and the one that resets it. -/
def paint (s : Style) (t : Text) : Text :=
  match s.parameters with
  | [] => t
  | parameters => (parameters.map sgr).flatten ++ t ++ sgr ['0']

end Style

end LogLine
