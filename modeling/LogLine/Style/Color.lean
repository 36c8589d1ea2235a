-- SUMMARY: Reading a colour from text, and the palette entry for a triplet of channels.
import LogLine.Style.Basic
import LogLine.Text.Blank

/-!
# Colours in text

A colour is written as one of the eight names, as a `bright-` name, as a
palette index, or as a hexadecimal code of three or six digits. White also
answers to `gray` and `grey`.
-/

namespace LogLine

/-! ## Channels -/

/-- A colour by its red, green and blue channels. -/
structure Rgb where
  red : Fin 256
  green : Fin 256
  blue : Fin 256
deriving DecidableEq, Repr

/-- The palette entry that stands for a triplet: for equal channels an entry of the grey ramp or
    one of the two cube corners beside it, otherwise an entry of the cube with six steps a
    channel, each channel rounded down to a step. -/
def Rgb.toPalette (c : Rgb) : Fin 256 :=
  if c.red = c.green ∧ c.green = c.blue then
    if c.red.val < 8 then 16
    else if bright : 248 < c.red.val then 231
    else ⟨232 + (c.red.val - 8) * 24 / 247, by omega⟩
  else
    ⟨16 + 36 * (c.red.val * 5 / 255) + 6 * (c.green.val * 5 / 255) + c.blue.val * 5 / 255, by
      have := c.red.isLt
      have := c.green.isLt
      have := c.blue.isLt
      omega⟩

/-! ## Numerals of one byte -/

/-- A numeral of one byte: digits, with a plus sign before them if there is more to read. -/
def byte? (base : Nat) (t : Text) : Option (Fin 256) :=
  let digits :=
    match t with
    | '+' :: d :: rest => d :: rest
    | _ => t
  (Text.number? base digits).bind fun n => if h : n < 256 then some ⟨n, h⟩ else none

/-- The channels of a hexadecimal code. Three digits give a channel each, repeated; six give two
    to a channel. -/
def Rgb.ofHex? : Text → Option Rgb
  | [r, g, b] => do
    let r ← byte? 16 [r]
    let g ← byte? 16 [g]
    let b ← byte? 16 [b]
    some ⟨r * 17, g * 17, b * 17⟩
  | [r, r', g, g', b, b'] => do
    let r ← byte? 16 [r, r']
    let g ← byte? 16 [g, g']
    let b ← byte? 16 [b, b']
    some ⟨r, g, b⟩
  | _ => none

/-! ## Names -/

/-- The base colour of a lower-case name. -/
def BaseColor.ofName? (name : Text) : Option BaseColor :=
  if name = "black".toList then some .black
  else if name = "red".toList then some .red
  else if name = "green".toList then some .green
  else if name = "yellow".toList then some .yellow
  else if name = "blue".toList then some .blue
  else if name = "magenta".toList then some .magenta
  else if name = "cyan".toList then some .cyan
  else if name = "white".toList then some .white
  else none

def BaseColor.name : BaseColor → Text
  | .black => "black".toList
  | .red => "red".toList
  | .green => "green".toList
  | .yellow => "yellow".toList
  | .blue => "blue".toList
  | .magenta => "magenta".toList
  | .cyan => "cyan".toList
  | .white => "white".toList

/-- The palette entry of the bright variant of a base colour. -/
def BaseColor.bright (c : BaseColor) : Fin 256 := ⟨8 + c.index.val, by omega⟩

/-- The colour of a lower-case name. -/
def Color.ofName? (name : Text) : Option Color :=
  match Text.after? "bright-".toList name <|> Text.after? "bright_".toList name with
  | some rest => (BaseColor.ofName? rest).map fun c => .palette c.bright
  | none =>
    if name = "gray".toList ∨ name = "grey".toList then some (.base .white)
    else (BaseColor.ofName? name).map .base

/-- The colour that a text names, whatever blanks are around it. -/
def Color.ofText? (t : Text) : Option Color :=
  match Text.trim t with
  | '#' :: hex => (Rgb.ofHex? hex).map fun c => .palette c.toPalette
  | t => ((byte? 10 t).map Color.palette) <|> Color.ofName? (Text.lower t)

end LogLine
