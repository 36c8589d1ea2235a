-- SUMMARY: How many terminal cells a character and a text take.
import LogLine.Text.Basic
import LogLine.Width.Tables

/-!
# Cell widths

A character advances the cursor by zero, one or two cells, or its width cannot
be computed: controls, format characters and unassigned code points. A text is
as wide as its computable characters together.
-/

namespace LogLine

/-- How a soft hyphen is measured: as the visible hyphen of Latin-1, or as the hyphenation
    point of Unicode that shows only where a line breaks. -/
inductive SoftHyphen where
  | latin1
  | unicode
deriving DecidableEq, Repr

/-- The cells a soft hyphen takes. -/
def SoftHyphen.width : SoftHyphen → Nat
  | .latin1 => 1
  | .unicode => 0

namespace Width

/-- The cells a code point takes, or `none` where that cannot be computed. The value need not
    be a character: surrogates and values above `0x10FFFF` have no width. -/
def ofCodePoint? (hyphen : SoftHyphen) (u : Nat) : Option Nat :=
  if ¬ u.isValidChar then none
  else if u = 0 then some 0
  else if u < 0x20 ∨ (0x7F ≤ u ∧ u < 0xA0) then none
  else if u = 0xAD then some hyphen.width
  else if inTable formatting u then none
  else if inTable combining u then some 0
  else if inTable doubleWidth u then some 2
  else if inTable unassigned u then none
  else some 1

/-- The cells a character takes, or `none` where that cannot be computed. -/
def ofChar? (hyphen : SoftHyphen) (c : Char) : Option Nat := ofCodePoint? hyphen c.toNat

/-- The cells a character takes where ambiguous characters take two. -/
def ofCharWide? (hyphen : SoftHyphen) (c : Char) : Option Nat :=
  if inTable ambiguous c.toNat then some 2 else ofChar? hyphen c

end Width

namespace Text

open scoped Sums

/-- The cells a text takes; a character without a width adds nothing. -/
def width (hyphen : SoftHyphen) (t : Text) : Nat :=
  (t.map fun c => (Width.ofChar? hyphen c).getD 0).sum

/-- The cells a text takes where ambiguous characters take two. -/
def widthWide (hyphen : SoftHyphen) (t : Text) : Nat :=
  (t.map fun c => (Width.ofCharWide? hyphen c).getD 0).sum

end Text

end LogLine
