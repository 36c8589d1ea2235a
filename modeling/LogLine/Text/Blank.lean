-- SUMMARY: The Unicode white space characters and trimming.
import LogLine.Text.Basic

/-!
# Blanks

White space is the Unicode property of that name. Trimming removes it from
both ends of a text.
-/

namespace LogLine.Text

/-- Whether a character has the Unicode property White_Space. -/
def isBlank (c : Char) : Bool :=
  let u := c.toNat
  (0x09 ≤ u && u ≤ 0x0D) || u == 0x20 || u == 0x85 || u == 0xA0 || u == 0x1680 ||
    (0x2000 ≤ u && u ≤ 0x200A) || u == 0x2028 || u == 0x2029 || u == 0x202F || u == 0x205F ||
    u == 0x3000

/-- The text without its leading blanks. -/
def trimLeft (t : Text) : Text := t.dropWhile isBlank

/-- The text without its trailing blanks. -/
def trimRight (t : Text) : Text := (t.reverse.dropWhile isBlank).reverse

/-- The text without the blanks at its ends. -/
def trim (t : Text) : Text := trimRight (trimLeft t)

end LogLine.Text
