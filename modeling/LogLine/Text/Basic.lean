-- SUMMARY: Texts as lists of characters: ASCII case, digits, prefixes, splitting and replacing.

/-!
# Text

Everything the library reads and writes is a `Text`, the list of its
characters. This file holds the operations that know nothing about the domain:
ASCII case, numerals, cutting at a separator and replacing a part. Sizes of texts and
of what is made of them are sums; the zero of these sums stands here once.
-/

namespace LogLine

namespace Sums

/-- The zero that sums of natural numbers start from, also where algebra knows another one. -/
scoped instance zero : Zero Nat := ⟨0⟩

end Sums

/-- A text is the list of its characters. -/
abbrev Text := List Char

namespace Text

/-! ## ASCII case -/

/-- Lower case for the ASCII letters; every other character stays. -/
def lower (t : Text) : Text := t.map Char.toLower

/-- Upper case for the ASCII letters; every other character stays. -/
def upper (t : Text) : Text := t.map Char.toUpper

/-! ## Numerals -/

/-- The decimal numeral of a natural number. -/
def ofNat (n : Nat) : Text := Nat.toDigits 10 n

/-- The decimal numeral of an integer, with a minus sign below zero. -/
def ofInt (i : Int) : Text :=
  match i with
  | .ofNat n => ofNat n
  | .negSucc n => '-' :: ofNat (n + 1)

/-- The value of a hexadecimal digit of either case. -/
def digitValue? (c : Char) : Option Nat :=
  if '0' ≤ c ∧ c ≤ '9' then some (c.toNat - '0'.toNat)
  else if 'a' ≤ c ∧ c ≤ 'f' then some (c.toNat - 'a'.toNat + 10)
  else if 'A' ≤ c ∧ c ≤ 'F' then some (c.toNat - 'A'.toNat + 10)
  else none

/-- The value of one digit in a base of at most sixteen. -/
def digit? (base : Nat) (c : Char) : Option Nat :=
  (digitValue? c).filter (· < base)

/-- The number written by a non-empty list of digits. -/
def number? (base : Nat) : Text → Option Nat
  | [] => none
  | t => t.foldlM (fun n c => (digit? base c).map (base * n + ·)) 0

/-! ## Prefixes and suffixes -/

/-- What follows `lead` in a text that starts with it. -/
def after? : (lead : Text) → Text → Option Text
  | [], t => some t
  | _ :: _, [] => none
  | l :: ls, c :: cs => if l = c then after? ls cs else none

/-- What follows `lead`, or the text itself if it does not start with it. -/
def afterOrAll (lead t : Text) : Text := (after? lead t).getD t

/-! ## Cutting -/

/-- The parts between the occurrences of a separator; at least one part. -/
def split (sep : Char) : Text → List Text
  | [] => [[]]
  | c :: rest =>
    if c = sep then [] :: split sep rest
    else
      match split sep rest with
      | [] => [[c]]
      | part :: parts => (c :: part) :: parts

def join (sep : Text) (parts : List Text) : Text := sep.intercalate parts

/-- The lines of a text: a line ends at a line feed, with a carriage return before it taken
    along, and text after the last line feed is a line too unless it is empty. -/
def lines (t : Text) : List Text :=
  let parts := split '\n' t
  let closed := parts.dropLast.map fun part =>
    if part.getLast? = some '\r' then part.dropLast else part
  match parts.getLast? with
  | none | some [] => closed
  | some unclosed => closed ++ [unclosed]

/-! ## Replacing -/

/-- `replace` with a number of characters of an occurrence still to be passed over. -/
def replaceFrom (old new : Text) : Nat → Text → Text
  | _, [] => []
  | skip + 1, _ :: rest => replaceFrom old new skip rest
  | 0, c :: rest =>
    if old.isPrefixOf (c :: rest) then new ++ replaceFrom old new (old.length - 1) rest
    else c :: replaceFrom old new 0 rest

/-- Replaces every occurrence of a non-empty `old` by `new`. Occurrences are taken from left to
    right and do not overlap, and `new` is not searched again. -/
def replace (old new t : Text) : Text := replaceFrom old new 0 t

end Text

end LogLine
