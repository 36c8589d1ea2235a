-- SUMMARY: Events as JSON objects.
import LogLine.Text.Basic

/-!
# JSON lines

A JSON line is one object whose members are all strings, written without
spaces. Quotes, backslashes and control characters are escaped, and every
other character stands for itself.
-/

namespace LogLine.Json

/-- A digit of base sixteen in lower case. -/
def hexDigit (n : Nat) : Char := Nat.digitChar n

/-- A character inside a string. -/
def escapeChar (c : Char) : Text :=
  match c with
  | '"' => ['\\', '"']
  | '\\' => ['\\', '\\']
  | '\x08' => ['\\', 'b']
  | '\x0c' => ['\\', 'f']
  | '\n' => ['\\', 'n']
  | '\r' => ['\\', 'r']
  | '\t' => ['\\', 't']
  | _ =>
    if c.toNat < 0x20 then
      ['\\', 'u', '0', '0', hexDigit (c.toNat / 16), hexDigit (c.toNat % 16)]
    else [c]

def string (t : Text) : Text := '"' :: t.flatMap escapeChar ++ ['"']

/-- An object with the given members, in their order. -/
def object (members : List (Text × Text)) : Text :=
  '{' :: Text.join [','] (members.map fun m => string m.1 ++ ':' :: string m.2) ++ ['}']

end LogLine.Json
