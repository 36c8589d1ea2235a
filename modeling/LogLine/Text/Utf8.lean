-- SUMMARY: Texts as bytes.
import LogLine.Text.Basic

/-!
# UTF-8

Streams and files hold bytes. A text is written to them in UTF-8.
-/

namespace LogLine.Text

def utf8 (t : Text) : List UInt8 := t.flatMap String.utf8EncodeChar

/-- The text that bytes are, if they are one. -/
def ofUtf8? (bytes : List UInt8) : Option Text :=
  (String.fromUTF8? ⟨bytes.toArray⟩).map String.toList

end LogLine.Text
