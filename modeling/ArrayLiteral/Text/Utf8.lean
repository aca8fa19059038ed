import ArrayLiteral.Text.Blank

/-!
# Text — Utf8

The bytes of a text.  Every text can be encoded, and what was encoded decodes to the same text.
-/

namespace ArrayLiteral.Text

/-- The UTF-8 bytes of a text. -/
def utf8 (t : Text) : List UInt8 := t.flatMap String.utf8EncodeChar

/-- The text with these UTF-8 bytes. -/
def ofUtf8? (bytes : List UInt8) : Option Text :=
  bytes.toByteArray.utf8Decode?.map Array.toList

theorem ofUtf8?_utf8 (t : Text) : ofUtf8? t.utf8 = some t := by
  have h : t.utf8.toByteArray = t.utf8Encode := rfl
  simp [ofUtf8?, h]

end ArrayLiteral.Text
