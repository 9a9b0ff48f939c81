/-!
# Bytes of a text

A text is written as the bytes of its UTF-8 encoding. This module fixes that
encoding as a list of bytes, character by character, and relates its length to
the size that a text knows of itself.
-/

namespace ArgReport

/-- The UTF-8 bytes of a text, in order. -/
def utf8 (text : String) : List UInt8 :=
  text.toList.flatMap String.utf8EncodeChar

@[simp] theorem utf8_empty : utf8 "" = [] := by
  simp [utf8]

@[simp] theorem utf8_append (left right : String) :
    utf8 (left ++ right) = utf8 left ++ utf8 right := by
  simp [utf8]

/-- The bytes are those the text is stored in. -/
theorem toByteArray_utf8 (text : String) :
    (utf8 text).toByteArray = text.toByteArray := by
  rw [← String.utf8Encode_toList]
  rfl

/-- A text is as long in bytes as its stored size says. -/
@[simp] theorem length_utf8 (text : String) :
    (utf8 text).length = text.utf8ByteSize := by
  have sizes := congrArg ByteArray.size (toByteArray_utf8 text)
  simpa using sizes

/-- Two texts with the same bytes are equal. -/
theorem utf8_injective
    {left right : String}
    (equal : utf8 left = utf8 right) :
    left = right := by
  apply String.toByteArray_inj.1
  rw [← toByteArray_utf8, ← toByteArray_utf8, equal]

end ArgReport
