/-! # Bytes and their UTF-8 text

What travels over a connection is a list of bytes. `utf8` writes a text as bytes and `ofUtf8?` reads
bytes as text, refusing every byte string that is not well-formed UTF-8; the second undoes the
first.
-/

namespace Gateway

/-- A byte string. -/
abbrev Bytes := List UInt8

def utf8 (text : String) : Bytes := text.toByteArray.data.toList

/-- The text that a byte string spells in UTF-8, if it spells one. -/
def ofUtf8? (bytes : Bytes) : Option String := String.fromUTF8? ⟨bytes.toArray⟩

@[simp] theorem ofUtf8?_utf8 (text : String) : ofUtf8? (utf8 text) = some text := by
  have bytes : (⟨(utf8 text).toArray⟩ : ByteArray) = text.toByteArray := by simp [utf8]
  rw [ofUtf8?, bytes, String.fromUTF8?, dif_pos text.isValidUTF8]
  rfl

@[simp] theorem utf8_append (left right : String) :
    utf8 (left ++ right) = utf8 left ++ utf8 right := by
  simp [utf8, String.toByteArray_append]

end Gateway
