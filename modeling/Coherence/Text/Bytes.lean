set_option autoImplicit false

namespace Coherence

abbrev Bytes := List UInt8

namespace Bytes

def ofText (text : String) : Bytes := text.toByteArray.data.toList

def text? (bytes : Bytes) : Option String := String.fromUTF8? ⟨bytes.toArray⟩

@[simp] theorem text?_ofText (text : String) : text? (ofText text) = some text := by
  have valid : (⟨(ofText text).toArray⟩ : ByteArray) = text.toByteArray := by simp [ofText]
  simp only [text?, String.fromUTF8?, valid, text.isValidUTF8, dif_pos]
  rfl

end Bytes

end Coherence
