/-
  Texts as the bytes that spell them in UTF-8.

  Key definitions include:
    * `Text.bytes`
    * `Text.ofBytes?`
    * `Text.ofBytes?_bytes`
-/

namespace CaptureLink

namespace Text

/- The bytes that spell a text. -/
def bytes (s : String) : List UInt8 :=
  s.toUTF8.data.toList

/- The text that some bytes spell, if they are well formed. -/
def ofBytes? (bs : List UInt8) : Option String :=
  String.fromUTF8? ⟨bs.toArray⟩

/- A text is read back from its bytes. -/
theorem ofBytes?_bytes (s : String) :
    ofBytes? (bytes s) = some s := by
  have hBytes : (⟨(bytes s).toArray⟩ : ByteArray) = s.toUTF8 := by
    simp [bytes]
  unfold ofBytes?
  rw [hBytes]
  simp [String.fromUTF8?, String.fromUTF8, s.isValidUTF8]

end Text

end CaptureLink
