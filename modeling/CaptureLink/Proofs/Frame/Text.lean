import CaptureLink.Proofs.Base64
import CaptureLink.Proofs.Frame.RoundTrip
import CaptureLink.Proofs.Text.Blank

/-
  Frames as text.  The message of a frame is read back from
  its text, whatever blanks stand around it.

  Main statements:
    * `Frame.encodeText_eq_ok_iff`
    * `Frame.decodeText_of_padded`
    * `Frame.decodeText_encodeText`
-/

namespace CaptureLink

namespace Frame

/- A message has a text exactly if it has a frame, which it spells. -/
theorem encodeText_eq_ok_iff
    (limit : Nat)
    (e : Envelope)
    (line : String) :
    encodeText limit e = .ok line ↔
      ∃ frame,
        encode limit e = .ok frame ∧
          line = Base64.encode frame := by
  unfold encodeText
  cases encode limit e with
  | error defect =>
      constructor
      · intro hOk
        cases hOk
      · rintro ⟨_, hOk, _⟩
        cases hOk
  | ok frame =>
      constructor
      · intro hOk
        cases hOk
        exact ⟨frame, rfl, rfl⟩
      · rintro ⟨_, hOk, rfl⟩
        cases hOk
        rfl

/- The text of a frame begins and ends with a sign. -/
theorem bare_encode (frame : List UInt8) :
    Text.Bare (Base64.encode frame).toList := by
  rw [Base64.encode, String.toList_ofList]
  apply Text.bare_of_visible
  intro c hMem
  exact Base64.isBlank_of_mem_encodeOnto frame hMem

/- Blanks around the text of a frame are passed over. -/
theorem decodeText_of_padded
    (limit : Nat)
    {text : String}
    {frame : List UInt8}
    (hPadded :
      Text.Padded text.toList (Base64.encode frame).toList) :
    decodeText limit text = decode limit frame := by
  rw [decodeText, Text.trim_of_padded hPadded (bare_encode frame),
    Base64.decode?_encode]

/- So the message is read back from its text. -/
theorem decodeText_encodeText
    {limit : Nat}
    {e : Envelope}
    {line text : String}
    (hLimit : limit < 2 ^ 63)
    (hEncode : encodeText limit e = .ok line)
    (hPadded : Text.Padded text.toList line.toList) :
    decodeText limit text = .ok e := by
  rcases (encodeText_eq_ok_iff limit e line).mp hEncode with
    ⟨frame, hFrame, rfl⟩
  rcases (encode_eq_ok_iff limit e frame).mp hFrame with
    ⟨hFinite, hShort, rfl⟩
  have hMemory : (assemble e.toBody).length < 2 ^ 64 :=
    length_assemble_lt (hShort.trans_lt hLimit)
  rw [decodeText_of_padded limit hPadded,
    decode_assemble hMemory hShort, message_toBody hFinite]

end Frame

end CaptureLink
