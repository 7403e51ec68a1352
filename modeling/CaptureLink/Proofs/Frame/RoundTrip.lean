import CaptureLink.Frame
import CaptureLink.Proofs.Crc32
import CaptureLink.Proofs.Envelope.Json
import CaptureLink.Proofs.Varint

/-
  Frames give back the messages they were made of.  A message
  has a frame exactly if every number in it has a numeral and
  its body is within the limit, and the frame is read back to
  the same message, bit for bit.

  Main statements:
    * `Frame.carriable_iff`
    * `Frame.encode_eq_ok_iff`
    * `Frame.locate_layOut_append`
    * `Frame.decode_layOut`
    * `Frame.decode_assemble`
    * `Frame.decode_encode`
-/

namespace CaptureLink

namespace Frame

------------------------------------------------------------
-- What has a frame
------------------------------------------------------------

/- A message can be carried if its transform is finite. -/
theorem carriable_iff (e : Envelope) :
    carriable e = true ↔
      ∀ t, e.transform? = some t → t.isFinite = true := by
  unfold carriable
  cases e.transform? with
  | none => simp
  | some t => simp

/- Exactly these messages have a frame, the one around the body. -/
theorem encode_eq_ok_iff
    (limit : Nat)
    (e : Envelope)
    (frame : List UInt8) :
    encode limit e = .ok frame ↔
      (∀ t, e.transform? = some t → t.isFinite = true) ∧
        e.toBody.length ≤ limit ∧
        frame = assemble e.toBody := by
  rw [← carriable_iff]
  unfold encode
  by_cases hCarriable : carriable e = true
  · by_cases hLong : limit < e.toBody.length
    · simp only [hCarriable, hLong, if_true, reduceCtorEq,
        false_iff]
      rintro ⟨_, hShort, _⟩
      omega
    · have hShort : e.toBody.length ≤ limit := by
        omega
      simp only [hCarriable, hLong, hShort, if_true, if_false,
        Except.ok.injEq, true_and]
      exact eq_comm
  · simp [hCarriable]

------------------------------------------------------------
-- Finding the frame
------------------------------------------------------------

/-
  A length, a checksum and a body in the order of a frame.
  The length may take more bytes than it needs, and the
  checksum need not be that of the body.
-/
def layOut
    (front : List UInt8)
    (crc : UInt32)
    (body : List UInt8) : List UInt8 :=
  front ++ (Crc32.toBytes crc ++ body)

@[simp] theorem length_layOut
    (front : List UInt8)
    (crc : UInt32)
    (body : List UInt8) :
    (layOut front crc body).length =
      front.length + checksumSize + body.length := by
  simp only [layOut, Crc32.toBytes, checksumSize,
    List.length_append, List.length_cons, List.length_nil]
  omega

/- The frame around a body is laid out so. -/
theorem assemble_eq_layOut (body : List UInt8) :
    assemble body =
      layOut (Varint.write body.length) (Crc32.checksum body)
        body :=
  rfl

/- A frame is its length, its checksum and its body. -/
theorem length_assemble (body : List UInt8) :
    (assemble body).length =
      (Varint.write body.length).length + checksumSize +
        body.length :=
  length_layOut _ _ _

/- The length of a frame is a 64-bit number if its body is short. -/
theorem length_assemble_lt
    {body : List UInt8}
    (hBody : body.length < 2 ^ 63) :
    (assemble body).length < 2 ^ 64 := by
  have hWrite : (Varint.write body.length).length ≤ 10 :=
    Varint.length_write_le (by omega)
  rw [length_assemble, checksumSize]
  omega

section LaidOut

variable {limit : Nat}
variable {front body : List UInt8}

/- Such bytes are found at the front of a stream. -/
theorem locate_layOut_append
    (crc : UInt32)
    (rest : List UInt8)
    (hFront : Varint.read front = .value body.length front.length)
    (hMemory : (layOut front crc body).length < 2 ^ 64)
    (hLimit : body.length ≤ limit) :
    locate limit (layOut front crc body ++ rest) =
      .ok (some
        { start := front.length + checksumSize
          stop := (layOut front crc body).length
          crc := crc }) := by
  have hLength := length_layOut front crc body
  have hStop :
      stopOf front.length body.length =
        (layOut front crc body).length := by
    rw [stopOf, ← hLength]
    exact Nat.mod_eq_of_lt hMemory
  have hRead :
      Varint.read (layOut front crc body ++ rest) =
        .value body.length front.length := by
    rw [layOut, List.append_assoc,
      Varint.read_append front _ (by simp [hFront]), hFront]
  have hBehind :
      (layOut front crc body ++ rest).drop front.length =
        Crc32.toBytes crc ++ (body ++ rest) := by
    rw [layOut, List.append_assoc, List.drop_left,
      List.append_assoc]
  simp only [locate, hRead, hStop, hBehind, List.length_append,
    Crc32.toBytes, List.cons_append, Crc32.ofBytes_toBytes]
  rw [if_neg (by omega), if_neg (by omega)]

/- Their body is where they have it. -/
theorem body_layOut_append
    (front body rest : List UInt8)
    (crc : UInt32) :
    Span.body
        ⟨front.length + checksumSize,
          (layOut front crc body).length, crc⟩
        (layOut front crc body ++ rest) =
      body := by
  have hSplit :
      layOut front crc body ++ rest =
        (front ++ Crc32.toBytes crc) ++ (body ++ rest) := by
    simp only [layOut, List.append_assoc]
  have hStart :
      front.length + checksumSize =
        (front ++ Crc32.toBytes crc).length := by
    simp [Crc32.toBytes, checksumSize]
  have hSize :
      (layOut front crc body).length -
          (front.length + checksumSize) =
        body.length := by
    rw [length_layOut]
    omega
  simp only [Span.body, hSize]
  rw [hSplit, hStart, List.drop_left, List.take_left]

/- What they say is what their body says, if it has the checksum. -/
theorem decode_layOut
    (crc : UInt32)
    (hFront : Varint.read front = .value body.length front.length)
    (hMemory : (layOut front crc body).length < 2 ^ 64)
    (hLimit : body.length ≤ limit) :
    decode limit (layOut front crc body) =
      (verify crc body >>= message) := by
  have hLocate :=
    locate_layOut_append crc [] hFront hMemory hLimit
  have hBody := body_layOut_append front body [] crc
  rw [List.append_nil] at hLocate hBody
  simp only [decode, hLocate, if_true, hBody]

end LaidOut

------------------------------------------------------------
-- Reading the frame
------------------------------------------------------------

/- A body passes the check against its own checksum. -/
theorem verify_checksum (body : List UInt8) :
    verify (Crc32.checksum body) body = .ok body := by
  simp [verify]

/- What a frame says is what its body says. -/
theorem decode_assemble
    {limit : Nat}
    {body : List UInt8}
    (hMemory : (assemble body).length < 2 ^ 64)
    (hLimit : body.length ≤ limit) :
    decode limit (assemble body) = message body := by
  have hWord : body.length < 2 ^ 64 := by
    rw [length_assemble] at hMemory
    omega
  rw [assemble_eq_layOut] at hMemory ⊢
  rw [decode_layOut _ (Varint.read_write hWord) hMemory hLimit,
    verify_checksum]
  rfl

/- The body of a message that can be carried gives it back. -/
theorem message_toBody
    {e : Envelope}
    (hFinite : ∀ t, e.transform? = some t → t.isFinite = true) :
    message e.toBody = .ok e := by
  simp only [message, Envelope.ofBody_toBody hFinite]
  rfl

/-
  A message has a frame exactly if its transform, if any, is
  finite and its body is within the limit.  The frame is read
  back to the message under every limit that admits the body,
  provided that its length is a 64-bit number, as that of
  every byte string in memory is.
-/
theorem decode_encode
    (limit : Nat)
    (e : Envelope) :
    ((∃ frame, encode limit e = .ok frame) ↔
      (∀ t, e.transform? = some t → t.isFinite = true) ∧
        e.toBody.length ≤ limit) ∧
    (∀ frame,
      encode limit e = .ok frame →
      frame.length < 2 ^ 64 →
      ∀ limit', e.toBody.length ≤ limit' →
        decode limit' frame = .ok e) := by
  refine ⟨⟨?_, ?_⟩, ?_⟩
  · rintro ⟨frame, hEncode⟩
    rcases (encode_eq_ok_iff limit e frame).mp hEncode with
      ⟨hFinite, hShort, _⟩
    exact ⟨hFinite, hShort⟩
  · rintro ⟨hFinite, hShort⟩
    exact ⟨assemble e.toBody,
      (encode_eq_ok_iff limit e _).mpr
        ⟨hFinite, hShort, rfl⟩⟩
  · intro frame hEncode hMemory limit' hLimit
    rcases (encode_eq_ok_iff limit e frame).mp hEncode with
      ⟨hFinite, _, hFrame⟩
    subst hFrame
    rw [decode_assemble hMemory hLimit, message_toBody hFinite]

/-
  A message with a quote, a line break and a letter of two
  bytes in its name, and with the negative zero, the least
  subnormal and the greatest number in its transform.
-/
def extremes : Envelope :=
  .fresh "é\"\n" (.motionUpdate
    { translation :=
        { x := ⟨0x8000000000000000⟩
          y := ⟨1⟩
          z := ⟨0x7FEFFFFFFFFFFFFF⟩ }
      orientation := .zero })

theorem decode_encode_extremes :
    ∃ frame,
      encode 169 extremes = .ok frame ∧
        frame.length < 2 ^ 64 ∧
        decode 169 frame = .ok extremes := by
  have hBody : extremes.toBody.length = 169 := by
    decide +kernel
  have hFinite :
      ∀ t, extremes.transform? = some t → t.isFinite = true :=
    (carriable_iff extremes).mp (by decide)
  rcases (decode_encode 169 extremes).1.mpr
      ⟨hFinite, hBody.le⟩ with ⟨frame, hEncode⟩
  have hMemory : frame.length < 2 ^ 64 := by
    rw [((encode_eq_ok_iff 169 extremes frame).mp hEncode).2.2]
    exact length_assemble_lt (by omega)
  exact ⟨frame, hEncode, hMemory,
    (decode_encode 169 extremes).2 frame hEncode hMemory 169
      hBody.le⟩

end Frame

end CaptureLink
