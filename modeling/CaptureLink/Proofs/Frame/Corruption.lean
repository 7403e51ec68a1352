import CaptureLink.Proofs.Crc32.Detection
import CaptureLink.Proofs.Frame.RoundTrip
import CaptureLink.Proofs.Frame.Stability

/-
  Damage on the way is noticed.  A frame that arrives with
  another checksum, or with other bytes in a window of four
  bytes of its body, is a frame whose checksum is not that of
  its body.  It is refused for that reason, and a receiver
  takes it out of the stream and leaves what follows it.

  Main statements:
    * `Frame.DiffersWithin`
    * `Frame.Receiver.nextBody_layOut`
    * `Frame.exists_layOut_of_checksum_damage`
    * `Frame.exists_layOut_of_body_damage`
    * `Frame.damage_detected`
-/

namespace CaptureLink

namespace Frame

------------------------------------------------------------
-- Damage
------------------------------------------------------------

/-
  Byte strings of one length that differ, but only at some of
  the `count` places from `first` on.
-/
structure DiffersWithin
    (first count : Nat)
    (bytes bytes' : List UInt8) : Prop where
  length_eq : bytes'.length = bytes.length
  differs : bytes' ≠ bytes
  same :
    ∀ place,
      place < first ∨ first + count ≤ place →
        bytes'[place]? = bytes[place]?

namespace DiffersWithin

variable {first count : Nat}
variable {bytes bytes' : List UInt8}

/- What stands in front of the places is the same. -/
theorem take_eq
    (hDiffers : DiffersWithin first count bytes bytes') :
    bytes'.take first = bytes.take first := by
  apply List.ext_getElem?
  intro place
  rw [List.getElem?_take, List.getElem?_take]
  by_cases hFront : place < first
  · rw [if_pos hFront, if_pos hFront,
      hDiffers.same place (.inl hFront)]
  · rw [if_neg hFront, if_neg hFront]

/- What stands behind them is the same. -/
theorem drop_eq
    (hDiffers : DiffersWithin first count bytes bytes') :
    bytes'.drop (first + count) = bytes.drop (first + count) := by
  apply List.ext_getElem?
  intro place
  rw [List.getElem?_drop, List.getElem?_drop,
    hDiffers.same _ (.inr (Nat.le_add_right _ _))]

/- Both are a window between the same bytes. -/
theorem exists_window
    (hDiffers : DiffersWithin first count bytes bytes') :
    ∃ window',
      bytes' =
          bytes.take first ++
            (window' ++ bytes.drop (first + count)) ∧
        window'.length =
          ((bytes.drop first).take count).length ∧
        window' ≠ (bytes.drop first).take count := by
  have hSplit :
      ∀ bs : List UInt8,
        bs =
          bs.take first ++
            ((bs.drop first).take count ++
              bs.drop (first + count)) := by
    intro bs
    rw [← List.drop_drop, List.take_append_drop,
      List.take_append_drop]
  have hBytes' := hSplit bytes'
  rw [hDiffers.take_eq, hDiffers.drop_eq] at hBytes'
  refine ⟨_, hBytes', ?_, ?_⟩
  · rw [List.length_take, List.length_drop, List.length_take,
      List.length_drop, hDiffers.length_eq]
  · intro hSame
    rw [hSame] at hBytes'
    exact hDiffers.differs (hBytes'.trans (hSplit bytes).symm)

end DiffersWithin

------------------------------------------------------------
-- Frames with a wrong checksum
------------------------------------------------------------

section Wrong

variable {limit : Nat}
variable {front body : List UInt8}
variable {crc : UInt32}

/- A checksum that is not that of the body is refused. -/
theorem verify_of_ne
    (hWrong : crc ≠ Crc32.checksum body) :
    verify crc body =
      .error (.checksum crc (Crc32.checksum body)) := by
  simp only [verify, hWrong, if_false]

/- So are bytes that carry it. -/
theorem decode_layOut_of_ne
    (hFront : Varint.read front = .value body.length front.length)
    (hMemory : (layOut front crc body).length < 2 ^ 64)
    (hLimit : body.length ≤ limit)
    (hWrong : crc ≠ Crc32.checksum body) :
    decode limit (layOut front crc body) =
      .error (.checksum crc (Crc32.checksum body)) := by
  rw [decode_layOut crc hFront hMemory hLimit,
    verify_of_ne hWrong]
  rfl

namespace Receiver

/- A receiver takes the body out, and leaves what follows it. -/
theorem nextBody_layOut
    (rest : List UInt8)
    (hFront : Varint.read front = .value body.length front.length)
    (hMemory : (layOut front crc body).length < 2 ^ 64)
    (hLimit : body.length ≤ limit) :
    ((empty limit).push (layOut front crc body ++ rest)).nextBody =
      ((empty limit).push rest, (verify crc body).map some) := by
  have hLocate :=
    locate_layOut_append crc rest hFront hMemory hLimit
  have hBody := body_layOut_append front body rest crc
  simp only [nextBody, empty, push, List.nil_append, hLocate,
    hBody, List.drop_left]

/- A wrong checksum is what it answers with. -/
theorem nextBody_layOut_of_ne
    (rest : List UInt8)
    (hFront : Varint.read front = .value body.length front.length)
    (hMemory : (layOut front crc body).length < 2 ^ 64)
    (hLimit : body.length ≤ limit)
    (hWrong : crc ≠ Crc32.checksum body) :
    ((empty limit).push (layOut front crc body ++ rest)).nextBody =
      ((empty limit).push rest,
        .error (.checksum crc (Crc32.checksum body))) := by
  rw [nextBody_layOut rest hFront hMemory hLimit,
    verify_of_ne hWrong]
  rfl

end Receiver

end Wrong

------------------------------------------------------------
-- Damaged frames
------------------------------------------------------------

/- Where the checksum of a frame is, behind its length. -/
def checksumPlace (body : List UInt8) : Nat :=
  (Varint.write body.length).length

/- Where its body is. -/
def bodyPlace (body : List UInt8) : Nat :=
  checksumPlace body + checksumSize

/- Four bytes are a checksum. -/
theorem exists_toBytes_eq
    {bytes : List UInt8}
    (hLength : bytes.length = checksumSize) :
    ∃ crc, bytes = Crc32.toBytes crc := by
  match bytes, hLength with
  | [b₀, b₁, b₂, b₃], _ =>
      exact ⟨Crc32.ofBytes b₀ b₁ b₂ b₃,
        (Crc32.toBytes_ofBytes b₀ b₁ b₂ b₃).symm⟩

section Damaged

variable {body damaged : List UInt8}

/- A frame with another checksum has a wrong checksum. -/
theorem exists_layOut_of_checksum_damage
    (hDamage :
      DiffersWithin (checksumPlace body) checksumSize
        (assemble body) damaged) :
    ∃ crc,
      damaged = layOut (Varint.write body.length) crc body ∧
        crc ≠ Crc32.checksum body := by
  rcases hDamage.exists_window with
    ⟨window', hDamaged, hLength, hDiffers⟩
  have hFront :
      (assemble body).take (checksumPlace body) =
        Varint.write body.length :=
    List.take_left
  have hBehind :
      (assemble body).drop (checksumPlace body) =
        Crc32.toBytes (Crc32.checksum body) ++ body :=
    List.drop_left
  have hWindow :
      ((assemble body).drop (checksumPlace body)).take
          checksumSize =
        Crc32.toBytes (Crc32.checksum body) := by
    rw [hBehind]
    rfl
  have hBody :
      (assemble body).drop (checksumPlace body + checksumSize) =
        body := by
    rw [← List.drop_drop, hBehind]
    rfl
  rw [hWindow] at hLength hDiffers
  rcases exists_toBytes_eq hLength with ⟨crc, rfl⟩
  refine ⟨crc, ?_, ?_⟩
  · rw [hDamaged, hFront, hBody]
    rfl
  · rintro rfl
    exact hDiffers rfl

/-
  A frame with other bytes in a window of its body has the
  checksum of another body, which is a wrong checksum.
-/
theorem exists_layOut_of_body_damage
    {first : Nat}
    (hDamage :
      DiffersWithin (bodyPlace body + first) 4
        (assemble body) damaged) :
    ∃ body',
      damaged =
          layOut (Varint.write body.length)
            (Crc32.checksum body) body' ∧
        body'.length = body.length ∧
        Crc32.checksum body ≠ Crc32.checksum body' := by
  rcases hDamage.exists_window with
    ⟨window', hDamaged, hLength, hDiffers⟩
  have hFrame :
      assemble body =
        (Varint.write body.length ++
          Crc32.toBytes (Crc32.checksum body)) ++ body := by
    rw [assemble, List.append_assoc]
  have hPlace :
      (Varint.write body.length ++
          Crc32.toBytes (Crc32.checksum body)).length =
        bodyPlace body := by
    simp [bodyPlace, checksumPlace, Crc32.toBytes, checksumSize]
  have hTake :
      (assemble body).take (bodyPlace body + first) =
        (Varint.write body.length ++
          Crc32.toBytes (Crc32.checksum body)) ++
          body.take first := by
    rw [hFrame, ← hPlace, List.take_length_add_append]
  have hDrop :
      ∀ places,
        (assemble body).drop (bodyPlace body + places) =
          body.drop places := by
    intro places
    rw [hFrame, ← hPlace, List.drop_length_add_append]
  rw [hTake, Nat.add_assoc, hDrop] at hDamaged
  rw [hDrop] at hLength hDiffers
  have hBody :
      body =
        body.take first ++
          ((body.drop first).take 4 ++ body.drop (first + 4)) := by
    rw [← List.drop_drop, List.take_append_drop,
      List.take_append_drop]
  have hShort : ((body.drop first).take 4).length ≤ 4 := by
    rw [List.length_take]
    exact Nat.min_le_left _ _
  refine ⟨body.take first ++ (window' ++ body.drop (first + 4)),
    ?_, ?_, ?_⟩
  · rw [hDamaged]
    simp only [layOut, List.append_assoc]
  · conv => rhs; rw [hBody]
    simp only [List.length_append, hLength]
  · have hDetected :=
      Crc32.checksum_ne_of_window (body.take first)
        (body.drop (first + 4)) hLength hShort hDiffers
    rw [← hBody] at hDetected
    exact hDetected.symm

end Damaged

/-
  A frame whose checksum was changed, or whose body was
  changed within a window of four bytes, is refused for its
  checksum under every limit that admits the body.  A receiver
  answers the same, takes exactly the damaged frame out of the
  stream, and leaves exactly the bytes behind it.
-/
theorem damage_detected
    {limit : Nat}
    {e : Envelope}
    {frame damaged : List UInt8}
    (hEncode : encode limit e = .ok frame)
    (hMemory : frame.length < 2 ^ 64)
    (hDamage :
      DiffersWithin (checksumPlace e.toBody) checksumSize frame
          damaged ∨
        ∃ first,
          DiffersWithin (bodyPlace e.toBody + first) 4 frame
            damaged)
    {limit' : Nat}
    (hLimit : e.toBody.length ≤ limit') :
    ∃ expected actual,
      expected ≠ actual ∧
        decode limit' damaged =
          .error (.checksum expected actual) ∧
        ∀ rest,
          ((Receiver.empty limit').push
              (damaged ++ rest)).nextBody =
            ((Receiver.empty limit').push rest,
              .error (.checksum expected actual)) ∧
          ((Receiver.empty limit').push
              (damaged ++ rest)).nextEnvelope =
            ((Receiver.empty limit').push rest,
              .error (.checksum expected actual)) := by
  rcases (encode_eq_ok_iff limit e frame).mp hEncode with
    ⟨_, _, rfl⟩
  obtain ⟨crc, body, rfl, hLength, hWrong⟩ :
      ∃ crc body,
        damaged =
            layOut (Varint.write e.toBody.length) crc body ∧
          body.length = e.toBody.length ∧
          crc ≠ Crc32.checksum body := by
    rcases hDamage with hDamage | ⟨first, hDamage⟩
    · rcases exists_layOut_of_checksum_damage hDamage with
        ⟨crc, hDamaged, hWrong⟩
      exact ⟨crc, e.toBody, hDamaged, rfl, hWrong⟩
    · rcases exists_layOut_of_body_damage hDamage with
        ⟨body, hDamaged, hLength, hWrong⟩
      exact ⟨_, body, hDamaged, hLength, hWrong⟩
  have hWord : body.length < 2 ^ 64 := by
    rw [length_assemble] at hMemory
    omega
  rw [← hLength] at hLimit ⊢
  have hFront :
      Varint.read (Varint.write body.length) =
        .value body.length (Varint.write body.length).length :=
    Varint.read_write hWord
  have hSmall :
      (layOut (Varint.write body.length) crc body).length <
        2 ^ 64 := by
    rw [length_assemble, ← hLength] at hMemory
    rw [length_layOut]
    exact hMemory
  refine ⟨crc, Crc32.checksum body, hWrong,
    decode_layOut_of_ne hFront hSmall hLimit hWrong, ?_⟩
  intro rest
  have hNext :=
    Receiver.nextBody_layOut_of_ne rest hFront hSmall hLimit
      hWrong
  refine ⟨hNext, ?_⟩
  rw [Receiver.nextEnvelope, hNext]

/- A client asks for the mode. -/
def modeQuestion : Envelope :=
  .fresh "a" .motionGetMode

/- Two bytes of its body, three places apart, are lost. -/
def damagedQuestion : List UInt8 :=
  ((assemble modeQuestion.toBody).set 25 0).set 28 0

theorem damage_detected_two_bytes :
    encode 54 modeQuestion = .ok (assemble modeQuestion.toBody) ∧
      DiffersWithin (bodyPlace modeQuestion.toBody + 20) 4
        (assemble modeQuestion.toBody) damagedQuestion ∧
      ∃ expected actual,
        expected ≠ actual ∧
          decode 54 damagedQuestion =
            .error (.checksum expected actual) := by
  have hBody : modeQuestion.toBody.length = 54 := by
    decide +kernel
  have hPlace : bodyPlace modeQuestion.toBody = 5 := by
    rw [bodyPlace, checksumPlace, hBody,
      Varint.write_of_lt (by decide)]
    rfl
  have hEncode :
      encode 54 modeQuestion =
        .ok (assemble modeQuestion.toBody) :=
    (encode_eq_ok_iff 54 modeQuestion _).mpr
      ⟨(carriable_iff modeQuestion).mp rfl, hBody.le, rfl⟩
  have hDamage :
      DiffersWithin (bodyPlace modeQuestion.toBody + 20) 4
        (assemble modeQuestion.toBody) damagedQuestion := by
    refine ⟨by simp [damagedQuestion], by decide +kernel, ?_⟩
    intro place hOutside
    rw [hPlace] at hOutside
    rw [damagedQuestion, List.getElem?_set_ne (by omega),
      List.getElem?_set_ne (by omega)]
  rcases damage_detected hEncode
      (length_assemble_lt (by omega)) (.inr ⟨20, hDamage⟩)
      hBody.le with
    ⟨expected, actual, hDiffer, hDecode, _⟩
  exact ⟨hEncode, hDamage, expected, actual, hDiffer, hDecode⟩

end Frame

end CaptureLink
