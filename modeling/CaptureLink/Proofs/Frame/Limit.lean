import CaptureLink.Frame.Receiver
import CaptureLink.Proofs.Varint.Denotation

/-
  Lengths beyond the limit.  A frame is refused for its length
  exactly if the 64 bits that are read of the length exceed
  the limit.  So the limit holds for every length of 64 bits,
  however it is spelled.  A ten-byte length beyond them is
  taken for the rest that 64 bits have room for, and may slip
  through.

  Main statements:
    * `Frame.LengthRefused`
    * `Frame.lengthRefused_locate_iff`
    * `Frame.lengthRefused_decode_iff`
    * `Frame.Receiver.lengthRefused_nextBody_iff`
    * `Frame.limit_kept`
-/

namespace CaptureLink

namespace Frame

------------------------------------------------------------
-- Refusals for a length
------------------------------------------------------------

/- The length alone is what is wrong. -/
def Defect.ofLength : Defect → Bool
| .lengthOverflow => true
| .tooLarge _ _ => true
| _ => false

/- Nothing is given out or waited for, because of a length. -/
def LengthRefused
    {α : Type}
    (result : Except Defect α) : Prop :=
  ∃ defect, result = .error defect ∧ defect.ofLength = true

section Refusing

variable {α β : Type}

/- A result is no refusal. -/
theorem not_lengthRefused_ok (result : α) :
    ¬ LengthRefused (.ok result : Except Defect α) := by
  rintro ⟨defect, hError, _⟩
  cases hError

/- Whether a defect refuses a length is up to the defect. -/
theorem lengthRefused_error_iff (defect : Defect) :
    LengthRefused (.error defect : Except Defect α) ↔
      defect.ofLength = true := by
  constructor
  · rintro ⟨defect', hError, hLength⟩
    cases hError
    exact hLength
  · intro hLength
    exact ⟨defect, rfl, hLength⟩

/- What changes a result leaves the refusal of a length alone. -/
theorem lengthRefused_map_iff
    {result : Except Defect α}
    (f : α → β) :
    LengthRefused (result.map f) ↔ LengthRefused result := by
  cases result with
  | ok a =>
      exact iff_of_false (not_lengthRefused_ok _)
        (not_lengthRefused_ok _)
  | error defect =>
      simp only [Except.map, lengthRefused_error_iff]

/- Where no step refuses a length, both together do not. -/
theorem not_lengthRefused_bind
    {result : Except Defect α}
    {next : α → Except Defect β}
    (hFirst : ¬ LengthRefused result)
    (hNext : ∀ a, ¬ LengthRefused (next a)) :
    ¬ LengthRefused (result >>= next) := by
  cases result with
  | ok a => exact hNext a
  | error defect =>
      rw [lengthRefused_error_iff] at hFirst
      exact fun hRefused =>
        hFirst ((lengthRefused_error_iff defect).mp hRefused)

/- A body may fail its check, but not for a length. -/
theorem not_lengthRefused_verify
    (crc : UInt32)
    (body : List UInt8) :
    ¬ LengthRefused (verify crc body) := by
  unfold verify
  by_cases hSame : crc = Crc32.checksum body
  · simp only [hSame, if_true]
    exact not_lengthRefused_ok _
  · simp only [hSame, if_false, lengthRefused_error_iff]
    exact Bool.false_ne_true

/- It may give no message, but not for a length. -/
theorem not_lengthRefused_message (body : List UInt8) :
    ¬ LengthRefused (message body) := by
  unfold message
  cases Envelope.ofBody body with
  | ok e => exact not_lengthRefused_ok e
  | error defect =>
      rw [Except.mapError, lengthRefused_error_iff]
      exact Bool.false_ne_true

end Refusing

------------------------------------------------------------
-- Frames
------------------------------------------------------------

section Frames

variable {limit length used : Nat}
variable {bytes : List UInt8}

/- A length that can be read is refused exactly beyond the limit. -/
theorem lengthRefused_locate_iff
    (hRead : Varint.read bytes = .value length used) :
    LengthRefused (locate limit bytes) ↔ limit < length := by
  by_cases hLong : limit < length
  · simp only [locate, hRead, hLong, if_true,
      lengthRefused_error_iff, Defect.ofLength]
  · simp only [locate, hRead, hLong, if_false, iff_false]
    split
    · exact not_lengthRefused_ok _
    · split
      · exact not_lengthRefused_ok _
      · exact not_lengthRefused_ok _

/- Reading one frame refuses a length where looking for it does. -/
theorem lengthRefused_decode_iff :
    LengthRefused (decode limit bytes) ↔
      LengthRefused (locate limit bytes) := by
  unfold decode
  cases locate limit bytes with
  | error defect =>
      simp only [lengthRefused_error_iff]
  | ok found =>
      simp only [not_lengthRefused_ok, iff_false]
      cases found with
      | none =>
          rw [lengthRefused_error_iff]
          exact Bool.false_ne_true
      | some span =>
          by_cases hAll : span.stop = bytes.length
          · simp only [hAll, if_true]
            exact not_lengthRefused_bind
              (not_lengthRefused_verify _ _)
              not_lengthRefused_message
          · simp only [hAll, if_false, lengthRefused_error_iff]
            exact Bool.false_ne_true

/- So does a receiver. -/
theorem Receiver.lengthRefused_nextBody_iff (r : Receiver) :
    LengthRefused r.nextBody.2 ↔
      LengthRefused (locate r.limit r.buffer) := by
  unfold nextBody
  cases locate r.limit r.buffer with
  | error defect => simp only [lengthRefused_error_iff]
  | ok found =>
      refine iff_of_false ?_ (not_lengthRefused_ok _)
      cases found with
      | none => exact not_lengthRefused_ok _
      | some span =>
          rw [lengthRefused_map_iff]
          exact not_lengthRefused_verify _ _

/- A length beyond the limit is named in the refusal. -/
theorem locate_of_long
    (hRead : Varint.read bytes = .value length used)
    (hLong : limit < length) :
    locate limit bytes = .error (.tooLarge length limit) := by
  simp only [locate, hRead, hLong, if_true]

end Frames

------------------------------------------------------------
-- The limit
------------------------------------------------------------

/-
  Bytes begin with a length of up to ten bytes that denotes a
  number beyond the limit, however large and however spelled.
  Then reading them as one frame and taking a frame out of
  them refuse the length exactly if what 64 bits keep of it is
  beyond the limit as well.  If there is nothing in a tenth
  byte but its lowest bit then all of it is kept, and it is
  named in the refusal.
-/
theorem limit_kept
    (limit : Nat)
    {front : List UInt8}
    (rest : List UInt8)
    (hClosed : Varint.Closed front)
    (hPlaces : front.length ≤ Varint.maxBytes)
    (hLong : limit < Varint.denoted front) :
    let bytes := front ++ rest
    let receiver : Receiver := ⟨limit, bytes⟩
    let size := Varint.denoted front
    (LengthRefused (decode limit bytes) ↔
        limit < size % 2 ^ 64) ∧
      (LengthRefused receiver.nextBody.2 ↔
        limit < size % 2 ^ 64) ∧
      ((∀ b, front[9]? = some b → b.toNat < 2) →
        decode limit bytes = .error (.tooLarge size limit) ∧
          receiver.nextBody =
            (receiver, .error (.tooLarge size limit))) := by
  intro bytes receiver size
  have hRead :
      Varint.read bytes =
        .value (size % 2 ^ 64) front.length :=
    Varint.read_closed_append rest hClosed hPlaces
  refine ⟨?_, ?_, fun hTenth => ?_⟩
  · rw [lengthRefused_decode_iff,
      lengthRefused_locate_iff hRead]
  · rw [Receiver.lengthRefused_nextBody_iff]
    exact lengthRefused_locate_iff hRead
  · have hFits : size < 2 ^ 64 :=
      (Varint.denoted_lt_iff hClosed hPlaces).mpr hTenth
    rw [Nat.mod_eq_of_lt hFits] at hRead
    have hLocate :
        locate limit bytes = .error (.tooLarge size limit) :=
      locate_of_long hRead hLong
    constructor
    · simp only [decode, hLocate]
    · simp only [Receiver.nextBody, receiver, hLocate]

/- The number five in ten bytes. -/
def longFive : List UInt8 :=
  [0x85, 0x80, 0x80, 0x80, 0x80, 0x80, 0x80, 0x80, 0x80, 0x00]

/- It is refused where three bytes are allowed. -/
theorem limit_kept_long_five :
    Varint.Closed longFive ∧
      longFive.length ≤ Varint.maxBytes ∧
      3 < Varint.denoted longFive ∧
      decode 3 (longFive ++ [0, 0, 0, 0]) =
        .error (.tooLarge 5 3) := by
  have hClosed : Varint.Closed longFive := by decide
  have hTenth :
      ∀ b, longFive[9]? = some b → b.toNat < 2 := by
    intro b hLast
    cases hLast
    decide
  rcases limit_kept 3 [0, 0, 0, 0] hClosed (by decide)
      (by decide) with ⟨_, _, hRefused⟩
  exact ⟨hClosed, by decide, by decide, (hRefused hTenth).1⟩

/- The number 2 ^ 64 in ten bytes. -/
def beyondWord : List UInt8 :=
  [0x80, 0x80, 0x80, 0x80, 0x80, 0x80, 0x80, 0x80, 0x80, 0x02]

/-
  It is taken for a length of zero, and an empty body is given
  out where one byte is allowed.
-/
theorem limit_evaded_beyond_word :
    Varint.Closed beyondWord ∧
      beyondWord.length ≤ Varint.maxBytes ∧
      1 < Varint.denoted beyondWord ∧
      (Receiver.mk 1 (beyondWord ++ [0, 0, 0, 0])).nextBody =
        (⟨1, []⟩, .ok (some [])) ∧
      ¬ LengthRefused
        (decode 1 (beyondWord ++ [0, 0, 0, 0])) := by
  have hLocate :
      locate 1 (beyondWord ++ [0, 0, 0, 0]) =
        .ok (some ⟨14, 14, 0⟩) := by
    decide +kernel
  refine ⟨by decide, by decide, by decide, by decide +kernel, ?_⟩
  rw [lengthRefused_decode_iff, hLocate]
  exact not_lengthRefused_ok _

end Frame

end CaptureLink
