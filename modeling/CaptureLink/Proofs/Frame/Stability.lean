import CaptureLink.Frame.Receiver
import CaptureLink.Proofs.Varint

/-
  What some bytes say about the frame at their front stands
  when more bytes arrive.  Either the stream cannot be read
  on, or a frame is taken out, or bytes are missing, and only
  the last answer can change.

  Main statements:
    * `Frame.locate_cases`
    * `Frame.Receiver.nextEnvelope_cases`
-/

namespace CaptureLink

namespace Frame

------------------------------------------------------------
-- Finding frames
------------------------------------------------------------

section Locating

variable {limit length used : Nat}
variable {bytes : List UInt8}

/- Below 2^63 the first position behind a frame does not wrap. -/
theorem stopOf_eq
    (hLength : length < 2 ^ 63)
    (hUsed : used ≤ Varint.maxBytes) :
    stopOf used length = used + checksumSize + length := by
  have hSize : UInt64.size = 2 ^ 64 := rfl
  unfold Varint.maxBytes at hUsed
  rw [stopOf, checksumSize, hSize]
  omega

/- Bytes behind the length hold a checksum if there are four. -/
theorem exists_crc
    {bs : List UInt8}
    (hLength : checksumSize ≤ bs.length) :
    ∃ b₀ b₁ b₂ b₃ behind,
      bs = b₀ :: b₁ :: b₂ :: b₃ :: behind := by
  match bs, hLength with
  | b₀ :: b₁ :: b₂ :: b₃ :: behind, _ =>
      exact ⟨b₀, b₁, b₂, b₃, behind, rfl⟩

/- A length without enough bytes behind it is no frame yet. -/
theorem locate_eq_none
    (hLength : length < 2 ^ 63)
    (hRead : Varint.read bytes = .value length used)
    (hAllowed : length ≤ limit)
    (hMissing : bytes.length < used + checksumSize + length) :
    locate limit bytes = .ok none := by
  rcases Varint.read_value_bounds hRead with ⟨_, _, hUsed⟩
  have hStop :
      stopOf used length = used + checksumSize + length :=
    stopOf_eq hLength hUsed
  simp only [locate, hRead, hStop]
  rw [if_neg (by omega), if_pos hMissing]

/- A length with enough bytes behind it is a frame. -/
theorem exists_locate_eq_some
    (hLength : length < 2 ^ 63)
    (hRead : Varint.read bytes = .value length used)
    (hAllowed : length ≤ limit)
    (hWhole : used + checksumSize + length ≤ bytes.length) :
    ∃ crc, ∀ more,
      locate limit (bytes ++ more) =
        .ok (some
          { start := used + checksumSize
            stop := used + checksumSize + length
            crc := crc }) := by
  rcases Varint.read_value_bounds hRead with
    ⟨_, hWithin, hUsed⟩
  have hStop :
      stopOf used length = used + checksumSize + length :=
    stopOf_eq hLength hUsed
  have hLong : checksumSize ≤ (bytes.drop used).length := by
    rw [List.length_drop]
    omega
  rcases exists_crc hLong with
    ⟨b₀, b₁, b₂, b₃, behind, hDrop⟩
  refine ⟨Crc32.ofBytes b₀ b₁ b₂ b₃, fun more => ?_⟩
  have hReadMore :
      Varint.read (bytes ++ more) = .value length used := by
    rw [Varint.read_append bytes more (by simp [hRead]), hRead]
  have hDropMore :
      (bytes ++ more).drop used =
        b₀ :: b₁ :: b₂ :: b₃ :: (behind ++ more) := by
    rw [List.drop_append_of_le_length hWithin, hDrop]
    rfl
  simp only [locate, hReadMore, hStop, hDropMore,
    List.length_append]
  rw [if_neg (by omega), if_neg (by omega)]

end Locating

/-
  All that can be said about the front of some bytes.  It
  stands whatever arrives, unless bytes are missing.
-/
theorem locate_cases
    {limit : Nat}
    (hLimit : limit < 2 ^ 63)
    (bytes : List UInt8) :
    (∀ more,
      locate limit (bytes ++ more) = .error .lengthOverflow) ∨
    (∃ size, ∀ more,
      locate limit (bytes ++ more) =
        .error (.tooLarge size limit)) ∨
    (∃ span : Span,
      span.start ≤ span.stop ∧
        0 < span.stop ∧
        span.stop ≤ bytes.length ∧
        ∀ more,
          locate limit (bytes ++ more) = .ok (some span)) ∨
    locate limit bytes = .ok none := by
  cases hRead : Varint.read bytes with
  | overflow =>
      left
      intro more
      have hReadMore :=
        Varint.read_append bytes more (by simp [hRead])
      simp only [locate, hReadMore, hRead]
  | incomplete =>
      right; right; right
      simp only [locate, hRead]
  | value length used =>
      by_cases hLarge : limit < length
      · right; left
        refine ⟨length, fun more => ?_⟩
        have hReadMore :=
          Varint.read_append bytes more (by simp [hRead])
        simp only [locate, hReadMore, hRead, hLarge, if_true]
      have hAllowed : length ≤ limit := Nat.le_of_not_lt hLarge
      by_cases hMissing :
          bytes.length < used + checksumSize + length
      · right; right; right
        exact locate_eq_none (by omega) hRead hAllowed hMissing
      · right; right; left
        have hWhole := Nat.le_of_not_lt hMissing
        rcases exists_locate_eq_some (by omega) hRead hAllowed
            hWhole with ⟨crc, hFound⟩
        refine ⟨_, ?_, ?_, hWhole, hFound⟩
        · exact Nat.le_add_right _ _
        · rcases Varint.read_value_bounds hRead with
            ⟨hPos, _, _⟩
          show 0 < used + checksumSize + length
          omega

/- The body of a frame stays when bytes arrive behind it. -/
theorem Span.body_append
    {span : Span}
    {bytes : List UInt8}
    (more : List UInt8)
    (hStart : span.start ≤ span.stop)
    (hStop : span.stop ≤ bytes.length) :
    span.body (bytes ++ more) = span.body bytes := by
  unfold Span.body
  rw [List.drop_append_of_le_length (by omega),
    List.take_append_of_le_length]
  rw [List.length_drop]
  omega

------------------------------------------------------------
-- Taking frames out
------------------------------------------------------------

/- The stream can be read on behind such a result. -/
def ReadsOn : Except Defect Envelope → Prop
| .ok _ => True
| .error defect => defect.recoverable = true

/- A result that can be read on behind is no missing byte. -/
theorem map_some_ne_none
    (result : Except Defect Envelope) :
    result.map some ≠ .ok none := by
  cases result with
  | ok e =>
      intro hEq
      cases hEq
  | error defect =>
      intro hEq
      cases hEq

/- A defect is the same as an outcome and as a result. -/
theorem eq_error_of_map_some
    {result : Except Defect Envelope}
    {defect : Defect}
    (hEq : result.map some = .error defect) :
    result = .error defect := by
  cases result with
  | ok e => cases hEq
  | error other =>
      cases hEq
      rfl

/- Different results are different outcomes. -/
theorem map_some_injective
    {result other : Except Defect Envelope}
    (hEq : result.map some = other.map some) :
    result = other := by
  cases other with
  | ok e =>
      cases result with
      | ok e' =>
          cases hEq
          rfl
      | error defect => cases hEq
  | error defect => exact eq_error_of_map_some hEq

/- A defect behind which a stream can be read on halts none. -/
theorem not_halts_of_readsOn
    {result : Except Defect Envelope}
    {defect : Defect}
    (hReadsOn : ReadsOn result)
    (hHalts : defect.recoverable = false) :
    result.map some ≠ .error defect := by
  intro hEq
  rw [eq_error_of_map_some hEq] at hReadsOn
  have hRecoverable : defect.recoverable = true := hReadsOn
  rw [hHalts] at hRecoverable
  cases hRecoverable

/- It can behind every frame that was found, whatever is in it. -/
theorem readsOn_verify_message
    (crc : UInt32)
    (body : List UInt8) :
    ReadsOn (verify crc body >>= message) := by
  unfold verify
  by_cases hCrc : crc = Crc32.checksum body
  · simp only [hCrc, if_true]
    change ReadsOn (message body)
    unfold message
    cases Envelope.ofBody body with
    | ok e => exact True.intro
    | error defect =>
        cases defect with
        | notJson => rfl
        | noHeader => rfl
        | unreadableHeader => rfl
  · simp only [hCrc, if_false]
    rfl

namespace Receiver

/- Nothing arrives. -/
theorem push_nil (r : Receiver) :
    r.push [] = r := by
  simp [push]

/- Pieces arrive one after the other or in one. -/
theorem push_append
    (r : Receiver)
    (bytes more : List UInt8) :
    r.push (bytes ++ more) = (r.push bytes).push more := by
  simp [push]

/- Where a frame is found, it is taken out with what it says. -/
theorem nextEnvelope_of_span
    {r : Receiver}
    {span : Span}
    (hLocate : locate r.limit r.buffer = .ok (some span)) :
    r.nextEnvelope =
      ( { r with buffer := r.buffer.drop span.stop },
        (verify span.crc (span.body r.buffer) >>= message).map
          some ) := by
  simp only [nextEnvelope, nextBody, hLocate]
  cases verify span.crc (span.body r.buffer) with
  | ok body => rfl
  | error defect => rfl

/-
  All that a receiver can answer.  It stands whatever
  arrives, and leaves what arrives in the buffer, unless
  bytes are missing.
-/
theorem nextEnvelope_cases
    {r : Receiver}
    (hLimit : r.limit < 2 ^ 63) :
    (∃ defect,
      defect.recoverable = false ∧
        ∀ more,
          (r.push more).nextEnvelope =
            (r.push more, .error defect)) ∨
    (∃ (r' : Receiver) (result : Except Defect Envelope),
      r'.limit = r.limit ∧
        r'.buffered < r.buffered ∧
        ReadsOn result ∧
        ∀ more,
          (r.push more).nextEnvelope =
            (r'.push more, result.map some)) ∨
    r.nextEnvelope = (r, .ok none) := by
  rcases locate_cases hLimit r.buffer with
    hOverflow | ⟨size, hLarge⟩ |
      ⟨span, hStart, hPos, hStop, hFound⟩ | hNone
  · left
    refine ⟨.lengthOverflow, rfl, fun more => ?_⟩
    simp only [nextEnvelope, nextBody, push, hOverflow more]
  · left
    refine ⟨.tooLarge size r.limit, rfl, fun more => ?_⟩
    simp only [nextEnvelope, nextBody, push, hLarge more]
  · right; left
    refine ⟨{ r with buffer := r.buffer.drop span.stop }, _, rfl,
      ?_, readsOn_verify_message span.crc (span.body r.buffer),
      fun more => ?_⟩
    · simp only [buffered, List.length_drop]
      omega
    · have hNext :
          (r.push more).nextEnvelope = _ :=
        nextEnvelope_of_span (hFound more)
      rw [hNext]
      simp only [push, Span.body_append more hStart hStop,
        List.drop_append_of_le_length hStop]
  · right; right
    simp only [nextEnvelope, nextBody, hNone]

/- An answer that stands whatever arrives is the answer here. -/
theorem nextEnvelope_of_push
    {r r' : Receiver}
    {outcome : Except Defect (Option Envelope)}
    (hAny :
      ∀ more,
        (r.push more).nextEnvelope = (r'.push more, outcome)) :
    r.nextEnvelope = (r', outcome) := by
  have hHere := hAny []
  rw [push_nil, push_nil] at hHere
  exact hHere

/- A receiver that misses bytes stays as it is. -/
theorem eq_of_waits
    {r r' : Receiver}
    (hLimit : r.limit < 2 ^ 63)
    (hNext : r.nextEnvelope = (r', .ok none)) :
    r' = r := by
  rcases nextEnvelope_cases hLimit with
    ⟨defect, _, hAny⟩ | ⟨r₁, result, _, _, _, hAny⟩ |
      hHere
  · have hHere := nextEnvelope_of_push hAny
    rw [hNext] at hHere
    cases hHere
  · have hHere := nextEnvelope_of_push hAny
    rw [hNext] at hHere
    exact absurd (Prod.mk.inj hHere).2.symm (map_some_ne_none _)
  · rw [hNext] at hHere
    exact (Prod.mk.inj hHere).1

/- A frame that is taken out leaves what arrives behind it. -/
theorem push_of_takes
    {r r' : Receiver}
    {result : Except Defect Envelope}
    (hLimit : r.limit < 2 ^ 63)
    (hNext : r.nextEnvelope = (r', result.map some))
    (hReadsOn : ReadsOn result) :
    r'.limit = r.limit ∧
      r'.buffered < r.buffered ∧
      ∀ more,
        (r.push more).nextEnvelope =
          (r'.push more, result.map some) := by
  rcases nextEnvelope_cases hLimit with
    ⟨defect, hHalts, hAny⟩ |
      ⟨r₁, result₁, hSame, hFewer, _, hAny⟩ | hHere
  · have hHere := nextEnvelope_of_push hAny
    rw [hNext] at hHere
    exact absurd (Prod.mk.inj hHere).2
      (not_halts_of_readsOn hReadsOn hHalts)
  · have hHere := nextEnvelope_of_push hAny
    rw [hNext] at hHere
    rcases Prod.mk.inj hHere with ⟨hReceiver, hResult⟩
    subst hReceiver
    rw [map_some_injective hResult]
    exact ⟨hSame, hFewer, hAny⟩
  · rw [hNext] at hHere
    exact absurd (Prod.mk.inj hHere).2 (map_some_ne_none _)

/- A defect that halts the stream halts it whatever arrives. -/
theorem push_of_halts
    {r r' : Receiver}
    {defect : Defect}
    (hLimit : r.limit < 2 ^ 63)
    (hNext : r.nextEnvelope = (r', .error defect))
    (hHalts : defect.recoverable = false)
    (more : List UInt8) :
    (r.push more).nextEnvelope =
      (r.push more, .error defect) := by
  rcases nextEnvelope_cases hLimit with
    ⟨defect₁, _, hAny⟩ | ⟨r₁, result, _, _, hReadsOn, hAny⟩ |
      hHere
  · have hHere := nextEnvelope_of_push hAny
    rw [hNext] at hHere
    rw [hAny more, (Prod.mk.inj hHere).2]
  · have hHere := nextEnvelope_of_push hAny
    rw [hNext] at hHere
    exact absurd (Prod.mk.inj hHere).2.symm
      (not_halts_of_readsOn hReadsOn hHalts)
  · rw [hNext] at hHere
    cases hHere

end Receiver

end Frame

end CaptureLink
