import CaptureLink.Proofs.Frame.Alignment
import CaptureLink.Proofs.Frame.Limit

/-
  Bytes that are read at once and bytes that arrive at a
  receiver.  Both ways look for the frame at the front alike.
  They part where bytes follow the frame: the receiver takes
  the frame out and keeps these bytes, and whoever wants one
  frame and nothing else refuses them, whatever is in the
  frame.

  Main statements:
    * `Frame.toFault_eq_truncated_iff`
    * `Frame.alone`
    * `Frame.decode_cases`
    * `Frame.decode_agrees`
-/

namespace CaptureLink

namespace Frame

------------------------------------------------------------
-- Names of defects
------------------------------------------------------------

/- A longer text is another one. -/
theorem codec_ne_truncated
    {text : String}
    (hLong : 15 < text.length) :
    Fault.codec text ≠ .codec "truncated frame" := by
  have hName : "truncated frame".length = 15 := by
    decide
  intro hEq
  rw [Fault.codec.inj hEq, hName] at hLong
  exact Nat.lt_irrefl 15 hLong

/-
  No defect but missing bytes is reported as such, whatever
  readers may say.
-/
theorem toFault_eq_truncated_iff
    (words : Diagnosis)
    (defect : Defect) :
    defect.toFault words = .codec "truncated frame" ↔
      defect = .truncated := by
  cases defect with
  | truncated => exact iff_of_true rfl rfl
  | lengthOverflow =>
      refine iff_of_false (fun hEq => ?_) nofun
      have hText : "VarInt overflow" = "truncated frame" :=
        Fault.codec.inj hEq
      exact absurd hText (by decide)
  | trailing count =>
      have hBehind :
          " trailing bytes after frame".length = 27 := by
        decide
      refine iff_of_false (codec_ne_truncated ?_) nofun
      rw [String.length_append, hBehind]
      omega
  | notFinite id =>
      have hFront :
          "non-finite transform in message ".length = 32 := by
        decide
      refine iff_of_false (codec_ne_truncated ?_) nofun
      rw [String.length_append, hFront]
      omega
  | notBase64 text =>
      have hFront : "Base64 decode error: ".length = 21 := by
        decide
      refine iff_of_false (codec_ne_truncated ?_) nofun
      rw [String.length_append, hFront]
      omega
  | tooLarge size limit => exact iff_of_false nofun nofun
  | checksum expected actual => exact iff_of_false nofun nofun
  | body defect bytes =>
      refine iff_of_false ?_ nofun
      cases defect with
      | notJson => exact nofun
      | noHeader => exact nofun
      | unreadableHeader => exact nofun

/- A result is reported as a defect of it is. -/
theorem mapError_eq_error_iff
    {α : Type}
    (words : Diagnosis)
    (result : Except Defect α)
    (fault : Fault) :
    result.mapError (Defect.toFault words) = .error fault ↔
      ∃ defect,
        result = .error defect ∧
          defect.toFault words = fault := by
  cases result with
  | ok a =>
      refine iff_of_false nofun ?_
      rintro ⟨defect, hEq, _⟩
      cases hEq
  | error defect =>
      simp only [Except.mapError, Except.error.injEq,
        exists_eq_left']

------------------------------------------------------------
-- Bytes behind a frame
------------------------------------------------------------

/-
  What reading at once makes of a frame with this result that
  has so many bytes behind it.
-/
def alone
    (result : Except Defect Envelope)
    (count : Nat) : Except Defect Envelope :=
  if count = 0 then result else .error (.trailing count)

section Alone

variable {result : Except Defect Envelope}
variable {count : Nat}

/- A message stays one if nothing is behind it. -/
theorem alone_eq_ok_iff (e : Envelope) :
    alone result count = .ok e ↔
      result.map some = .ok (some e) ∧ count = 0 := by
  have hSame :
      result = .ok e ↔ result.map some = .ok (some e) :=
    ⟨congrArg (Except.map some),
      fun hOk =>
        map_some_injective
          (show _ = Except.map some (.ok e) from hOk)⟩
  by_cases hNone : count = 0
  · rw [alone, if_pos hNone, and_iff_left hNone, hSame]
  · rw [alone, if_neg hNone]
    exact iff_of_false nofun fun hOk => hNone hOk.2

/- Of a frame that can be read on behind no bytes are missing. -/
theorem alone_ne_truncated (hReadsOn : ReadsOn result) :
    alone result count ≠ .error .truncated := by
  by_cases hNone : count = 0
  · rw [alone, if_pos hNone]
    rintro rfl
    cases hReadsOn
  · rw [alone, if_neg hNone]
    exact nofun

/- Bytes that are left are reported. -/
theorem alone_of_left (hLeft : 0 < count) :
    alone result count = .error (.trailing count) :=
  if_neg (Nat.ne_of_gt hLeft)

/- If none are, a defect of the frame is reported. -/
theorem exists_defect_of_alone
    (hNone : count = 0)
    (hDefect : ∀ e, alone result count ≠ .ok e) :
    ∃ defect,
      alone result count = .error defect ∧
        result.map some = .error defect := by
  rw [alone, if_pos hNone] at hDefect ⊢
  cases hResult : result with
  | ok e => exact absurd hResult (hDefect e)
  | error defect => exact ⟨defect, rfl, rfl⟩

end Alone

------------------------------------------------------------
-- Both ways
------------------------------------------------------------

/-
  A length is refused both ways; or bytes are missing both
  ways; or the receiver takes a frame out, and reading it at
  once says the same, unless bytes are left.
-/
theorem decode_cases
    {limit : Nat}
    (hLimit : limit < 2 ^ 63)
    (bytes : List UInt8) :
    let given := (Receiver.empty limit).push bytes
    (∃ defect,
      defect.ofLength = true ∧
        decode limit bytes = .error defect ∧
        given.nextEnvelope = (given, .error defect)) ∨
    (decode limit bytes = .error .truncated ∧
      given.nextEnvelope = (given, .ok none)) ∨
    ∃ left frame result,
      given.TakesOut left frame ∧
        ReadsOn result ∧
        given.nextEnvelope = (left, result.map some) ∧
        decode limit bytes = alone result left.buffered := by
  intro given
  -- Nothing was in the buffer before.
  have hBuffer : given.buffer = bytes := List.nil_append bytes
  have hRefused :
      ∀ defect,
        locate limit bytes = .error defect →
          decode limit bytes = .error defect ∧
            given.nextEnvelope = (given, .error defect) := by
    intro defect hLocate
    have hGiven :
        locate given.limit given.buffer = .error defect :=
      hLocate
    constructor
    · simp only [decode, hLocate]
    · simp only [Receiver.nextEnvelope, Receiver.nextBody, hGiven]
  rcases locate_cases hLimit bytes with
    hOverflow | ⟨size, hLarge⟩ | ⟨span, _, _, _, hFound⟩ | hNone
  · left
    have hLocate := hOverflow []
    rw [List.append_nil] at hLocate
    exact ⟨_, rfl, hRefused _ hLocate⟩
  · left
    have hLocate := hLarge []
    rw [List.append_nil] at hLocate
    exact ⟨_, rfl, hRefused _ hLocate⟩
  · right; right
    have hLocate := hFound []
    rw [List.append_nil] at hLocate
    have hGiven :
        locate given.limit given.buffer = .ok (some span) :=
      hLocate
    rcases whole_of_locate hLimit hGiven with ⟨hWithin, hWhole⟩
    refine ⟨{ given with buffer := given.buffer.drop span.stop },
      given.buffer.take span.stop, _,
      ⟨hWhole, (List.take_append_drop _ _).symm, rfl⟩,
      readsOn_verify_message span.crc _,
      Receiver.nextEnvelope_of_span hGiven, ?_⟩
    rw [hBuffer] at hWithin
    have hAll :
        span.stop = bytes.length ↔ bytes.length - span.stop = 0 := by
      omega
    simp only [decode, hLocate, alone, Receiver.buffered, hBuffer,
      List.length_drop, hAll]
  · right; left
    have hGiven :
        locate given.limit given.buffer = .ok none :=
      hNone
    constructor
    · simp only [decode, hNone]
    · simp only [Receiver.nextEnvelope, Receiver.nextBody, hGiven]

/-
  Reading some bytes at once gives a message exactly if a
  receiver that is given them answers with it and has nothing
  left, and reports missing bytes exactly if the receiver
  waits.  If the receiver takes a frame out and has bytes
  left, then these are reported.  In every other case there is
  one defect, which both name.
-/
theorem decode_agrees
    {limit : Nat}
    (hLimit : limit < 2 ^ 63)
    (words : Diagnosis)
    (bytes : List UInt8) :
    let given := (Receiver.empty limit).push bytes
    let left := given.nextEnvelope.1
    let answer := given.nextEnvelope.2
    let decoded := decode limit bytes
    let reported := decoded.mapError (Defect.toFault words)
    (∀ e,
      decoded = .ok e ↔
        answer = .ok (some e) ∧ left.buffered = 0) ∧
    (reported = .error (.codec "truncated frame") ↔
      answer = .ok none) ∧
    (∀ frame,
      given.TakesOut left frame →
      0 < left.buffered →
        reported =
          .error (.codec
            (left.buffered.repr ++
              " trailing bytes after frame"))) ∧
    ((∀ e, decoded ≠ .ok e) →
      answer ≠ .ok none →
      (∀ frame,
        given.TakesOut left frame → left.buffered = 0) →
        ∃ defect,
          decoded = .error defect ∧ answer = .error defect) := by
  intro given left answer decoded reported
  have hTruncated :
      reported = .error (.codec "truncated frame") ↔
        decoded = .error .truncated := by
    simp only [reported, mapError_eq_error_iff,
      toFault_eq_truncated_iff, exists_eq_right]
  rw [hTruncated]
  rcases decode_cases hLimit bytes with
    ⟨defect, hLength, hDecoded, hNext⟩ | ⟨hDecoded, hNext⟩ |
      ⟨left', frame, result, hTakes, hReadsOn, hNext, hDecoded⟩
  · have hStays : left = given := congrArg Prod.fst hNext
    have hAnswer : answer = .error defect :=
      congrArg Prod.snd hNext
    change decoded = _ at hDecoded
    rw [hDecoded, hAnswer]
    refine ⟨fun e => iff_of_false nofun nofun,
      iff_of_false ?_ nofun, fun frame hTakes => ?_,
      fun _ _ _ => ⟨defect, rfl, rfl⟩⟩
    · intro hEq
      cases hEq
      cases hLength
    · exact absurd hStays hTakes.ne
  · have hStays : left = given := congrArg Prod.fst hNext
    have hAnswer : answer = .ok none := congrArg Prod.snd hNext
    change decoded = _ at hDecoded
    rw [hDecoded, hAnswer]
    refine ⟨fun e => iff_of_false nofun nofun,
      iff_of_true rfl rfl, fun frame hTakes => ?_,
      fun _ hSome => absurd rfl hSome⟩
    exact absurd hStays hTakes.ne
  · have hLeft : left = left' := congrArg Prod.fst hNext
    have hAnswer : answer = result.map some :=
      congrArg Prod.snd hNext
    change decoded = _ at hDecoded
    rw [← hLeft] at hTakes hDecoded
    rw [hDecoded, hAnswer]
    refine ⟨alone_eq_ok_iff,
      iff_of_false (alone_ne_truncated hReadsOn)
        (map_some_ne_none result),
      fun _ _ hSome => ?_,
      fun hDefect _ hNothing =>
        exists_defect_of_alone (hNothing frame hTakes) hDefect⟩
    simp only [reported, hDecoded, alone_of_left hSome]
    rfl

/-
  One byte behind a frame without a body is reported as such;
  of a frame whose checksum fails both ways say the same.
-/
theorem decode_agrees_empty_body :
    let given := (Receiver.empty 16).push [0, 0, 0, 0, 0, 65]
    let left := given.nextEnvelope.1
    given.nextEnvelope.2 = .error (.body .notJson []) ∧
      left.buffered = 1 ∧
      (decode 16 [0, 0, 0, 0, 0, 65]).mapError
          (Defect.toFault (.constant "")) =
        .error (.codec
          ((1 : Nat).repr ++ " trailing bytes after frame")) ∧
      ∃ defect,
        decode 16 [0, 1, 0, 0, 0] = .error defect ∧
          ((Receiver.empty 16).push
            [0, 1, 0, 0, 0]).nextEnvelope.2 =
              .error defect := by
  intro given left
  have hLimit : 16 < 2 ^ 63 := by
    decide
  have hNext :
      given.nextEnvelope =
        (⟨16, [65]⟩, .error (.body .notJson [])) := by
    decide +kernel
  have hTakes : given.TakesOut left [0, 0, 0, 0, 0] := by
    rw [show left = _ from congrArg Prod.fst hNext]
    exact ⟨⟨0, 1, by decide +kernel, by decide, rfl⟩, rfl, rfl⟩
  have hOne : left.buffered = 1 := by
    rw [show left = _ from congrArg Prod.fst hNext]
    rfl
  have hTrailing :=
    (decode_agrees hLimit (.constant "")
      [0, 0, 0, 0, 0, 65]).2.2.1 _ hTakes
        (by rw [hOne]; exact Nat.one_pos)
  rw [hOne] at hTrailing
  have hCorrupt :
      decode 16 [0, 1, 0, 0, 0] = .error (.checksum 1 0) := by
    decide +kernel
  refine ⟨congrArg Prod.snd hNext, hOne, hTrailing, ?_⟩
  apply (decode_agrees hLimit (.constant "")
    [0, 1, 0, 0, 0]).2.2.2
  · intro e
    rw [hCorrupt]
    exact nofun
  · decide +kernel
  · intro frame _
    decide +kernel

end Frame

end CaptureLink
