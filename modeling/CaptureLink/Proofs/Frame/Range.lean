import CaptureLink.Frame.Abort
import CaptureLink.Proofs.Varint

/-
  Positions that are there.  While the position behind a frame
  is a number of 64 bits, every byte that is taken to find the
  frame and to take it out is there.  This is so for all bytes
  exactly if the limit leaves room for the longest length and
  the checksum, fourteen bytes, below 2 ^ 64.  Under any limit
  beyond, some ten bytes end the program.

  Main statements:
    * `Frame.InRange`
    * `Frame.inRange_of_sum_fits`
    * `Frame.survives_iff`
-/

namespace CaptureLink

namespace Frame

------------------------------------------------------------
-- Bytes that are read in range
------------------------------------------------------------

/-
  The sum of an announced length that is allowed with what is
  in front of the body is a number of 64 bits.
-/
def SumFits
    (limit : Nat)
    (bytes : List UInt8) : Prop :=
  ∀ length used,
    Varint.read bytes = .value length used →
      length ≤ limit →
        used + checksumSize + length < 2 ^ 64

/-
  Looking at the front of the bytes, a program computes no
  position that wraps, and takes no byte that is not there.
-/
structure InRange
    (limit : Nat)
    (bytes : List UInt8) : Prop where
  sum_fits : SumFits limit bytes
  bounds :
    ∀ span,
      locate limit bytes = .ok (some span) →
        span.start ≤ span.stop ∧ span.stop ≤ bytes.length
  decode_survives : decodeAborts limit bytes = false
  receiver_survives : (Receiver.mk limit bytes).aborts = false

/- Bytes are there exactly if their positions are in order. -/
theorem holds_iff
    {bytes : List UInt8}
    {start stop : Nat} :
    holds bytes start stop = true ↔
      start ≤ stop ∧ stop ≤ bytes.length := by
  simp only [holds, Bool.and_eq_true, decide_eq_true_eq]

section Fitting

variable {limit : Nat}
variable {bytes : List UInt8}

/- A sum of 64 bits is the first position behind the frame. -/
theorem stopOf_of_sum_lt
    {length used : Nat}
    (hSum : used + checksumSize + length < 2 ^ 64) :
    stopOf used length = used + checksumSize + length :=
  Nat.mod_eq_of_lt hSum

/-
  Then a frame that is found begins in front of its end, and
  the end is there.
-/
theorem bounds_of_sum_fits
    {span : Span}
    (hFits : SumFits limit bytes)
    (hLocate : locate limit bytes = .ok (some span)) :
    span.start ≤ span.stop ∧ span.stop ≤ bytes.length := by
  cases hRead : Varint.read bytes with
  | overflow => simp [locate, hRead] at hLocate
  | incomplete => simp [locate, hRead] at hLocate
  | value length used =>
      by_cases hLong : limit < length
      · simp [locate, hRead, hLong] at hLocate
      have hStop :=
        stopOf_of_sum_lt
          (hFits length used hRead (Nat.le_of_not_lt hLong))
      by_cases hMissing : bytes.length < stopOf used length
      · simp [locate, hRead, hLong, hMissing] at hLocate
      simp only [locate, hRead, hLong, hMissing, if_false]
        at hLocate
      split at hLocate
      · cases hLocate
        dsimp only
        omega
      · cases hLocate

/- And its checksum is there. -/
theorem locateAborts_of_sum_fits
    (hFits : SumFits limit bytes) :
    locateAborts limit bytes = false := by
  cases hRead : Varint.read bytes with
  | overflow => simp only [locateAborts, hRead]
  | incomplete => simp only [locateAborts, hRead]
  | value length used =>
      simp only [locateAborts, hRead]
      split
      · rfl
      · rename_i hArrived
        rw [not_or, Nat.not_lt, Nat.not_lt] at hArrived
        have hStop :=
          stopOf_of_sum_lt (hFits length used hRead hArrived.1)
        rw [Bool.not_eq_false', holds_iff]
        omega

/- So nothing goes wrong where the sum is a number of 64 bits. -/
theorem inRange_of_sum_fits
    (hFits : SumFits limit bytes) : InRange limit bytes where
  sum_fits := hFits
  bounds := fun _ => bounds_of_sum_fits hFits
  decode_survives := by
    unfold decodeAborts
    rw [locateAborts_of_sum_fits hFits, Bool.false_or]
    split
    · rename_i span hLocate
      rw [holds_iff.mpr (bounds_of_sum_fits hFits hLocate),
        Bool.not_true, Bool.and_false]
    · rfl
  receiver_survives := by
    unfold Receiver.aborts
    rw [locateAborts_of_sum_fits hFits, Bool.false_or]
    split
    · rename_i span hLocate
      rw [holds_iff.mpr (bounds_of_sum_fits hFits hLocate),
        Bool.not_true]
    · rfl

/- Fourteen bytes are the most that stand in front of a body. -/
theorem sum_fits_of_room
    (hRoom : limit + 14 < 2 ^ 64) : SumFits limit bytes := by
  intro length used hRead hAllowed
  rcases Varint.read_value_bounds hRead with ⟨_, _, hUsed⟩
  unfold Varint.maxBytes at hUsed
  unfold checksumSize
  omega

end Fitting

------------------------------------------------------------
-- Limits without room
------------------------------------------------------------

/- The number 2 ^ 64 - 14 in ten bytes. -/
def lastRoom : List UInt8 :=
  [0xF2, 0xFF, 0xFF, 0xFF, 0xFF, 0xFF, 0xFF, 0xFF, 0xFF, 0x01]

theorem read_lastRoom :
    Varint.read lastRoom = .value (2 ^ 64 - 14) 10 := by
  decide +kernel

/- With this length the position behind the frame wraps to the front. -/
theorem locateAborts_lastRoom
    {limit : Nat}
    (hAllowed : 2 ^ 64 - 14 ≤ limit) :
    locateAborts limit lastRoom = true := by
  have hStop : stopOf 10 (2 ^ 64 - 14) = 0 := by
    decide
  have hArrived :
      ¬ (limit < 2 ^ 64 - 14 ∨
        lastRoom.length < stopOf 10 (2 ^ 64 - 14)) := by
    rw [hStop]
    omega
  simp only [locateAborts, read_lastRoom, hArrived, if_false]
  decide

/-
  Under a limit every byte string is read in range, and none
  ends the program that reads one frame or that takes frames
  out, exactly if fourteen bytes have room behind the limit.
-/
theorem survives_iff (limit : Nat) :
    ((∀ bytes, InRange limit bytes) ↔ limit + 14 < 2 ^ 64) ∧
      ((∀ bytes, decodeAborts limit bytes = false) ↔
        limit + 14 < 2 ^ 64) ∧
      ((∀ bytes, (Receiver.mk limit bytes).aborts = false) ↔
        limit + 14 < 2 ^ 64) := by
  by_cases hRoom : limit + 14 < 2 ^ 64
  · have hRange : ∀ bytes, InRange limit bytes :=
      fun _ => inRange_of_sum_fits (sum_fits_of_room hRoom)
    simp only [hRoom, iff_true]
    exact ⟨hRange, fun bytes => (hRange bytes).decode_survives,
      fun bytes => (hRange bytes).receiver_survives⟩
  · have hAllowed : 2 ^ 64 - 14 ≤ limit := by
      omega
    have hDecode : decodeAborts limit lastRoom = true := by
      rw [decodeAborts, locateAborts_lastRoom hAllowed,
        Bool.true_or]
    have hReceiver :
        (Receiver.mk limit lastRoom).aborts = true := by
      rw [Receiver.aborts, locateAborts_lastRoom hAllowed,
        Bool.true_or]
    simp only [hRoom, iff_false]
    refine ⟨fun hRange => ?_, fun hNever => ?_, fun hNever => ?_⟩
    · rw [(hRange lastRoom).decode_survives] at hDecode
      cases hDecode
    · rw [hNever lastRoom] at hDecode
      cases hDecode
    · rw [hNever lastRoom] at hReceiver
      cases hReceiver

/-
  Under the greatest limit of 64 bits, bytes that announce the
  greatest such body end both programs: the sum is beyond 2 ^
  64, thirteen bytes are taken for a whole frame without a
  checksum, and of fourteen a body is to be taken that ends in
  front of its beginning.
-/
theorem limit_without_room :
    let front : List UInt8 :=
      [0xFF, 0xFF, 0xFF, 0xFF, 0xFF, 0xFF, 0xFF, 0xFF, 0xFF, 0x01]
    Varint.read front = .value (2 ^ 64 - 1) 10 ∧
      ¬ 10 + checksumSize + (2 ^ 64 - 1) < 2 ^ 64 ∧
      decodeAborts (2 ^ 64 - 1) (front ++ [0, 0, 0]) = true ∧
      locate (2 ^ 64 - 1) (front ++ [0, 0, 0, 0]) =
        .ok (some ⟨14, 13, 0⟩) ∧
      (Receiver.mk (2 ^ 64 - 1)
        (front ++ [0, 0, 0, 0])).aborts = true := by
  intro front
  exact ⟨by decide +kernel, by decide, by decide +kernel,
    by decide +kernel, by decide +kernel⟩

end Frame

end CaptureLink
