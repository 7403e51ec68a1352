import CaptureLink.Proofs.Frame.Chunking

/-
  How much can wait at the receiving end of a stream.  A
  reader asks a receiver again and again, and reads the next
  piece of the stream only when bytes are missing.  What has
  bytes missing is shorter than the longest frame, so the
  sender cannot make more wait than such a frame and a piece.

  Main statements:
    * `Frame.Receiver.buffered_of_waits`
    * `Frame.Reader`
    * `Frame.Reader.next?`
    * `Frame.Reader.next?_cases`
    * `Frame.Reader.bounded_next`
    * `Frame.Reader.bounded_after`
    * `Frame.Reader.exists_after_of_feeds`
    * `Frame.Reader.buffer_bounded`
-/

namespace CaptureLink

namespace Frame

------------------------------------------------------------
-- Missing bytes
------------------------------------------------------------

/-
  Bytes that are no frame yet are fewer than a length of ten
  bytes, a checksum and the longest body have together.
-/
theorem length_lt_of_locate_none
    {limit : Nat}
    {bytes : List UInt8}
    (hNone : locate limit bytes = .ok none) :
    bytes.length < limit + 14 := by
  cases hRead : Varint.read bytes with
  | overflow =>
      simp only [locate, hRead, reduceCtorEq] at hNone
  | incomplete =>
      have hOpen := Varint.read_incomplete_bound hRead
      rw [Varint.maxBytes] at hOpen
      omega
  | value length used =>
      have hUsed := (Varint.read_value_bounds hRead).2.2
      rw [Varint.maxBytes] at hUsed
      by_cases hLong : limit < length
      · simp only [locate, hRead, hLong, if_true, reduceCtorEq]
          at hNone
      by_cases hMissing : bytes.length < stopOf used length
      · have hStop :
            stopOf used length ≤ used + checksumSize + length :=
          Nat.mod_le _ _
        rw [checksumSize] at hStop
        omega
      -- The frame seems to be there, but its checksum is not.
      · have hShort : (bytes.drop used).length < checksumSize := by
          by_contra hFour
          rcases exists_crc (Nat.le_of_not_lt hFour) with
            ⟨b₀, b₁, b₂, b₃, behind, hDrop⟩
          simp only [locate, hRead, hLong, hMissing, hDrop,
            if_false, Except.ok.injEq, reduceCtorEq] at hNone
        rw [List.length_drop, checksumSize] at hShort
        omega

/- A receiver that misses bytes has no more than these. -/
theorem Receiver.buffered_of_waits
    {r r' : Receiver}
    (hNext : r.nextEnvelope = (r', .ok none)) :
    r'.buffered < r.limit + 14 := by
  cases hLocate : locate r.limit r.buffer with
  | error defect =>
      simp only [nextEnvelope, nextBody, hLocate] at hNext
      cases hNext
  | ok found =>
      cases found with
      | none =>
          simp only [nextEnvelope, nextBody, hLocate] at hNext
          cases hNext
          exact length_lt_of_locate_none hLocate
      | some span =>
          rw [nextEnvelope_of_span hLocate] at hNext
          exact absurd (Prod.mk.inj hNext).2
            (map_some_ne_none _)

------------------------------------------------------------
-- Readers
------------------------------------------------------------

/- A receiver, and the pieces of the stream that are to come. -/
structure Reader where
  receiver : Receiver
  coming : List (List UInt8)
deriving DecidableEq

namespace Reader

/- The most bytes that are read at once. -/
def pieceSize : Nat := 8192

/-
  What a reader does next: it asks its receiver, and reads a
  piece if bytes are missing.  It stops behind a defect behind
  which the stream cannot be read on, and where the stream
  ends.
-/
def next? (reader : Reader) : Option Reader :=
  match reader.receiver.nextEnvelope with
  | (receiver, .ok (some _)) => some ⟨receiver, reader.coming⟩
  | (receiver, .ok none) =>
      match reader.coming with
      | [] => none
      | piece :: pieces => some ⟨receiver.push piece, pieces⟩
  | (receiver, .error defect) =>
      if defect.recoverable then some ⟨receiver, reader.coming⟩
      else none

/- The reader when it has done so a number of times. -/
def after : Nat → Reader → Option Reader
| 0, reader => some reader
| count + 1, reader => reader.next?.bind (after count)

/- To go on is to go on from there. -/
theorem after_add
    (count more : Nat)
    (reader : Reader) :
    after (count + more) reader =
      (after count reader).bind (after more) := by
  induction count generalizing reader with
  | zero => rw [Nat.zero_add]; rfl
  | succ count ih =>
      rw [Nat.add_right_comm, after, after]
      cases reader.next? with
      | none => rfl
      | some reader' => exact ih reader'

------------------------------------------------------------
-- One step
------------------------------------------------------------

section OneStep

variable {r r' : Receiver}
variable {coming : List (List UInt8)}

/- A result that can be read on behind is taken. -/
theorem next?_of_takes
    (result : Except Defect Envelope)
    (hNext : r.nextEnvelope = (r', result.map some))
    (hReadsOn : ReadsOn result) :
    next? ⟨r, coming⟩ = some ⟨r', coming⟩ := by
  cases result with
  | ok e =>
      have hOk : r.nextEnvelope = (r', .ok (some e)) := hNext
      simp only [next?, hOk]
  | error defect =>
      have hError : r.nextEnvelope = (r', .error defect) := hNext
      have hRecoverable : defect.recoverable = true := hReadsOn
      simp only [next?, hError, hRecoverable, if_true]

/- Where bytes are missing, a piece is read. -/
theorem next?_of_waits
    {piece : List UInt8}
    (hNext : r.nextEnvelope = (r', .ok none)) :
    next? ⟨r, piece :: coming⟩ =
      some ⟨r'.push piece, coming⟩ := by
  simp only [next?, hNext]

/- Behind any other defect the reader stops. -/
theorem next?_of_halts
    {defect : Defect}
    (hNext : r.nextEnvelope = (r', .error defect))
    (hHalts : defect.recoverable = false) :
    next? ⟨r, coming⟩ = none := by
  simp only [next?, hNext, hHalts, Bool.false_eq_true, if_false]

end OneStep

/- A reader has taken a result, or read a piece. -/
theorem next?_cases
    {reader reader' : Reader}
    (hNext : reader.next? = some reader') :
    (∃ result,
      ReadsOn result ∧
        reader.receiver.nextEnvelope =
          (reader'.receiver, result.map some) ∧
        reader'.coming = reader.coming) ∨
    ∃ waiting piece,
      reader.receiver.nextEnvelope = (waiting, .ok none) ∧
        reader.coming = piece :: reader'.coming ∧
        reader'.receiver = waiting.push piece := by
  obtain ⟨r, coming⟩ := reader
  rcases hAsked : r.nextEnvelope with ⟨r₁, (defect | found)⟩
  · cases hRecoverable : defect.recoverable with
    | false =>
        rw [next?_of_halts hAsked hRecoverable] at hNext
        cases hNext
    | true =>
        rw [next?_of_takes (.error defect) hAsked
          hRecoverable] at hNext
        cases hNext
        exact .inl ⟨.error defect, hRecoverable, rfl, rfl⟩
  · cases found with
    | some e =>
        rw [next?_of_takes (.ok e) hAsked
          True.intro] at hNext
        cases hNext
        exact .inl ⟨.ok e, True.intro, rfl, rfl⟩
    | none =>
        cases coming with
        | nil =>
            simp only [next?, hAsked, reduceCtorEq] at hNext
        | cons piece pieces =>
            rw [next?_of_waits hAsked] at hNext
            cases hNext
            exact .inr ⟨r₁, piece, rfl, rfl, rfl⟩

------------------------------------------------------------
-- The bound
------------------------------------------------------------

/-
  No more waits than the longest frame that has a byte missing
  and a piece, and no piece that is to come is longer.
-/
structure Bounded
    (limit most : Nat)
    (reader : Reader) : Prop where
  limit_eq : reader.receiver.limit = limit
  buffered_le : reader.receiver.buffered ≤ limit + 13 + most
  coming_le : ∀ piece ∈ reader.coming, piece.length ≤ most

section Running

variable {limit most : Nat}

/-
  A frame that is taken out makes room, and a piece is read
  only where a byte of the longest frame is missing.
-/
theorem bounded_next
    {reader reader' : Reader}
    (hLimit : limit < 2 ^ 63)
    (hBounded : Bounded limit most reader)
    (hNext : reader.next? = some reader') :
    Bounded limit most reader' := by
  rcases hBounded with ⟨hSame, hBuffered, hComing⟩
  have hLimit' : reader.receiver.limit < 2 ^ 63 := by
    rwa [hSame]
  rcases next?_cases hNext with
    ⟨result, hReadsOn, hAsked, hLater⟩ |
      ⟨waiting, piece, hAsked, hLater, hPushed⟩
  · rcases Receiver.push_of_takes hLimit' hAsked hReadsOn with
      ⟨hKept, hFewer, _⟩
    exact ⟨hKept.trans hSame, hFewer.le.trans hBuffered,
      by rwa [hLater]⟩
  · have hWaiting := Receiver.buffered_of_waits hAsked
    rw [hLater, List.forall_mem_cons] at hComing
    rw [hSame] at hWaiting
    refine ⟨?_, ?_, hComing.2⟩
    · rw [hPushed, Receiver.eq_of_waits hLimit' hAsked]
      exact hSame
    · rw [Receiver.buffered] at hWaiting
      rw [hPushed, Receiver.buffered, Receiver.push,
        List.length_append]
      have hPiece := hComing.1
      omega

/- So it stays, however long the reader goes on. -/
theorem bounded_after
    (count : Nat)
    {reader reader' : Reader}
    (hLimit : limit < 2 ^ 63)
    (hBounded : Bounded limit most reader)
    (hAfter : after count reader = some reader') :
    Bounded limit most reader' := by
  induction count generalizing reader with
  | zero =>
      cases hAfter
      exact hBounded
  | succ count ih =>
      rcases Option.bind_eq_some_iff.mp hAfter with
        ⟨between, hNext, hRest⟩
      exact ih (bounded_next hLimit hBounded hNext) hRest

end Running

------------------------------------------------------------
-- The stream as a whole
------------------------------------------------------------

section Draining

variable {r : Receiver}
variable {h : Receiver.Harvest}

/-
  A reader that drains its receiver gets where draining gets,
  and stops there if the stream cannot be read on.
-/
theorem exists_after_of_drains
    (coming : List (List UInt8))
    (hDrains : Receiver.Drains r h)
    (hLimit : r.limit < 2 ^ 63) :
    ∃ count,
      after count ⟨r, coming⟩ = some ⟨h.receiver, coming⟩ ∧
        (h.halted ≠ none →
          next? ⟨h.receiver, coming⟩ = none) := by
  induction hDrains with
  | waits hNext =>
      rw [Receiver.eq_of_waits hLimit hNext]
      exact ⟨0, rfl, fun hHalted => absurd rfl hHalted⟩
  | takes hNext hReadsOn _ ih =>
      rcases Receiver.push_of_takes hLimit hNext hReadsOn with
        ⟨hSame, _, _⟩
      rcases ih (by rwa [hSame]) with ⟨count, hAfter, hStops⟩
      refine ⟨count + 1, ?_, hStops⟩
      rw [after, next?_of_takes _ hNext hReadsOn,
        Option.bind_some]
      exact hAfter
  | halts hNext hHalts =>
      have hSame :=
        Receiver.push_of_halts hLimit hNext hHalts []
      rw [Receiver.push_nil] at hSame
      have hKept := hNext.symm.trans hSame
      refine ⟨0, ?_, fun _ => ?_⟩
      · rw [after, (Prod.mk.inj hKept).1]
      · rw [(Prod.mk.inj hKept).1]
        exact next?_of_halts hSame hHalts

/-
  A reader of a stream stops, with the receiver that feeding
  the stream leaves.
-/
theorem exists_after_of_feeds
    {pieces : List (List UInt8)}
    (hFeeds : Receiver.Feeds r pieces h)
    (hLimit : r.limit < 2 ^ 63)
    (hRest : Receiver.AtRest r) :
    ∃ count rest,
      after count ⟨r, pieces⟩ = some ⟨h.receiver, rest⟩ ∧
        next? ⟨h.receiver, rest⟩ = none := by
  induction hFeeds with
  | @done r =>
      have hWaits : r.nextEnvelope = (r, .ok none) := hRest
      refine ⟨0, [], rfl, ?_⟩
      simp only [next?, hWaits]
  | @halted r piece pieces now defect hNow hHalted =>
      rcases exists_after_of_drains pieces hNow hLimit with
        ⟨count, hAfter, hStops⟩
      refine ⟨count + 1, pieces, ?_, hStops (by simp [hHalted])⟩
      rw [after, next?_of_waits hRest, Option.bind_some]
      exact hAfter
  | @next r piece pieces now later hNow hHalted _ ih =>
      rcases exists_after_of_drains pieces hNow hLimit with
        ⟨count, hAfter, _⟩
      rcases hNow.atRest hLimit hHalted with
        ⟨hResting, hSame⟩
      rcases ih (by rw [hSame]; exact hLimit) hResting with
        ⟨more, rest, hLater, hStops⟩
      refine ⟨count + more + 1, rest, ?_, hStops⟩
      rw [after, next?_of_waits hRest, Option.bind_some,
        after_add, hAfter, Option.bind_some]
      exact hLater

end Draining

/-
  Whatever a receiver holds, it misses bytes only with fewer
  than the limit and fourteen.  A stream arrives in pieces
  that are read at once.  Whenever its reader is looked at, no
  more bytes wait than the limit, thirteen and the longest
  piece; and the reader stops, with what feeding the stream to
  a receiver leaves.
-/
theorem buffer_bounded
    {limit : Nat}
    (hLimit : limit < 2 ^ 63) :
    (∀ buffer : List UInt8,
      let next := (⟨limit, buffer⟩ : Receiver).nextEnvelope
      next.2 = .ok none → next.1.buffered < limit + 14) ∧
    ∀ pieces : List (List UInt8),
      (∀ piece ∈ pieces, piece.length ≤ pieceSize) →
        let start : Reader := ⟨.empty limit, pieces⟩
        let left := ((Receiver.empty limit).feed pieces).receiver
        (∀ count reader,
          after count start = some reader →
            reader.receiver.buffered ≤ limit + 13 + pieceSize) ∧
        ∃ count rest,
          after count start = some ⟨left, rest⟩ ∧
            next? ⟨left, rest⟩ = none := by
  constructor
  · intro buffer next hWaits
    exact Receiver.buffered_of_waits (Prod.ext rfl hWaits)
  · intro pieces hPieces start left
    have hStart : Bounded limit pieceSize start :=
      ⟨rfl, Nat.zero_le _, hPieces⟩
    constructor
    · intro count reader hAfter
      exact (bounded_after count hLimit hStart hAfter).buffered_le
    · exact exists_after_of_feeds
        (Receiver.feeds_feed pieces hLimit) hLimit
        (Receiver.atRest_empty limit)

/- A frame of three bytes with a long length, but for one byte. -/
def almostThree : List UInt8 :=
  [0x83, 0x80, 0x80, 0x80, 0x80, 0x80, 0x80, 0x80, 0x80, 0x00,
    1, 2, 3, 4, 65, 66]

/- No bound is lower: as much as is allowed waits behind it. -/
theorem buffer_bounded_almost_three :
    let pieces := [almostThree, List.replicate pieceSize 0]
    let start : Reader := ⟨.empty 3, pieces⟩
    (3 : Nat) < 2 ^ 63 ∧
      (∀ piece ∈ pieces, piece.length ≤ pieceSize) ∧
      ∃ reader,
        after 2 start = some reader ∧
          reader.receiver.buffered ≤ 3 + 13 + pieceSize ∧
          reader.receiver.buffered = 3 + 13 + pieceSize := by
  intro pieces start
  have hPieces : ∀ piece ∈ pieces, piece.length ≤ pieceSize := by
    refine List.forall_mem_cons.mpr ⟨by decide, ?_⟩
    refine List.forall_mem_singleton.mpr ?_
    exact List.length_replicate.le
  have hAfter :
      after 2 start =
        some ⟨⟨3, almostThree ++ List.replicate pieceSize 0⟩,
          []⟩ := rfl
  refine ⟨by decide, hPieces, _, hAfter,
    ((buffer_bounded (by decide)).2 pieces hPieces).1 2 _ hAfter,
    ?_⟩
  rw [Receiver.buffered, List.length_append,
    List.length_replicate]
  rfl

end Reader

end Frame

end CaptureLink
