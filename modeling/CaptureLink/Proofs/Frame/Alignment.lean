import CaptureLink.Proofs.Frame.Chunking

/-
  A receiver stays aligned with the frames of its stream.  It
  takes out one whole frame, or it leaves the stream as it is;
  the former exactly if the stream can be read on, and a
  receiver that cannot read on says so for ever.  So what has
  arrived is always some whole frames, one for each result,
  and the bytes that are left.

  Main statements:
    * `Frame.Whole`
    * `Frame.Receiver.TakesOut`
    * `Frame.Receiver.takesOut_cases`
    * `Frame.Receiver.recoverable_iff`
    * `Frame.Receiver.ask_of_halted`
    * `Frame.Receiver.Drains.exists_frames`
    * `Frame.Receiver.Feeds.exists_frames`
    * `Frame.Receiver.length_results_feed`
-/

namespace CaptureLink

namespace Frame

------------------------------------------------------------
-- Whole frames
------------------------------------------------------------

/-
  Bytes that are one frame and nothing else, with a body
  within the limit.  Nothing is said about the checksum and
  the body.
-/
def Whole
    (limit : Nat)
    (frame : List UInt8) : Prop :=
  ∃ length used,
    Varint.read frame = .value length used ∧
      length ≤ limit ∧
      frame.length = used + checksumSize + length

/- A frame has a length of one byte at least, and a checksum. -/
theorem Whole.five_le
    {limit : Nat}
    {frame : List UInt8}
    (hWhole : Whole limit frame) :
    5 ≤ frame.length := by
  rcases hWhole with ⟨length, used, hRead, _, hLength⟩
  have hBounds := Varint.read_value_bounds hRead
  rw [checksumSize] at hLength
  omega

/- What is found at the front of some bytes is a whole frame. -/
theorem whole_of_locate
    {limit : Nat}
    {bytes : List UInt8}
    {span : Span}
    (hLimit : limit < 2 ^ 63)
    (hLocate : locate limit bytes = .ok (some span)) :
    span.stop ≤ bytes.length ∧
      Whole limit (bytes.take span.stop) := by
  cases hRead : Varint.read bytes with
  | overflow =>
      simp only [locate, hRead, reduceCtorEq] at hLocate
  | incomplete =>
      simp only [locate, hRead, Except.ok.injEq, reduceCtorEq]
        at hLocate
  | value length used =>
      by_cases hLarge : limit < length
      · simp only [locate, hRead, hLarge, if_true, reduceCtorEq]
          at hLocate
      have hAllowed : length ≤ limit := Nat.le_of_not_lt hLarge
      by_cases hMissing :
          bytes.length < used + checksumSize + length
      · rw [locate_eq_none (by omega) hRead hAllowed hMissing]
          at hLocate
        cases hLocate
      have hWhole := Nat.le_of_not_lt hMissing
      rcases exists_locate_eq_some (by omega) hRead hAllowed
          hWhole with ⟨crc, hFound⟩
      have hHere := hFound []
      rw [List.append_nil, hLocate] at hHere
      cases hHere
      refine ⟨hWhole, length, used,
        Varint.read_take hRead ?_, hAllowed, ?_⟩
      · show used ≤ used + checksumSize + length
        omega
      · exact List.length_take_of_le hWhole

namespace Receiver

------------------------------------------------------------
-- One call
------------------------------------------------------------

/- A receiver has given up one whole frame, and nothing else. -/
structure TakesOut
    (r r' : Receiver)
    (frame : List UInt8) : Prop where
  whole : Whole r.limit frame
  buffer_eq : r.buffer = frame ++ r'.buffer
  limit_eq : r'.limit = r.limit

/- A receiver that gives up a frame is another one. -/
theorem TakesOut.ne
    {r r' : Receiver}
    {frame : List UInt8}
    (hTakes : TakesOut r r' frame) :
    r' ≠ r := by
  rintro rfl
  have hLength := congrArg List.length hTakes.buffer_eq
  rw [List.length_append] at hLength
  have hFrame := hTakes.whole.five_le
  omega

section OneCall

variable {r : Receiver}

/-
  A receiver gives up one whole frame, and the stream can be
  read on; or it stays as it is, because bytes are missing, or
  because of a defect that stands whatever arrives.
-/
theorem takesOut_cases (hLimit : r.limit < 2 ^ 63) :
    (∃ r' frame result,
      TakesOut r r' frame ∧
        ReadsOn result ∧
        r.nextEnvelope = (r', result.map some)) ∨
    r.nextEnvelope = (r, .ok none) ∨
    ∃ defect,
      defect.recoverable = false ∧
        ∀ more,
          (r.push more).nextEnvelope =
            (r.push more, .error defect) := by
  cases hLocate : locate r.limit r.buffer with
  | error defect =>
      right; right
      have hNext : r.nextEnvelope = (r, .error defect) := by
        simp only [nextEnvelope, nextBody, hLocate]
      rcases nextEnvelope_cases hLimit with
        hHalts | ⟨r', result, _, hFewer, _, hAny⟩ | hWaits
      · exact hHalts
      · have hHere := nextEnvelope_of_push hAny
        rw [hNext] at hHere
        rw [← (Prod.mk.inj hHere).1] at hFewer
        exact absurd hFewer (Nat.lt_irrefl _)
      · rw [hNext] at hWaits
        cases hWaits
  | ok found =>
      cases found with
      | none =>
          right; left
          simp only [nextEnvelope, nextBody, hLocate]
      | some span =>
          left
          rcases whole_of_locate hLimit hLocate with
            ⟨_, hWhole⟩
          exact ⟨{ r with buffer := r.buffer.drop span.stop },
            r.buffer.take span.stop, _,
            ⟨hWhole, (List.take_append_drop _ _).symm, rfl⟩,
            readsOn_verify_message span.crc
              (span.body r.buffer),
            nextEnvelope_of_span hLocate⟩

/- A result that can be read on behind is a frame given up. -/
theorem exists_takesOut
    {r' : Receiver}
    (result : Except Defect Envelope)
    (hLimit : r.limit < 2 ^ 63)
    (hNext : r.nextEnvelope = (r', result.map some))
    (hReadsOn : ReadsOn result) :
    ∃ frame, TakesOut r r' frame := by
  rcases takesOut_cases hLimit with
    ⟨r₁, frame, result₁, hTakes, _, hHere⟩ | hHere |
      ⟨defect, hHalts, hAny⟩
  · rw [hNext] at hHere
    rw [(Prod.mk.inj hHere).1]
    exact ⟨frame, hTakes⟩
  · rw [hNext] at hHere
    exact absurd (Prod.mk.inj hHere).2 (map_some_ne_none _)
  · have hHere := nextEnvelope_of_push hAny
    rw [hNext] at hHere
    exact absurd (Prod.mk.inj hHere).2
      (not_halts_of_readsOn hReadsOn hHalts)

/- A stream that cannot be read on is left as it is. -/
theorem eq_of_halts
    {r' : Receiver}
    {defect : Defect}
    (hLimit : r.limit < 2 ^ 63)
    (hNext : r.nextEnvelope = (r', .error defect))
    (hHalts : defect.recoverable = false) :
    r' = r := by
  have hHere := push_of_halts hLimit hNext hHalts []
  rw [push_nil, hNext] at hHere
  exact (Prod.mk.inj hHere).1

/-
  The stream can be read on behind a defect exactly if one
  whole frame was given up for it.
-/
theorem recoverable_iff
    {r' : Receiver}
    {defect : Defect}
    (hLimit : r.limit < 2 ^ 63)
    (hNext : r.nextEnvelope = (r', .error defect)) :
    defect.recoverable = true ↔ ∃ frame, TakesOut r r' frame := by
  constructor
  · intro hRecoverable
    exact exists_takesOut (.error defect) hLimit hNext
      hRecoverable
  · rintro ⟨frame, hTakes⟩
    cases hRecoverable : defect.recoverable with
    | true => rfl
    | false =>
        exact absurd (eq_of_halts hLimit hNext hRecoverable)
          hTakes.ne

end OneCall

------------------------------------------------------------
-- Asking on
------------------------------------------------------------

/- Pieces arrive, and the receiver is asked once after each. -/
def ask (r : Receiver) :
    List (List UInt8) →
      Receiver × List (Except Defect (Option Envelope))
| [] => (r, [])
| piece :: pieces =>
    let next := (r.push piece).nextEnvelope
    let later := next.1.ask pieces
    (later.1, next.2 :: later.2)

/-
  A receiver with a defect that stands whatever arrives keeps
  every byte, and answers with that defect for ever.
-/
theorem ask_of_halted
    {r : Receiver}
    {defect : Defect}
    (pieces : List (List UInt8))
    (hAny :
      ∀ more,
        (r.push more).nextEnvelope =
          (r.push more, .error defect)) :
    r.ask pieces =
      (r.push pieces.flatten,
        List.replicate pieces.length (.error defect)) := by
  induction pieces generalizing r with
  | nil => rw [ask, List.flatten_nil, push_nil]; rfl
  | cons piece pieces ih =>
      have hLater :
          ∀ more,
            ((r.push piece).push more).nextEnvelope =
              ((r.push piece).push more, .error defect) := by
        intro more
        rw [← push_append]
        exact hAny (piece ++ more)
      simp only [ask, hAny piece, ih hLater, List.flatten_cons,
        push_append, List.length_cons, List.replicate_succ]

------------------------------------------------------------
-- Whole streams
------------------------------------------------------------

/- Whole frames have five bytes each at least. -/
theorem length_flatten_frames
    {limit : Nat}
    {frames : List (List UInt8)}
    (hFrames : ∀ frame ∈ frames, Whole limit frame) :
    5 * frames.length ≤ frames.flatten.length := by
  induction frames with
  | nil => exact Nat.le_refl _
  | cons frame frames ih =>
      have hFirst := (hFrames frame List.mem_cons_self).five_le
      have hOthers :=
        ih fun f hMem => hFrames f (List.mem_cons_of_mem _ hMem)
      rw [List.flatten_cons, List.length_append,
        List.length_cons]
      omega

/-
  To drain a receiver is to take out one whole frame for each
  result.
-/
theorem Drains.exists_frames
    {r : Receiver}
    {h : Harvest}
    (hDrains : Drains r h)
    (hLimit : r.limit < 2 ^ 63) :
    h.receiver.limit = r.limit ∧
      ∃ frames : List (List UInt8),
        (∀ frame ∈ frames, Whole r.limit frame) ∧
          frames.length = h.results.length ∧
          r.buffer = frames.flatten ++ h.receiver.buffer := by
  induction hDrains with
  | waits hNext =>
      rw [eq_of_waits hLimit hNext]
      exact ⟨rfl, [], List.forall_mem_nil _, rfl, rfl⟩
  | @takes r r' result h hNext hReadsOn _ ih =>
      rcases exists_takesOut result hLimit hNext hReadsOn with
        ⟨frame, hTakes⟩
      rw [hTakes.limit_eq] at ih
      rcases ih hLimit with
        ⟨hSame, frames, hFrames, hLength, hBuffer⟩
      refine ⟨hSame, frame :: frames,
        List.forall_mem_cons.mpr ⟨hTakes.whole, hFrames⟩, ?_, ?_⟩
      · simp only [Harvest.behind, List.length_cons, hLength,
          List.singleton_append]
      · rw [hTakes.buffer_eq, hBuffer, List.flatten_cons,
          List.append_assoc]
        rfl
  | halts hNext hHalts =>
      rw [eq_of_halts hLimit hNext hHalts]
      exact ⟨rfl, [], List.forall_mem_nil _, rfl, rfl⟩

/- What halts a receiver is no defect to read on behind. -/
theorem Drains.halts_of_halted
    {r : Receiver}
    {h : Harvest}
    {defect : Defect}
    (hDrains : Drains r h)
    (hHalted : h.halted = some defect) :
    defect.recoverable = false := by
  induction hDrains with
  | waits _ => cases hHalted
  | takes _ _ _ ih => exact ih hHalted
  | halts _ hHalts =>
      cases hHalted
      exact hHalts

/- So it is when a stream arrives in pieces. -/
theorem Feeds.halts_of_halted
    {r : Receiver}
    {pieces : List (List UInt8)}
    {h : Harvest}
    {defect : Defect}
    (hFeeds : Feeds r pieces h)
    (hHalted : h.halted = some defect) :
    defect.recoverable = false := by
  induction hFeeds with
  | done => cases hHalted
  | halted hNow _ => exact hNow.halts_of_halted hHalted
  | next _ _ _ ih => exact ih hHalted

/-
  A stream that arrives in pieces begins with one whole frame
  for each result and the bytes that are left, and that is all
  of it unless the receiver was halted.
-/
theorem Feeds.exists_frames
    {r : Receiver}
    {pieces : List (List UInt8)}
    {h : Harvest}
    (hFeeds : Feeds r pieces h)
    (hLimit : r.limit < 2 ^ 63) :
    ∃ (frames : List (List UInt8)) (unread : List UInt8),
      (∀ frame ∈ frames, Whole r.limit frame) ∧
        frames.length = h.results.length ∧
        r.buffer ++ pieces.flatten =
          frames.flatten ++ (h.receiver.buffer ++ unread) ∧
        (h.halted = none → unread = []) := by
  induction hFeeds with
  | @done r =>
      refine ⟨[], [], List.forall_mem_nil _, rfl, rfl,
        fun _ => rfl⟩
  | @halted r piece pieces now defect hNow hHalted =>
      rcases hNow.exists_frames hLimit with
        ⟨_, frames, hFrames, hLength, hBuffer⟩
      refine ⟨frames, pieces.flatten, hFrames, hLength, ?_, ?_⟩
      · have hAll : r.buffer ++ piece = _ := hBuffer
        rw [List.flatten_cons, ← List.append_assoc, hAll,
          List.append_assoc]
      · intro hNone
        rw [hHalted] at hNone
        cases hNone
  | @next r piece pieces now later hNow _ _ ih =>
      rcases hNow.exists_frames hLimit with
        ⟨hSame, frames, hFrames, hLength, hBuffer⟩
      rw [hSame] at ih
      rcases ih hLimit with
        ⟨frames', unread, hFrames', hLength', hStream, hUnread⟩
      refine ⟨frames ++ frames', unread, ?_, ?_, ?_, hUnread⟩
      · exact List.forall_mem_append.mpr ⟨hFrames, hFrames'⟩
      · simp only [Harvest.behind, List.length_append, hLength,
          hLength']
      · have hAll : r.buffer ++ piece = _ := hBuffer
        rw [List.flatten_cons, ← List.append_assoc, hAll,
          List.append_assoc, hStream, List.flatten_append,
          List.append_assoc]
        rfl

/-
  A stream gives no more results than it has whole frames, so
  it gives one for every five bytes at most.
-/
theorem length_results_feed
    (pieces : List (List UInt8))
    {limit : Nat}
    (hLimit : limit < 2 ^ 63) :
    let harvest := (empty limit).feed pieces
    5 * harvest.results.length + harvest.receiver.buffered ≤
      pieces.flatten.length := by
  intro harvest
  have hFeeds : Feeds (empty limit) pieces harvest :=
    feeds_feed pieces hLimit
  rcases hFeeds.exists_frames hLimit with
    ⟨frames, unread, hFrames, hLength, hStream, _⟩
  have hBytes := congrArg List.length hStream
  have hFive := length_flatten_frames hFrames
  simp only [empty, List.nil_append, List.length_append]
    at hBytes
  rw [buffered]
  omega

end Receiver

end Frame

end CaptureLink
