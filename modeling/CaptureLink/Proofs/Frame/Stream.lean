import CaptureLink.Proofs.Frame.Chunking
import CaptureLink.Proofs.Frame.RoundTrip

/-
  Streams of whole frames.  However such a stream is cut into
  pieces, a receiver gives for each frame what the frame says
  on its own, in the order of the frames, and nothing is left
  of the stream.  Frames that give no message are no
  exception.

  Main statements:
    * `Frame.Complete.nextEnvelope`
    * `Frame.Complete.defect_cases`
    * `Frame.Receiver.drain_frames`
    * `Frame.Receiver.feed_frames`
-/

namespace CaptureLink

namespace Frame

------------------------------------------------------------
-- Whole frames
------------------------------------------------------------

/-
  Bytes in memory that are one frame and nothing else, with a
  body within the limit.  Nothing is said about the checksum
  and the body.
-/
structure Complete
    (limit : Nat)
    (frame : List UInt8) : Prop where
  memory : frame.length < 2 ^ 63
  whole :
    ∃ length used,
      Varint.read frame = .value length used ∧
        length ≤ limit ∧
        frame.length = used + checksumSize + length

/- The frame around a body is whole. -/
theorem complete_assemble
    {limit : Nat}
    {body : List UInt8}
    (hMemory : (assemble body).length < 2 ^ 63)
    (hLimit : body.length ≤ limit) :
    Complete limit (assemble body) := by
  have hLength := length_assemble body
  have hWord : body.length < 2 ^ 64 := by
    omega
  refine ⟨hMemory, body.length,
    (Varint.write body.length).length, ?_, hLimit, hLength⟩
  rw [assemble, Varint.read_write_append _ hWord]

/- A message without a transform has none that is not finite. -/
theorem isFinite_of_no_transform
    {e : Envelope}
    (hNone : e.transform? = none) :
    ∀ t, e.transform? = some t → t.isFinite = true := by
  intro t hSome
  rw [hNone] at hSome
  cases hSome

/- A frame that was written is whole, and gives its message back. -/
theorem complete_of_encode
    {limit : Nat}
    {e : Envelope}
    {frame : List UInt8}
    (hEncode : encode limit e = .ok frame)
    (hMemory : frame.length < 2 ^ 63) :
    Complete limit frame ∧ decode limit frame = .ok e := by
  rcases (encode_eq_ok_iff limit e frame).mp hEncode with
    ⟨hFinite, hShort, rfl⟩
  have hLength := length_assemble e.toBody
  refine ⟨complete_assemble hMemory hShort, ?_⟩
  rw [decode_assemble (by omega) hShort, message_toBody hFinite]

/- So it is with one frame after the other. -/
theorem complete_of_encode_all
    {limit : Nat}
    {messages : List Envelope}
    {frames : List (List UInt8)}
    (hFrames : messages.map (encode limit) = frames.map .ok)
    (hMemory : ∀ frame ∈ frames, frame.length < 2 ^ 63) :
    (∀ frame ∈ frames, Complete limit frame) ∧
      frames.map (decode limit) = messages.map .ok := by
  induction frames generalizing messages with
  | nil =>
      rw [List.map_nil, List.map_eq_nil_iff] at hFrames
      subst hFrames
      exact ⟨List.forall_mem_nil _, rfl⟩
  | cons frame frames ih =>
      cases messages with
      | nil => cases hFrames
      | cons e messages =>
          rw [List.map_cons, List.map_cons, List.cons.injEq]
            at hFrames
          rcases List.forall_mem_cons.mp hMemory with
            ⟨hFirst, hOthers⟩
          rcases complete_of_encode hFrames.1 hFirst with
            ⟨hComplete, hDecode⟩
          rcases ih hFrames.2 hOthers with ⟨hRest, hDecodes⟩
          refine ⟨List.forall_mem_cons.mpr ⟨hComplete, hRest⟩, ?_⟩
          rw [List.map_cons, List.map_cons, hDecode, hDecodes]

/- A message within the limit has a frame that fits in memory. -/
theorem encode_toBody
    {limit : Nat}
    {e : Envelope}
    (hFinite : ∀ t, e.transform? = some t → t.isFinite = true)
    (hMemory : e.toBody.length < 2 ^ 62)
    (hLimit : e.toBody.length ≤ limit) :
    encode limit e = .ok (assemble e.toBody) ∧
      (assemble e.toBody).length < 2 ^ 63 := by
  have hWrite : (Varint.write e.toBody.length).length ≤ 10 :=
    Varint.length_write_le (by omega)
  have hLength := length_assemble e.toBody
  refine ⟨(encode_eq_ok_iff limit e _).mpr
    ⟨hFinite, hLimit, rfl⟩, ?_⟩
  rw [hLength, checksumSize]
  omega

/- It is whole, and gives the message back. -/
theorem complete_toBody
    {limit : Nat}
    {e : Envelope}
    (hFinite : ∀ t, e.transform? = some t → t.isFinite = true)
    (hMemory : e.toBody.length < 2 ^ 62)
    (hLimit : e.toBody.length ≤ limit) :
    Complete limit (assemble e.toBody) ∧
      decode limit (assemble e.toBody) = .ok e := by
  rcases encode_toBody hFinite hMemory hLimit with
    ⟨hEncode, hFrame⟩
  exact complete_of_encode hEncode hFrame

namespace Complete

variable {limit : Nat}
variable {frame : List UInt8}

/- A frame has at least one byte. -/
theorem ne_nil (hFrame : Complete limit frame) :
    frame ≠ [] := by
  rintro rfl
  rcases hFrame.whole with ⟨length, used, hRead, _, _⟩
  cases hRead

/- A whole frame is found, whatever follows it. -/
theorem exists_locate (hFrame : Complete limit frame) :
    ∃ span : Span,
      span.start ≤ span.stop ∧
        span.stop = frame.length ∧
        ∀ more,
          locate limit (frame ++ more) = .ok (some span) := by
  rcases hFrame with ⟨hMemory, length, used, hRead, hAllowed,
    hWhole⟩
  rcases exists_locate_eq_some (by omega) hRead hAllowed
      hWhole.ge with ⟨crc, hFound⟩
  exact ⟨_, Nat.le_add_right _ _, hWhole.symm, hFound⟩

/-
  A receiver takes a whole frame out with what the frame says
  on its own, and leaves what follows.  The stream can be
  read on.
-/
theorem nextEnvelope
    (hFrame : Complete limit frame)
    (more : List UInt8) :
    (⟨limit, frame ++ more⟩ : Receiver).nextEnvelope =
        (⟨limit, more⟩, (decode limit frame).map some) ∧
      ReadsOn (decode limit frame) := by
  rcases hFrame.exists_locate with
    ⟨span, hStart, hStop, hFound⟩
  have hDecode :
      decode limit frame =
        (verify span.crc (span.body frame) >>= message) := by
    have hHere := hFound []
    rw [List.append_nil] at hHere
    simp only [decode, hHere, hStop, if_true]
  have hNext :=
    Receiver.nextEnvelope_of_span
      (r := ⟨limit, frame ++ more⟩) (hFound more)
  rw [hDecode]
  refine ⟨?_, readsOn_verify_message _ _⟩
  rw [hNext]
  simp only [Span.body_append more hStart hStop.le, hStop,
    List.drop_left]

/- What is wrong with a whole frame is its checksum or its body. -/
theorem defect_cases
    (hFrame : Complete limit frame)
    {defect : Defect}
    (hDefect : decode limit frame = .error defect) :
    (∃ expected actual, defect = .checksum expected actual) ∨
      ∃ reason body, defect = .body reason body := by
  have hReadsOn := (hFrame.nextEnvelope []).2
  rw [hDefect] at hReadsOn
  have hRecoverable : defect.recoverable = true := hReadsOn
  cases defect with
  | checksum expected actual => exact .inl ⟨_, _, rfl⟩
  | body reason body => exact .inr ⟨_, _, rfl⟩
  | lengthOverflow => cases hRecoverable
  | tooLarge size limit => cases hRecoverable
  | truncated => cases hRecoverable
  | trailing count => cases hRecoverable
  | notFinite id => cases hRecoverable
  | notBase64 text => cases hRecoverable

/- A part of a frame is no frame yet. -/
theorem waits
    (hFrame : Complete limit frame)
    {start : List UInt8}
    (hStart : start <+: frame)
    (hPart : start ≠ frame) :
    (⟨limit, start⟩ : Receiver).nextEnvelope =
      (⟨limit, start⟩, .ok none) := by
  have hNone : locate limit start = .ok none := by
    rcases hFrame with ⟨hMemory, length, used, hRead, hAllowed,
      hWhole⟩
    by_cases hSaid : Varint.read start = .incomplete
    · simp only [locate, hSaid]
    rcases hStart with ⟨missing, rfl⟩
    have hMissing : 0 < missing.length := by
      apply List.length_pos_of_ne_nil
      rintro rfl
      exact hPart (List.append_nil start).symm
    rw [List.length_append] at hWhole hMemory
    rw [Varint.read_append start missing hSaid] at hRead
    exact locate_eq_none (by omega) hRead hAllowed (by omega)
  simp only [Receiver.nextEnvelope, Receiver.nextBody, hNone]

end Complete

------------------------------------------------------------
-- Cutting a stream
------------------------------------------------------------

/- What has arrived of the frames that are still to come. -/
def Pending (arrived : List UInt8) :
    List (List UInt8) → Prop
| [] => arrived = []
| frame :: _ => arrived <+: frame ∧ arrived ≠ frame

/-
  The start of a stream is some of its frames and a part of
  the next one.
-/
theorem exists_pending
    {start : List UInt8}
    (frames : List (List UInt8))
    (hFrames : ∀ frame ∈ frames, frame ≠ [])
    (hStart : start <+: frames.flatten) :
    ∃ whole rest arrived,
      frames = whole ++ rest ∧
        start = whole.flatten ++ arrived ∧
        Pending arrived rest := by
  induction frames generalizing start with
  | nil =>
      rw [List.flatten_nil, List.prefix_nil] at hStart
      exact ⟨[], [], start, rfl, rfl, hStart⟩
  | cons frame frames ih =>
      rw [List.flatten_cons] at hStart
      by_cases hWhole : frame <+: start
      · rcases hWhole with ⟨behind, rfl⟩
        rw [List.prefix_append_right_inj] at hStart
        have hBehind : ∀ f ∈ frames, f ≠ [] := fun f hMem =>
          hFrames f (List.mem_cons_of_mem _ hMem)
        rcases ih hBehind hStart with
          ⟨whole, rest, arrived, hSplit, hCut, hPending⟩
        refine ⟨frame :: whole, rest, arrived, ?_, ?_, hPending⟩
        · rw [hSplit, List.cons_append]
        · rw [hCut, List.flatten_cons, List.append_assoc]
      · refine ⟨[], frame :: frames, start, rfl, rfl, ?_, ?_⟩
        · rcases List.prefix_or_prefix_of_prefix hStart
              (List.prefix_append frame frames.flatten) with
            hPart | hOther
          · exact hPart
          · exact absurd hOther hWhole
        · rintro rfl
          exact hWhole (List.prefix_refl _)

/- With every byte there, no frame is still to come. -/
theorem eq_nil_of_pending
    {arrived : List UInt8}
    {frames : List (List UInt8)}
    (hPending : Pending arrived frames)
    (hAll : arrived = frames.flatten) :
    frames = [] := by
  cases frames with
  | nil => rfl
  | cons frame frames =>
      rcases hPending with ⟨hPart, hProper⟩
      rw [List.flatten_cons] at hAll
      subst hAll
      have hLength := hPart.length_le
      rw [List.length_append] at hLength
      have hNil : frames.flatten = [] :=
        List.eq_nil_of_length_eq_zero (by omega)
      rw [hNil, List.append_nil] at hProper
      exact absurd rfl hProper

namespace Receiver

------------------------------------------------------------
-- Receiving a stream
------------------------------------------------------------

variable {limit : Nat}

/- With part of a frame, or nothing, there is nothing to take out. -/
theorem waits_of_pending
    {arrived : List UInt8}
    {frames : List (List UInt8)}
    (hFrames : ∀ frame ∈ frames, Complete limit frame)
    (hPending : Pending arrived frames) :
    (⟨limit, arrived⟩ : Receiver).nextEnvelope =
      (⟨limit, arrived⟩, .ok none) := by
  cases frames with
  | nil =>
      have hNil : arrived = [] := hPending
      subst hNil
      rfl
  | cons frame frames =>
      exact (hFrames frame List.mem_cons_self).waits
        hPending.1 hPending.2

/- Whole frames are taken out one after the other. -/
theorem drainWith_frames
    (whole : List (List UInt8))
    {rest : List (List UInt8)}
    {arrived : List UInt8}
    {count : Nat}
    (hWhole : ∀ frame ∈ whole, Complete limit frame)
    (hRest : ∀ frame ∈ rest, Complete limit frame)
    (hPending : Pending arrived rest)
    (hCount : whole.length < count) :
    drainWith count ⟨limit, whole.flatten ++ arrived⟩ =
      ⟨whole.map (decode limit), ⟨limit, arrived⟩, none⟩ := by
  induction whole generalizing count with
  | nil =>
      cases count with
      | zero => exact absurd hCount (Nat.not_lt_zero _)
      | succ count =>
          simp only [drainWith, List.flatten_nil,
            List.nil_append, waits_of_pending hRest hPending]
          rfl
  | cons frame whole ih =>
      cases count with
      | zero => exact absurd hCount (Nat.not_lt_zero _)
      | succ count =>
          rcases (hWhole frame List.mem_cons_self).nextEnvelope
              (whole.flatten ++ arrived) with ⟨hNext, hReadsOn⟩
          rw [List.flatten_cons, List.append_assoc,
            drainWith_succ_of_readsOn count hNext hReadsOn, ih]
          · rfl
          · exact fun f hMem =>
              hWhole f (List.mem_cons_of_mem _ hMem)
          · exact Nat.lt_of_succ_lt_succ hCount

/- There are no more frames than bytes. -/
theorem length_le_length_flatten
    (frames : List (List UInt8))
    (hFrames : ∀ frame ∈ frames, frame ≠ []) :
    frames.length ≤ frames.flatten.length := by
  induction frames with
  | nil => exact Nat.le_refl _
  | cons frame frames ih =>
      have hPos :=
        List.length_pos_of_ne_nil
          (hFrames frame List.mem_cons_self)
      have hRest :=
        ih fun f hMem => hFrames f (List.mem_cons_of_mem _ hMem)
      rw [List.flatten_cons, List.length_append,
        List.length_cons]
      omega

/- To drain a receiver is to take out the frames that are whole. -/
theorem drain_frames
    {whole rest : List (List UInt8)}
    {arrived : List UInt8}
    (hWhole : ∀ frame ∈ whole, Complete limit frame)
    (hRest : ∀ frame ∈ rest, Complete limit frame)
    (hPending : Pending arrived rest) :
    (⟨limit, whole.flatten ++ arrived⟩ : Receiver).drain =
      ⟨whole.map (decode limit), ⟨limit, arrived⟩, none⟩ := by
  apply drainWith_frames whole hWhole hRest hPending
  have hCount :=
    length_le_length_flatten whole
      fun frame hMem => (hWhole frame hMem).ne_nil
  rw [buffered, List.length_append]
  omega

/-
  Pieces go on with a stream of which a part of a frame has
  arrived: every frame is taken out, and nothing is left.
-/
theorem feed_pending
    (pieces : List (List UInt8))
    {frames : List (List UInt8)}
    {arrived : List UInt8}
    (hFrames : ∀ frame ∈ frames, Complete limit frame)
    (hPending : Pending arrived frames)
    (hStream : arrived ++ pieces.flatten = frames.flatten) :
    (⟨limit, arrived⟩ : Receiver).feed pieces =
      ⟨frames.map (decode limit), empty limit, none⟩ := by
  induction pieces generalizing frames arrived with
  | nil =>
      rw [List.flatten_nil, List.append_nil] at hStream
      have hNone := eq_nil_of_pending hPending hStream
      subst hNone
      have hNil : arrived = [] := hPending
      subst hNil
      rfl
  | cons piece pieces ih =>
      rw [List.flatten_cons, ← List.append_assoc] at hStream
      have hStart : arrived ++ piece <+: frames.flatten :=
        ⟨pieces.flatten, hStream⟩
      rcases exists_pending frames
          (fun frame hMem => (hFrames frame hMem).ne_nil)
          hStart with
        ⟨whole, rest, behind, rfl, hCut, hPending'⟩
      have hWhole : ∀ frame ∈ whole, Complete limit frame :=
        fun frame hMem =>
          hFrames frame (List.mem_append_left _ hMem)
      have hRest : ∀ frame ∈ rest, Complete limit frame :=
        fun frame hMem =>
          hFrames frame (List.mem_append_right _ hMem)
      have hPushed :
          (⟨limit, arrived⟩ : Receiver).push piece =
            ⟨limit, whole.flatten ++ behind⟩ := by
        rw [← hCut]
        rfl
      rw [hCut, List.flatten_append, List.append_assoc,
        List.append_cancel_left_eq] at hStream
      simp only [feed, hPushed,
        drain_frames hWhole hRest hPending',
        ih hRest hPending' hStream, Harvest.behind,
        List.map_append]

/-
  A stream of whole frames, however it arrives, gives what
  each of them says, and ends between two frames.
-/
theorem feed_frames
    {frames pieces : List (List UInt8)}
    (hFrames : ∀ frame ∈ frames, Complete limit frame)
    (hStream : pieces.flatten = frames.flatten) :
    (empty limit).feed pieces =
      ⟨frames.map (decode limit), empty limit, none⟩ := by
  apply feed_pending pieces hFrames _ hStream
  cases frames with
  | nil => rfl
  | cons frame frames =>
      exact ⟨List.nil_prefix,
        (hFrames frame List.mem_cons_self).ne_nil.symm⟩

end Receiver

end Frame

end CaptureLink
