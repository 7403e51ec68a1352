import CaptureLink.Proofs.Connection.Response
import CaptureLink.Proofs.Frame.Alignment

/-
  A connection reads on behind a defect exactly if the
  receiver has given up one whole frame for it.  Since each
  frame takes bytes, a stream that ends gives no more messages
  and reports than it has room for frames.

  Main statements:
    * `Connection.issued_serveStream_le`
    * `Connection.recoverable_iff_takesOut`
-/

namespace CaptureLink

namespace Connection

variable {σ κ β : Type}

------------------------------------------------------------
-- Messages for a stream
------------------------------------------------------------

/- Nothing is said to a stream that cannot be read on. -/
theorem issued_take_of_halts
    (setting : Setting σ β)
    (c : Connection σ κ β)
    {defect : Frame.Defect}
    (hHalts : defect.recoverable = false) :
    (c.take setting (.undecodable defect)).issued = c.issued := by
  by_cases hOpen : c.broken = none
  · have hFault :
        (respond setting.delegate setting.words
          (c.nextName setting) c.session
            (.undecodable defect)).answer =
              .error (defect.toFault setting.words) := by
      simp only [respond, hHalts, Bool.false_eq_true, if_false]
    rw [take_of_open _ hOpen, carryOut_of_fault hFault]
    rfl
  · rw [take_of_broken _ hOpen]

section Serving

variable {limit : Nat}

/- Nothing is said at the end of a stream. -/
theorem issued_serveStream
    (setting : Setting σ (List UInt8))
    (c : Connection σ κ (List UInt8))
    (pieces : List (List UInt8)) :
    (c.serveStream setting limit pieces).issued =
      (c.takeAll setting
        (Arrival.ofStream limit pieces).1).issued := by
  rcases exists_closed_serveStream setting limit c pieces with
    ⟨_, hServed⟩
  rw [hServed]
  rfl

/- Only results of the receiver are answered. -/
theorem issued_serveStream_le_results
    (hLimit : limit < 2 ^ 63)
    (setting : Setting σ (List UInt8))
    (c : Connection σ κ (List UInt8))
    (pieces : List (List UInt8)) :
    (c.serveStream setting limit pieces).issued ≤
      c.issued +
        ((Frame.Receiver.empty limit).feed
          pieces).results.length := by
  have hFeeds :=
    Frame.Receiver.feeds_feed pieces
      (r := Frame.Receiver.empty limit) hLimit
  have hResults :=
    issued_takeAll_le setting c
      (((Frame.Receiver.empty limit).feed pieces).results.map
        Arrival.ofResult)
  rw [List.length_map] at hResults
  rw [issued_serveStream]
  cases hHalted :
      ((Frame.Receiver.empty limit).feed pieces).halted with
  | none => simpa only [Arrival.ofStream, hHalted] using hResults
  | some defect =>
      simp only [Arrival.ofStream, hHalted, takeAll_append,
        takeAll_cons]
      have hLast :=
        issued_take_of_halts setting
          (c.takeAll setting
            (((Frame.Receiver.empty limit).feed
              pieces).results.map Arrival.ofResult))
          (hFeeds.halts_of_halted hHalted)
      exact hLast.trans_le hResults

/- A stream is answered once for every five bytes at most. -/
theorem issued_serveStream_le
    (hLimit : limit < 2 ^ 63)
    (setting : Setting σ (List UInt8))
    (c : Connection σ κ (List UInt8))
    (pieces : List (List UInt8)) :
    (c.serveStream setting limit pieces).issued ≤
      c.issued + pieces.flatten.length / 5 := by
  have hIssued :=
    issued_serveStream_le_results hLimit setting c pieces
  have hResults :=
    Frame.Receiver.length_results_feed pieces hLimit
  omega

end Serving

/-
  Whatever a receiver holds: it answers with a defect behind
  which the connection reads on exactly if it has given up one
  whole frame.  With any other defect it keeps every byte, and
  answers with that defect for ever, whatever arrives.  If
  bytes are missing it keeps every byte as well, and for a
  message it gives up one whole frame.  So a stream that ends
  is read in a run that ends, and is not answered more often
  than once for every five bytes.
-/
theorem recoverable_iff_takesOut
    {limit : Nat}
    (hLimit : limit < 2 ^ 63) :
    (∀ buffer : List UInt8,
      let r : Frame.Receiver := ⟨limit, buffer⟩
      let next := r.nextEnvelope
      (∀ defect,
        next.2 = .error defect →
          (defect.recoverable = true ↔
            ∃ frame,
              r.TakesOut next.1 frame ∧ 5 ≤ frame.length) ∧
          (defect.recoverable = false →
            next.1 = r ∧
              ∀ pieces,
                next.1.ask pieces =
                  (r.push pieces.flatten,
                    List.replicate pieces.length
                      (.error defect)))) ∧
      (next.2 = .ok none → next.1 = r) ∧
      (∀ e,
        next.2 = .ok (some e) →
          ∃ frame,
            r.TakesOut next.1 frame ∧ 5 ≤ frame.length)) ∧
    (∀ pieces : List (List UInt8),
      let harvest := (Frame.Receiver.empty limit).feed pieces
      Frame.Receiver.Feeds (.empty limit) pieces harvest ∧
        5 * harvest.results.length + harvest.receiver.buffered ≤
          pieces.flatten.length ∧
        ∀ (setting : Setting σ (List UInt8))
          (c : Connection σ κ (List UInt8)),
          (c.serveStream setting limit pieces).issued ≤
            c.issued + pieces.flatten.length / 5) := by
  constructor
  · intro buffer r next
    have hLimit' : r.limit < 2 ^ 63 := hLimit
    refine ⟨?_, ?_, ?_⟩
    · intro defect hDefect
      have hNext : r.nextEnvelope = (next.1, .error defect) :=
        Prod.ext rfl hDefect
      have hIff :=
        Frame.Receiver.recoverable_iff hLimit' hNext
      refine ⟨⟨?_, ?_⟩, ?_⟩
      · intro hRecoverable
        rcases hIff.mp hRecoverable with ⟨frame, hTakes⟩
        exact ⟨frame, hTakes, hTakes.whole.five_le⟩
      · rintro ⟨frame, hTakes, _⟩
        exact hIff.mpr ⟨frame, hTakes⟩
      · intro hHalts
        have hSame : next.1 = r :=
          Frame.Receiver.eq_of_halts hLimit' hNext hHalts
        refine ⟨hSame, fun pieces => ?_⟩
        rw [hSame]
        exact Frame.Receiver.ask_of_halted pieces
          (Frame.Receiver.push_of_halts hLimit' hNext hHalts)
    · intro hMissing
      exact Frame.Receiver.eq_of_waits hLimit'
        (Prod.ext rfl hMissing)
    · intro e hMessage
      have hNext :
          r.nextEnvelope =
            (next.1, Except.map some (.ok e)) :=
        Prod.ext rfl hMessage
      rcases Frame.Receiver.exists_takesOut (.ok e) hLimit' hNext
          True.intro with ⟨frame, hTakes⟩
      exact ⟨frame, hTakes, hTakes.whole.five_le⟩
  · intro pieces harvest
    exact ⟨Frame.Receiver.feeds_feed pieces hLimit,
      Frame.Receiver.length_results_feed pieces hLimit,
      fun setting c =>
        issued_serveStream_le hLimit setting c pieces⟩

/-
  A frame with a wrong checksum is given up, and a length
  above the limit behind it is not.
-/
theorem recoverable_iff_takesOut_wrong_checksum :
    (16 : Nat) < 2 ^ 63 ∧
      (⟨16, [0, 1, 0, 0, 0, 17]⟩ : Frame.Receiver).nextEnvelope.2 =
        .error (.checksum 1 0) ∧
      (∃ frame,
        (⟨16, [0, 1, 0, 0, 0, 17]⟩ : Frame.Receiver).TakesOut
            (⟨16, [0, 1, 0, 0, 0, 17]⟩ :
              Frame.Receiver).nextEnvelope.1 frame ∧
          5 ≤ frame.length) ∧
      (⟨16, [17]⟩ : Frame.Receiver).nextEnvelope.2 =
        .error (.tooLarge 17 16) ∧
      (⟨16, [17]⟩ : Frame.Receiver).nextEnvelope.1.ask
          [[], [5, 6]] =
        (⟨16, [17, 5, 6]⟩,
          [.error (.tooLarge 17 16), .error (.tooLarge 17 16)]) := by
  have hLimit : (16 : Nat) < 2 ^ 63 := by
    decide
  have hWrong :
      (⟨16, [0, 1, 0, 0, 0, 17]⟩ : Frame.Receiver).nextEnvelope.2 =
        .error (.checksum 1 0) := by
    decide
  have hLarge :
      (⟨16, [17]⟩ : Frame.Receiver).nextEnvelope.2 =
        .error (.tooLarge 17 16) := by
    decide
  have hAligned :=
    (recoverable_iff_takesOut (σ := Unit) (κ := Nat) hLimit).1
  exact ⟨hLimit, hWrong,
    ((hAligned [0, 1, 0, 0, 0, 17]).1 _ hWrong).1.mp rfl, hLarge,
    (((hAligned [17]).1 _ hLarge).2 rfl).2 [[], [5, 6]]⟩

end Connection

end CaptureLink
