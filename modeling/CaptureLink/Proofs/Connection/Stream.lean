import CaptureLink.Proofs.Connection.Response
import CaptureLink.Proofs.Frame.Stream

/-
  Connections over byte streams.  A stream of whole frames
  arrives frame by frame, however it was cut, and a message
  leaves as a frame exactly if its body is within the limit.

  Main statements:
    * `Arrival.ofStream_frames`
    * `Connection.serveStream_frames`
    * `Connection.send_framed`
    * `Connection.send_framed_of_long`
-/

namespace CaptureLink

/- What a whole frame gives. -/
def Arrival.ofFrame
    {κ : Type}
    (limit : Nat)
    (frame : List UInt8) : Arrival κ :=
  .ofResult (Frame.decode limit frame)

/- A stream of whole frames arrives frame by frame, and ends well. -/
theorem Arrival.ofStream_frames
    {κ : Type}
    {limit : Nat}
    {frames pieces : List (List UInt8)}
    (hFrames : ∀ frame ∈ frames, Frame.Complete limit frame)
    (hStream : pieces.flatten = frames.flatten) :
    Arrival.ofStream (κ := κ) limit pieces =
      (frames.map (Arrival.ofFrame limit), none) := by
  simp only [ofStream,
    Frame.Receiver.feed_frames hFrames hStream, List.map_map]
  rfl

namespace Connection

variable {σ κ : Type}

/- A connection whose messages leave as frames. -/
def framing
    (d : Delegate σ)
    (words : Diagnosis)
    (limit : Nat)
    (name : Nat → String) : Setting σ (List UInt8) :=
  ⟨d, .framed limit, words, name⟩

/- To serve such a stream is to take its frames, and to close. -/
theorem serveStream_frames
    (setting : Setting σ (List UInt8))
    {limit : Nat}
    {frames pieces : List (List UInt8)}
    (hFrames : ∀ frame ∈ frames, Frame.Complete limit frame)
    (hStream : pieces.flatten = frames.flatten)
    (c : Connection σ κ (List UInt8)) :
    c.serveStream setting limit pieces =
      (c.takeAll setting
        (frames.map (Arrival.ofFrame limit))).close setting := by
  simp only [serveStream,
    Arrival.ofStream_frames hFrames hStream]
  rcases c.takeAll setting (frames.map (Arrival.ofFrame limit))
    with ⟨session, issued, outgoing, events, broken⟩
  cases broken with
  | none => rfl
  | some fault => rfl

section Sending

variable {d : Delegate σ}
variable {words : Diagnosis}
variable {limit : Nat}
variable {name : Nat → String}
variable {e : Envelope}

/- A message within the limit leaves as a frame. -/
theorem send_framed
    (c : Connection σ κ (List UInt8))
    (hFinite : ∀ t, e.transform? = some t → t.isFinite = true)
    (hFits : e.toBody.length ≤ limit) :
    c.send (framing d words limit name) e =
      { c with
        issued := c.issued + 1
        outgoing := c.outgoing ++ [Frame.assemble e.toBody] } := by
  have hCarry :
      (framing d words limit name).port.carry e =
        .ok (Frame.assemble e.toBody) :=
    (Frame.encode_eq_ok_iff limit e _).mpr
      ⟨hFinite, hFits, rfl⟩
  simp only [send, hCarry]

/- A longer one breaks the connection. -/
theorem send_framed_of_long
    (c : Connection σ κ (List UInt8))
    (hFinite : ∀ t, e.transform? = some t → t.isFinite = true)
    (hLong : limit < e.toBody.length) :
    c.send (framing d words limit name) e =
      { c with
        broken := some (.frameTooLarge e.toBody.length limit) } := by
  have hCarriable : Frame.carriable e = true :=
    (Frame.carriable_iff e).mpr hFinite
  have hCarry :
      (framing d words limit name).port.carry e =
        .error (.tooLarge e.toBody.length limit) := by
    simp only [framing, Port.framed, Frame.encode, hCarriable,
      hLong, if_true]
  simp only [send, hCarry]
  rfl

end Sending

end Connection

end CaptureLink
