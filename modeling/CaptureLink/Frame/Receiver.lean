import CaptureLink.Frame

/-
  The receiving end of a byte stream.  Bytes arrive in pieces
  of any size and leave as whole frames.  A frame whose
  checksum fails is taken out of the stream as well, so what
  follows it can still be read.

  Key definitions include:
    * `Frame.Receiver`
    * `Frame.Receiver.push`
    * `Frame.Receiver.nextBody`
    * `Frame.Receiver.nextEnvelope`
    * `Frame.Receiver.drain`
    * `Frame.Receiver.feed`
    * `Frame.Receiver.ending`
-/

namespace CaptureLink

namespace Frame

/- The bytes that have arrived and are not part of a frame taken out. -/
structure Receiver where
  limit : Nat
  buffer : List UInt8
deriving DecidableEq, Repr

namespace Receiver

/- A receiver that has seen nothing. -/
def empty (limit : Nat) : Receiver :=
  ⟨limit, []⟩

/- Bytes arrive. -/
def push
    (r : Receiver)
    (bytes : List UInt8) : Receiver :=
  { r with buffer := r.buffer ++ bytes }

/- The number of bytes waiting. -/
def buffered (r : Receiver) : Nat :=
  r.buffer.length

/- Take the body of the next frame out, if the frame is complete. -/
def nextBody
    (r : Receiver) :
    Receiver × Except Defect (Option (List UInt8)) :=
  match locate r.limit r.buffer with
  | .error defect => (r, .error defect)
  | .ok none => (r, .ok none)
  | .ok (some span) =>
      ( { r with buffer := r.buffer.drop span.stop },
        (verify span.crc (span.body r.buffer)).map some )

/- Take the next message out, if its frame is complete. -/
def nextEnvelope
    (r : Receiver) :
    Receiver × Except Defect (Option Envelope) :=
  match r.nextBody with
  | (r, .ok (some body)) => (r, (message body).map some)
  | (r, .ok none) => (r, .ok none)
  | (r, .error defect) => (r, .error defect)

------------------------------------------------------------
-- Whole streams
------------------------------------------------------------

/-
  What a stream has given: messages and frames that give
  none, the receiver afterwards, and the defect behind which
  the stream cannot be read on, if one was met.
-/
structure Harvest where
  results : List (Except Defect Envelope)
  receiver : Receiver
  halted : Option Defect

/- Something came before. -/
def Harvest.behind
    (h : Harvest)
    (earlier : List (Except Defect Envelope)) : Harvest :=
  { h with results := earlier ++ h.results }

/- Take out at most so many frames. -/
def drainWith : Nat → Receiver → Harvest
| 0, r => ⟨[], r, none⟩
| count + 1, r =>
    match r.nextEnvelope with
    | (r, .ok none) => ⟨[], r, none⟩
    | (r, .ok (some e)) => (drainWith count r).behind [.ok e]
    | (r, .error defect) =>
        if defect.recoverable then
          (drainWith count r).behind [.error defect]
        else
          ⟨[], r, some defect⟩

/-
  Take out every complete frame.  Each takes at least one
  byte, so there are no more than bytes.
-/
def drain (r : Receiver) : Harvest :=
  drainWith (r.buffered + 1) r

/- Let pieces of a stream arrive, and drain the receiver after each. -/
def feed (r : Receiver) : List (List UInt8) → Harvest
| [] => ⟨[], r, none⟩
| piece :: pieces =>
    let now := (r.push piece).drain
    match now.halted with
    | some _ => now
    | none => (now.receiver.feed pieces).behind now.results

/- The fault of a stream that ends here, unless it ends between frames. -/
def ending (r : Receiver) : Option Fault :=
  if r.buffered = 0 then
    none
  else
    some (.network
      ("connection closed with " ++ r.buffered.repr ++
        " bytes of partial frame"))

end Receiver

end Frame

end CaptureLink
