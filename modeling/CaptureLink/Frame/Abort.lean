import CaptureLink.Frame.Receiver

/-
  Where looking for a frame ends the program.  Bytes are taken
  by position, and no program survives a position that is not
  there.  The first position behind a frame is computed in 64
  bits, so it may wrap to one in front of the body; what the
  other functions say of such a frame counts only as far as
  the program gets.

  Key definitions include:
    * `Frame.holds`
    * `Frame.locateAborts`
    * `Frame.decodeAborts`
    * `Frame.decodeTextAborts`
    * `Frame.Receiver.aborts`
-/

namespace CaptureLink

namespace Frame

/- The bytes from one position up to another are there. -/
def holds
    (bytes : List UInt8)
    (start stop : Nat) : Bool :=
  start ≤ stop && stop ≤ bytes.length

/- A frame seems to have arrived, and its checksum is not there. -/
def locateAborts
    (limit : Nat)
    (bytes : List UInt8) : Bool :=
  match Varint.read bytes with
  | .value length used =>
      if limit < length ∨ bytes.length < stopOf used length then
        false
      else
        !holds bytes used (used + checksumSize)
  | _ => false

/- Reading the bytes as one frame ends the program. -/
def decodeAborts
    (limit : Nat)
    (bytes : List UInt8) : Bool :=
  locateAborts limit bytes ||
    match locate limit bytes with
    | .ok (some span) =>
        span.stop = bytes.length &&
          !holds bytes span.start span.stop
    | _ => false

/- So does reading a text as one frame. -/
def decodeTextAborts
    (limit : Nat)
    (text : String) : Bool :=
  match Base64.decode? (Text.trim text.toList) with
  | some bytes => decodeAborts limit bytes
  | none => false

/- Taking the next frame out ends the program. -/
def Receiver.aborts (r : Receiver) : Bool :=
  locateAborts r.limit r.buffer ||
    match locate r.limit r.buffer with
    | .ok (some span) => !holds r.buffer span.start span.stop
    | _ => false

end Frame

end CaptureLink
