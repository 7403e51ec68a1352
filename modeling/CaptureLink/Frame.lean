import CaptureLink.Base64
import CaptureLink.Crc32
import CaptureLink.Envelope.Body
import CaptureLink.Text.Blank
import CaptureLink.Varint

/-
  Frames on a byte stream: the length of a body, its checksum
  and the body itself, which is the JSON of one envelope.

  Key definitions include:
    * `Frame.Defect`
    * `Frame.assemble`
    * `Frame.encode`
    * `Frame.Span`
    * `Frame.locate`
    * `Frame.decode`
    * `Frame.encodeText`
    * `Frame.decodeText`
-/

namespace CaptureLink

namespace Frame

------------------------------------------------------------
-- Defects
------------------------------------------------------------

/- Why there is no frame, or no message in it. -/
inductive Defect where
/- The length does not fit into 64 bits. -/
| lengthOverflow
/- The body is longer than allowed. -/
| tooLarge (size limit : Nat)
/- The bytes end before the frame does. -/
| truncated
/- Bytes follow the frame. -/
| trailing (count : Nat)
/- The checksum is not that of the body. -/
| checksum (expected actual : UInt32)
/- This body gives no message. -/
| body (defect : Envelope.BodyDefect) (bytes : List UInt8)
/- A transform of the named message has no numerals. -/
| notFinite (id : String)
/- This text is not Base64. -/
| notBase64 (text : List Char)
deriving DecidableEq, Repr

/- A defect as a fault, in the words of its reader. -/
def Defect.toFault (words : Diagnosis) : Defect → Fault
| .lengthOverflow => .codec "VarInt overflow"
| .tooLarge size limit => .frameTooLarge size limit
| .truncated => .codec "truncated frame"
| .trailing count =>
    .codec (count.repr ++ " trailing bytes after frame")
| .checksum expected actual => .checksumMismatch expected actual
| .body defect bytes => defect.toFault words bytes
| .notFinite id =>
    .codec ("non-finite transform in message " ++ id)
| .notBase64 text =>
    .codec ("Base64 decode error: " ++ words.notBase64 text)

/- The frame is taken out of a stream, which can be read on behind it. -/
def Defect.recoverable : Defect → Bool
| .checksum _ _ => true
| .body _ _ => true
| _ => false

/- The fault says the same, whatever the words. -/
@[simp] theorem Defect.recoverable_toFault
    (words : Diagnosis)
    (defect : Defect) :
    (defect.toFault words).recoverable = defect.recoverable := by
  cases defect with
  | body defect bytes =>
      cases defect with
      | _ => rfl
  | _ => rfl

------------------------------------------------------------
-- Writing
------------------------------------------------------------

/- The longest body that is allowed unless said otherwise. -/
def defaultLimit : Nat := 1048576

/- The bytes that a checksum takes. -/
def checksumSize : Nat := 4

/- The frame around a body. -/
def assemble (body : List UInt8) : List UInt8 :=
  Varint.write body.length ++
    (Crc32.toBytes (Crc32.checksum body) ++ body)

/- Every number in the message has a numeral. -/
def carriable (e : Envelope) : Bool :=
  match e.transform? with
  | some transform => transform.isFinite
  | none => true

/- The frame of a message whose body may have `limit` bytes. -/
def encode
    (limit : Nat)
    (e : Envelope) : Except Defect (List UInt8) :=
  if carriable e then
    let body := e.toBody
    if limit < body.length then
      .error (.tooLarge body.length limit)
    else
      .ok (assemble body)
  else
    .error (.notFinite e.id)

------------------------------------------------------------
-- Finding frames
------------------------------------------------------------

/- Where the body of a frame is, and the checksum it comes with. -/
structure Span where
  start : Nat
  stop : Nat
  crc : UInt32
deriving DecidableEq, Repr

/- The body in the bytes. -/
def Span.body
    (s : Span)
    (bytes : List UInt8) : List UInt8 :=
  (bytes.drop s.start).take (s.stop - s.start)

/- The first position behind the frame, in 64-bit arithmetic. -/
def stopOf (used length : Nat) : Nat :=
  (used + checksumSize + length) % UInt64.size

/-
  Find the frame at the front of some bytes.  There is none
  yet when bytes are missing.
-/
def locate
    (limit : Nat)
    (bytes : List UInt8) : Except Defect (Option Span) :=
  match Varint.read bytes with
  | .overflow => .error .lengthOverflow
  | .incomplete => .ok none
  | .value length used =>
      if limit < length then
        .error (.tooLarge length limit)
      else if bytes.length < stopOf used length then
        .ok none
      else
        match bytes.drop used with
        | b₀ :: b₁ :: b₂ :: b₃ :: _ =>
            .ok (some
              { start := used + checksumSize
                stop := stopOf used length
                crc := Crc32.ofBytes b₀ b₁ b₂ b₃ })
        | _ => .ok none

/- A body that has the given checksum. -/
def verify
    (crc : UInt32)
    (body : List UInt8) : Except Defect (List UInt8) :=
  let actual := Crc32.checksum body
  if crc = actual then .ok body else .error (.checksum crc actual)

/- The message in a body. -/
def message (body : List UInt8) : Except Defect Envelope :=
  (Envelope.ofBody body).mapError (.body · body)

------------------------------------------------------------
-- Reading
------------------------------------------------------------

/- The message of bytes that are one frame and nothing else. -/
def decode
    (limit : Nat)
    (bytes : List UInt8) : Except Defect Envelope :=
  match locate limit bytes with
  | .error defect => .error defect
  | .ok none => .error .truncated
  | .ok (some span) =>
      if span.stop = bytes.length then
        verify span.crc (span.body bytes) >>= message
      else
        .error (.trailing (bytes.length - span.stop))

------------------------------------------------------------
-- Frames as text
------------------------------------------------------------

/- The frame of a message in Base64. -/
def encodeText
    (limit : Nat)
    (e : Envelope) : Except Defect String :=
  (encode limit e).map Base64.encode

/- The message of a frame in Base64, with blanks at its ends. -/
def decodeText
    (limit : Nat)
    (text : String) : Except Defect Envelope :=
  let text := Text.trim text.toList
  match Base64.decode? text with
  | some bytes => decode limit bytes
  | none => .error (.notBase64 text)

end Frame

end CaptureLink
