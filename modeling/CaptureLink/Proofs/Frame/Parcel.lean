import CaptureLink.Proofs.Frame.Alignment
import CaptureLink.Proofs.Frame.Corruption
import CaptureLink.Proofs.Frame.Limit

/-
  Streams of frames of any kind.  Each frame says how long its
  body is, in as few bytes or in more, and has a body within
  the limit; its checksum may be wrong and its body may give
  no message.  A receiver that is asked once for each frame
  answers for each in turn, and then nothing is left.

  Main statements:
    * `Frame.Parcel`
    * `Frame.Parcel.answer`
    * `Frame.Parcel.nextEnvelope_push_append`
    * `Frame.Parcel.ask_stream_append`
    * `Frame.Parcel.ask_stream`
-/

namespace CaptureLink

namespace Frame

------------------------------------------------------------
-- Parcels
------------------------------------------------------------

/-
  What a frame may be made of: the bytes of a length, closed
  and no more than ten, any checksum, and a body within the
  limit.  What is kept of the length, 64 bits, is the number
  of bytes in the body.
-/
structure Parcel (limit : Nat) where
  front : List UInt8
  crc : UInt32
  body : List UInt8
  closed : Varint.Closed front
  places : front.length ≤ Varint.maxBytes
  denotes : Varint.denoted front % 2 ^ 64 = body.length
  allowed : body.length ≤ limit

namespace Parcel

variable {limit : Nat}

/- The frame. -/
def bytes (p : Parcel limit) : List UInt8 :=
  layOut p.front p.crc p.body

/-
  What is to be answered for it: both checksums, if they
  differ, or what the body says.
-/
def answer
    (p : Parcel limit) : Except Defect (Option Envelope) :=
  let actual := Crc32.checksum p.body
  if p.crc = actual then
    (message p.body).map some
  else
    .error (.checksum p.crc actual)

/- The frames one behind the other. -/
def stream (parcels : List (Parcel limit)) : List UInt8 :=
  (parcels.map bytes).flatten

theorem stream_cons
    (p : Parcel limit)
    (parcels : List (Parcel limit)) :
    stream (p :: parcels) = p.bytes ++ stream parcels :=
  rfl

/- The length is read as the number of bytes in the body. -/
theorem read_front (p : Parcel limit) :
    Varint.read p.front =
      .value p.body.length p.front.length := by
  have hRead :=
    Varint.read_closed_append [] p.closed p.places
  rwa [List.append_nil, p.denotes] at hRead

/- To check a body and to read it gives what is to be answered. -/
theorem verify_message (p : Parcel limit) :
    (verify p.crc p.body >>= message).map some = p.answer := by
  by_cases hSame : p.crc = Crc32.checksum p.body
  · simp only [answer, verify, hSame, if_true]
    rfl
  · rw [verify_of_ne hSame]
    simp only [answer, hSame, if_false]
    rfl

------------------------------------------------------------
-- One frame
------------------------------------------------------------

/-
  A receiver with a frame in front answers for it, and is left
  with the bytes behind it, whatever they are.
-/
theorem nextEnvelope_push_append
    (p : Parcel limit)
    (rest : List UInt8)
    (hMemory : p.bytes.length < 2 ^ 64) :
    ((Receiver.empty limit).push (p.bytes ++ rest)).nextEnvelope =
      ((Receiver.empty limit).push rest, p.answer) := by
  have hNext :=
    Receiver.nextBody_layOut rest p.read_front hMemory p.allowed
  rw [Receiver.nextEnvelope, bytes, hNext, ← verify_message]
  cases verify p.crc p.body with
  | ok body => rfl
  | error defect => rfl

------------------------------------------------------------
-- Streams
------------------------------------------------------------

/-
  A receiver that is asked once for each of some frames
  answers for each of them, in their order, and is left with
  the bytes behind all of them.
-/
theorem ask_stream_append
    {parcels : List (Parcel limit)}
    (rest : List UInt8)
    (hMemory : (stream parcels).length < 2 ^ 64) :
    ((Receiver.empty limit).push (stream parcels ++ rest)).ask
        (List.replicate parcels.length []) =
      ((Receiver.empty limit).push rest,
        parcels.map answer) := by
  induction parcels with
  | nil => rfl
  | cons p parcels ih =>
      rw [stream_cons, List.length_append] at hMemory
      have hNext :=
        nextEnvelope_push_append p (stream parcels ++ rest)
          (by omega)
      have hLater := ih (by omega)
      rw [stream_cons, List.append_assoc, List.length_cons,
        List.replicate_succ, Receiver.ask, Receiver.push_nil,
        hNext]
      simp only [hLater, List.map_cons]

/-
  Frames that arrive in one piece are answered for one by one,
  a wrong checksum with both checksums and any other frame
  with what its body says.  None is left out, answered for
  twice or taken together with another: after some of them
  exactly the bytes of the others wait.  In the end nothing
  waits, and the receiver says so.
-/
theorem ask_stream
    (parcels : List (Parcel limit))
    (hMemory : (stream parcels).length < 2 ^ 64) :
    let arrived := (Receiver.empty limit).push (stream parcels)
    let asked := arrived.ask (List.replicate parcels.length [])
    asked.2 = parcels.map answer ∧
      asked.1.buffer = [] ∧
      asked.1.nextEnvelope = (asked.1, .ok none) ∧
      ∀ earlier later,
        parcels = earlier ++ later →
          arrived.ask (List.replicate earlier.length []) =
            ((Receiver.empty limit).push (stream later),
              earlier.map answer) := by
  intro arrived asked
  have hAsked :
      asked = ((Receiver.empty limit).push [],
        parcels.map answer) := by
    have hAll := ask_stream_append [] hMemory
    rwa [List.append_nil] at hAll
  rw [hAsked]
  refine ⟨rfl, rfl, rfl, ?_⟩
  rintro earlier later rfl
  have hSplit :
      stream (earlier ++ later) =
        stream earlier ++ stream later := by
    simp only [stream, List.map_append, List.flatten_append]
  simp only [arrived, hSplit]
  rw [hSplit, List.length_append] at hMemory
  exact ask_stream_append (stream later) (by omega)

/- The question of a client for the mode. -/
def question : Parcel 54 where
  front := [54]
  crc := Crc32.checksum modeQuestion.toBody
  body := modeQuestion.toBody
  closed := by decide
  places := by decide
  denotes := by decide +kernel
  allowed := by decide +kernel

/- An empty body with a wrong checksum. -/
def spoiled : Parcel 54 where
  front := [0]
  crc := 7
  body := []
  closed := by decide
  places := by decide
  denotes := by decide
  allowed := by decide

/- An empty list as a body, with three blanks and a long length. -/
def padded : Parcel 54 where
  front := longFive
  crc := Crc32.checksum [0x5B, 0x5D, 0x20, 0x20, 0x20]
  body := [0x5B, 0x5D, 0x20, 0x20, 0x20]
  closed := by decide
  places := by decide
  denotes := by decide
  allowed := by decide

/- All of them, and an empty body, in one stream. -/
theorem ask_stream_mixed :
    let parcels :=
      [padded, spoiled, question, { spoiled with crc := 0 }]
    let arrived := (Receiver.empty 54).push (stream parcels)
    let asked := arrived.ask (List.replicate 4 [])
    asked.2 =
        [.error (.body .noHeader padded.body),
          .error (.checksum 7 0), .ok (some modeQuestion),
          .error (.body .notJson [])] ∧
      asked.1.nextEnvelope = (asked.1, .ok none) := by
  intro parcels arrived asked
  have hMemory : (stream parcels).length < 2 ^ 64 := by
    decide +kernel
  rcases ask_stream parcels hMemory with ⟨hAnswers, _, hEnd, _⟩
  refine ⟨?_, hEnd⟩
  rw [show asked.2 = _ from hAnswers]
  decide +kernel

end Parcel

end Frame

end CaptureLink
