import CaptureLink.Envelope.Json
import CaptureLink.Text.Utf8

/-
  The bodies of frames.  A body is first read as JSON of any
  form, and a message whose payload is unreadable is kept for
  its header, so that it can be answered.

  Key definitions include:
    * `Envelope.BodyDefect`
    * `Envelope.ofSettled`
    * `Envelope.ofBody`
    * `Envelope.toBody`
-/

namespace CaptureLink

namespace Envelope

open Json

/- Why a body gives no message. -/
inductive BodyDefect where
/- It is not JSON. -/
| notJson
/- It is not an object with a header. -/
| noHeader
/- Its header cannot be read. -/
| unreadableHeader
deriving DecidableEq, Repr

/- A defect of a body as a fault, in the words of its reader. -/
def BodyDefect.toFault
    (words : Diagnosis)
    (body : List UInt8) : BodyDefect → Fault
| .notJson => .json (words.notJson body)
| .noHeader =>
    .malformedMessage
      ("message has no header: " ++ words.noMessage body)
| .unreadableHeader =>
    .malformedMessage
      ("unreadable header: " ++ words.unreadableHeader body)

/- The value of a member of an object. -/
def member? (name : String) : Tree → Option Tree
| .object members => (members.find? (·.1 = some name)).map (·.2)
| _ => none

/-
  The message in a settled tree, where keys are not repeated:
  the envelope if it can be read, else its header alone.
-/
def ofSettled (t : Tree) : Except BodyDefect Envelope :=
  match ofTree? .object t with
  | some envelope => .ok envelope
  | none =>
      match member? "header" t with
      | none => .error .noHeader
      | some header =>
          match Header.ofTree? header with
          | none => .error .unreadableHeader
          | some header => .ok ⟨header, none⟩

/- The settled tree that a body spells. -/
def settledBody? (body : List UInt8) : Option Tree := do
  let text ← Text.ofBytes? body
  let tree ← Tree.ofChars? text.toList
  tree.settle? Tree.maxDepth

/- The message in a body. -/
def ofBody (body : List UInt8) : Except BodyDefect Envelope :=
  match settledBody? body with
  | none => .error .notJson
  | some tree => ofSettled tree

/- The body of a message. -/
def toBody (e : Envelope) : List UInt8 :=
  Text.bytes e.toJson

end Envelope

end CaptureLink
