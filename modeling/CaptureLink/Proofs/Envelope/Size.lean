import CaptureLink.Envelope.Body
import CaptureLink.Proofs.Json.Size

/-
  How long the bodies of messages are.  The body of a report
  is as long as the texts in it and a hundred bytes more.

  Main statements:
    * `Envelope.length_toBody`
    * `Envelope.length_failure`
    * `Envelope.length_reply`
    * `Envelope.length_fresh`
-/

namespace CaptureLink

open Json Json.Tree

/- A header takes the names in it and the signs around them. -/
theorem Header.size_toTree
    (id : String)
    (responseId : Option String) :
    (Header.toTree ⟨id, responseId⟩).size =
      spelledSize id + 9 +
        responseId.elim 0 fun name => spelledSize name + 17 := by
  have hId : spelledSize "id" = 2 := by decide
  have hResponse : spelledSize "response_id" = 11 := by decide
  cases responseId with
  | none =>
      simp only [toTree, size_record (List.cons_ne_nil _ _),
        List.map_cons, List.map_nil, List.sum_cons, List.sum_nil,
        fieldSize, size_text, hId, Option.elim_none]
      omega
  | some name =>
      simp only [toTree, size_record (List.cons_ne_nil _ _),
        List.map_cons, List.map_nil, List.sum_cons, List.sum_nil,
        fieldSize, size_text, hId, hResponse, Option.elim_some]
      omega

/- A payload takes the name of its kind and what stands behind it. -/
theorem Payload.size_toTree (p : Payload) :
    p.toTree.size = spelledSize p.kind.name + p.body.size + 5 := by
  simp only [toTree, size_record (List.cons_ne_nil _ _),
    List.map_cons, List.map_nil, List.sum_cons, List.sum_nil,
    fieldSize]
  omega

/- A report takes its texts and the names of its fields. -/
theorem ErrorReport.size_toTree (r : ErrorReport) :
    r.toTree.size =
      spelledSize r.category + spelledSize r.message +
        (Tree.bool r.isFatal).size + 36 := by
  have hType : spelledSize "type" = 4 := by decide
  have hMessage : spelledSize "message" = 7 := by decide
  have hFatal : spelledSize "is_fatal" = 8 := by decide
  simp only [toTree, size_record (List.cons_ne_nil _ _),
    List.map_cons, List.map_nil, List.sum_cons, List.sum_nil,
    fieldSize, size_text, hType, hMessage, hFatal]
  omega

namespace Envelope

/- The body of a message is its text in bytes. -/
theorem length_toBody (e : Envelope) :
    e.toBody.length = e.toTree.size :=
  Text.length_bytes_ofList _

/- The body of a message takes its header and its payload. -/
theorem length_of_payload
    (header : Header)
    (payload : Payload) :
    (toBody ⟨header, some payload⟩).length =
      header.toTree.size + spelledSize payload.kind.name +
        payload.body.size + 27 := by
  have hHeader : spelledSize "header" = 6 := by decide
  have hPayload : spelledSize "payload" = 7 := by decide
  simp only [length_toBody, toTree,
    size_record (List.cons_ne_nil _ _), List.map_cons,
    List.map_nil, List.sum_cons, List.sum_nil, fieldSize,
    Payload.size_toTree, hHeader, hPayload]
  omega

/- The length of a report about a message. -/
theorem length_failure
    (id : String)
    (responseId : Option String)
    (report : ErrorReport) :
    (failure id responseId report).toBody.length =
      spelledSize id +
        (responseId.elim 0 fun name => spelledSize name + 17) +
        spelledSize report.category + spelledSize report.message +
        (Tree.bool report.isFatal).size + 77 := by
  have hKind :
      spelledSize (Payload.error report).kind.name = 5 := by
    simp only [Payload.kind]
    decide
  simp only [failure, length_of_payload, Header.size_toTree,
    hKind, Payload.body, ErrorReport.size_toTree]
  omega

/- The length of an answer to a message. -/
theorem length_reply
    (id name : String)
    (payload : Payload) :
    (reply id name payload).toBody.length =
      spelledSize id + spelledSize name +
        spelledSize payload.kind.name + payload.body.size + 53 := by
  simp only [reply, length_of_payload, Header.size_toTree,
    Option.elim_some]
  omega

/- The length of a message that answers none. -/
theorem length_fresh
    (id : String)
    (payload : Payload) :
    (fresh id payload).toBody.length =
      spelledSize id + spelledSize payload.kind.name +
        payload.body.size + 36 := by
  simp only [fresh, length_of_payload, Header.size_toTree,
    Option.elim_none]
  omega

end Envelope

end CaptureLink
