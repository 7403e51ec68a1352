import CaptureLink.Envelope.Body
import CaptureLink.Proofs.Json.Settle
import CaptureLink.Proofs.Session.Atomicity

/-
  Messages whose payload cannot be read.  Whatever else is in
  a body, a header that can be read is kept, and with it the
  payload if that can be read.  A session answers a message
  without a payload as malformed, under the name in its
  header, and does nothing else.

  Main statements:
    * `Payload.ofTree?_eq_some_iff`
    * `Envelope.ofBody_eq_notJson_iff`
    * `Envelope.ofSettled_record`
    * `Envelope.header_kept`
-/

namespace CaptureLink

open Json
open CaptureLink.Json.Tree (Ordinary)

------------------------------------------------------------
-- Payloads
------------------------------------------------------------

/- A name is found only for the kind that has it. -/
theorem Kind.name_of_ofName?
    {tag : String}
    {k : Kind}
    (hFound : ofName? tag = some k) : k.name = tag := by
  unfold ofName? at hFound
  split at hFound
  case h_15 => cases hFound
  all_goals
    cases hFound
    rfl

namespace Payload

/- What is read behind a tag is of the kind of the tag. -/
theorem kind_of_ofBody?
    {kind : Kind}
    {t : Tree}
    {p : Payload}
    (hRead : ofBody? kind t = some p) : p.kind = kind := by
  cases kind with
  | motionInfo =>
      simp only [ofBody?, Option.bind_eq_bind,
        Option.bind_eq_some_iff] at hRead
      rcases hRead with ⟨values, _, hRead⟩
      split at hRead
      · simp only [Option.bind_eq_some_iff, Option.some.injEq]
          at hRead
        rcases hRead with ⟨mode, _, transform, _, rfl⟩
        rfl
      · cases hRead
  | _ =>
      simp only [ofBody?, Option.map_eq_some_iff] at hRead
      rcases hRead with ⟨_, _, rfl⟩
      rfl

/-
  A value denotes a payload: it has one tag, the name of the
  payload's kind, and the payload's fields stand behind it.
-/
def DenotedBy
    (p : Payload)
    (t : Tree) : Prop :=
  ∃ value,
    t = .record [(p.kind.name, value)] ∧
      TagBody.object.admits p.kind value = true ∧
      ofBody? p.kind value = some p

/- A payload is read exactly from the values that denote it. -/
theorem ofTree?_eq_some_iff
    (t : Tree)
    (p : Payload) :
    ofTree? .object t = some p ↔ p.DenotedBy t := by
  constructor
  · intro hRead
    unfold ofTree? at hRead
    simp only [Option.bind_eq_bind, Option.bind_eq_some_iff]
      at hRead
    rcases hRead with
      ⟨⟨tag, value⟩, hSole, kind, hKind, hBody⟩
    split at hBody
    · rename_i hAdmits
      have hPayload := kind_of_ofBody? hBody
      subst hPayload
      refine ⟨value, ?_, hAdmits, hBody⟩
      rw [Kind.name_of_ofName? hKind]
      unfold Tree.soleMember? at hSole
      split at hSole
      · cases hSole
        rfl
      · cases hSole
    · cases hBody
  · rintro ⟨value, rfl, hAdmits, hBody⟩
    have hSole :
        (Tree.record [(p.kind.name, value)]).soleMember? =
          some (p.kind.name, value) := rfl
    simp [ofTree?, hSole, Kind.ofName?_name, hAdmits, hBody]

end Payload

------------------------------------------------------------
-- Bodies
------------------------------------------------------------

namespace Envelope

/- A field that may be null, where null cannot be read. -/
theorem getD_nullable
    {α : Type}
    {read : Tree → Option α}
    (hNull : read .null = none)
    (value : Option Tree) :
    (nullable read value).getD none = value.bind read := by
  unfold nullable
  split
  · rfl
  · exact hNull.symm
  · rename_i value _
    cases hRead : read value with
    | none => simp [hRead]
    | some x => simp [hRead]

/- The member of a record with some name is its field. -/
theorem member?_record
    (name : String)
    (fields : List (String × Tree)) :
    member? name (.record fields) = List.lookup name fields := by
  induction fields with
  | nil => rfl
  | cons field fields ih =>
      obtain ⟨key, value⟩ := field
      by_cases hKey : name = key
      · subst hKey
        simp [member?, Tree.record]
      · have hKey' : ¬key = name := fun hEq => hKey hEq.symm
        have hBeq : (name == key) = false := beq_false_of_ne hKey
        rw [List.lookup_cons, hBeq, ← ih]
        simp [member?, Tree.record, hKey']

/-
  A record with a header that can be read is a message with
  this header, and with its payload if that can be read.
-/
theorem ofSettled_record
    {fields : List (String × Tree)}
    {h : Header}
    (hNodup : (fields.map Prod.fst).Nodup)
    (hHeader :
      (fields.lookup "header").bind Header.ofTree? = some h) :
    ofSettled (.record fields) =
      .ok
        ⟨h,
          (fields.lookup "payload").bind
            (Payload.ofTree? .object)⟩ := by
  rcases Option.bind_eq_some_iff.mp hHeader with
    ⟨header, hFound, hRead⟩
  have hEnvelope :
      ofTree? .object (.record fields) =
        (nullable (Payload.ofTree? .object)
          (fields.lookup "payload")).map (⟨h, ·⟩) := by
    rw [ofTree?, Tree.fields?_record hNodup]
    simp [hFound, required, hRead, Option.map_eq_bind]
  have hFallback :
      member? "header" (.record fields) = some header := by
    rw [member?_record, hFound]
  have hSettled :
      ofSettled (.record fields) =
        .ok
          ((ofTree? .object (.record fields)).getD ⟨h, none⟩) := by
    unfold ofSettled
    cases ofTree? .object (.record fields) with
    | some e => rfl
    | none =>
        simp only [hFallback, hRead]
        rfl
  have hNull : Payload.ofTree? .object .null = none := rfl
  rw [hSettled, hEnvelope, Option.getD_map,
    getD_nullable hNull]

/- The settled tree of a body that spells a tree. -/
theorem settledBody?_of_spelled
    {body : List UInt8}
    {text : String}
    {t : Tree}
    (hText : Text.ofBytes? body = some text)
    (hTree : Tree.ofChars? text.toList = some t) :
    settledBody? body = t.settle? Tree.maxDepth := by
  simp only [settledBody?, hText, hTree, Option.bind_eq_bind,
    Option.bind_some]

/-
  Nothing is kept of a body exactly if it spells no tree, or
  one that is not within the limits.
-/
theorem ofBody_eq_notJson_iff (body : List UInt8) :
    ofBody body = .error .notJson ↔
      ∀ text t,
        Text.ofBytes? body = some text →
        Tree.ofChars? text.toList = some t →
          ¬ Ordinary Tree.maxDepth t := by
  constructor
  · intro hLost text t hText hTree hOrdinary
    rcases Option.isSome_iff_exists.mp
        ((Tree.isSome_settle?_iff _ t).mpr hOrdinary) with
      ⟨settled, hSettle⟩
    rw [ofBody, settledBody?_of_spelled hText hTree, hSettle]
      at hLost
    simp only [ofSettled] at hLost
    split at hLost
    · cases hLost
    · split at hLost
      · cases hLost
      · split at hLost
        · cases hLost
        · cases hLost
  · intro hUnspelled
    have hNone : settledBody? body = none := by
      cases hText : Text.ofBytes? body with
      | none => simp [settledBody?, hText]
      | some text =>
          cases hTree : Tree.ofChars? text.toList with
          | none => simp [settledBody?, hText, hTree]
          | some t =>
              rw [settledBody?_of_spelled hText hTree,
                ← Option.not_isSome_iff_eq_none,
                Tree.isSome_settle?_iff]
              exact hUnspelled text t hText hTree
    rw [ofBody, hNone]

------------------------------------------------------------
-- Headers
------------------------------------------------------------

/-
  A message is answered as malformed, under its name, by a
  session that counts it and its answer and does nothing else.
-/
structure Rejects
    {σ κ : Type}
    (s : Session σ κ)
    (fresh id : String)
    (step : Session.Step σ κ (Option Envelope)) : Prop where
  untouched : Session.Untouched s step
  answered :
    ∃ message,
      step.result =
        some
          (.failure fresh (some id)
            ⟨"MalformedMessageError", message, false⟩)

/-
  A body spells an object within the limits of a reader
  without expectations.  If there is a header in it that can
  be read, then it is kept, whatever else is in the object,
  and the payload is the one that is denoted by its field, or
  none.  If there is none, every session answers the message
  as malformed, and does nothing else.
-/
theorem header_kept
    {body : List UInt8}
    {text : String}
    {members : List (Option String × Tree)}
    (hText : Text.ofBytes? body = some text)
    (hObject : Tree.ofChars? text.toList = some (.object members))
    (hOrdinary : Ordinary Tree.maxDepth (.object members)) :
    ∃ fields,
      (Tree.object members).settle? Tree.maxDepth =
          some (.record fields) ∧
        (fields.map Prod.fst).Nodup ∧
        ∀ h,
          (fields.lookup "header").bind Header.ofTree? = some h →
            ∃ payload,
              ofBody body = .ok ⟨h, payload⟩ ∧
                (∀ p,
                  payload = some p ↔
                    ∃ t,
                      fields.lookup "payload" = some t ∧
                        p.DenotedBy t) ∧
                (payload = none →
                  ∀ (σ κ : Type) (d : Delegate σ) (fresh : String)
                    (s : Session σ κ),
                    Rejects s fresh h.id
                      (s.process d fresh ⟨h, payload⟩)) := by
  rcases Tree.exists_record_of_settle? hOrdinary with
    ⟨fields, hSettle, hNodup⟩
  refine ⟨fields, hSettle, hNodup, fun h hHeader => ?_⟩
  refine ⟨(fields.lookup "payload").bind
    (Payload.ofTree? .object), ?_, ?_, ?_⟩
  · rw [ofBody, settledBody?_of_spelled hText hObject, hSettle]
    exact ofSettled_record hNodup hHeader
  · intro p
    simp only [Option.bind_eq_some_iff,
      Payload.ofTree?_eq_some_iff]
  · intro hMissing σ κ d fresh s
    rcases Session.process_of_missing d fresh s
        (e := ⟨h, _⟩) hMissing with
      ⟨hUntouched, hResult⟩
    exact ⟨hUntouched, _, hResult⟩

/- A client asks for something that does not exist. -/
def strangeRequest : Tree :=
  .record
    [ ("header", .record [("id", .text "x1")]),
      ("payload", .record [("teleport", .record [])]) ]

/- The name of the request is kept, and its payload is not. -/
theorem header_kept_strange_request :
    let text := String.ofList strangeRequest.compact
    Text.ofBytes? (Text.bytes text) = some text ∧
      Tree.ofChars? text.toList = some strangeRequest ∧
      Ordinary Tree.maxDepth strangeRequest ∧
      ofBody (Text.bytes text) = .ok ⟨⟨"x1", none⟩, none⟩ := by
  intro text
  have hOrdinary : Ordinary Tree.maxDepth strangeRequest :=
    (Tree.isSome_settle?_iff ..).mp rfl
  have hSettle :
      strangeRequest.settle? Tree.maxDepth =
        some strangeRequest := rfl
  have hLegible : strangeRequest.Legible :=
    (Tree.settled_of_settle? hSettle).2.legible
  have hText : Text.ofBytes? (Text.bytes text) = some text :=
    Text.ofBytes?_bytes text
  have hTree :
      Tree.ofChars? text.toList = some strangeRequest := by
    rw [String.toList_ofList]
    exact Tree.ofChars?_write hLegible _
  rcases header_kept hText hTree hOrdinary with
    ⟨fields, hFields, _, hKept⟩
  have hRecord : strangeRequest = .record fields :=
    Option.some.inj (hSettle.symm.trans hFields)
  have hHeader :
      (fields.lookup "header").bind Header.ofTree? =
        some ⟨"x1", none⟩ := by
    rw [← member?_record, ← hRecord]
    rfl
  rcases hKept _ hHeader with ⟨payload, hBody, hPayload, _⟩
  refine ⟨hText, hTree, hOrdinary, ?_⟩
  cases payload with
  | none => exact hBody
  | some p =>
      rcases (hPayload p).mp rfl with ⟨t, hFound, hDenoted⟩
      rw [← member?_record, ← hRecord] at hFound
      cases hFound
      rw [← Payload.ofTree?_eq_some_iff] at hDenoted
      cases hDenoted

/- A header, and a number that is no double. -/
def vastNumber : Tree :=
  .record
    [ ("header", .record [("id", .text "x")]),
      ("z", .number ['1', 'e', '4', '0', '0']) ]

/-
  The object has a header that can be read, and is a message
  for the reader that passes over what no field takes.  As the
  body of a frame it is refused, and its header is lost.
-/
theorem header_lost_vast_number :
    let text := String.ofList vastNumber.compact
    text = "\x7b\"header\":\x7b\"id\":\"x\"\x7d,\"z\":1e400\x7d" ∧
      Tree.ofChars? text.toList = some vastNumber ∧
      (member? "header" vastNumber).bind Header.ofTree? =
        some ⟨"x", none⟩ ∧
      ofJson? text.toList = some ⟨⟨"x", none⟩, none⟩ ∧
      ¬ ∃ payload,
        ofBody (Text.bytes text) = .ok ⟨⟨"x", none⟩, payload⟩ := by
  intro text
  let header : Tree := .record [("id", .text "x")]
  have hSettle : header.settle? 1 = some header := rfl
  have hHeader : header.Legible :=
    (Tree.settled_of_settle? hSettle).2.legible
  have hLegible : vastNumber.Legible := by
    apply Tree.Legible.object
    rw [List.map_cons, List.map_cons, List.forall_mem_cons,
      List.forall_mem_cons]
    exact ⟨hHeader, .number rfl, nofun⟩
  have hTree : Tree.ofChars? text.toList = some vastNumber := by
    rw [String.toList_ofList]
    exact Tree.ofChars?_write hLegible _
  have hBody : ofBody (Text.bytes text) = .error .notJson := by
    rw [ofBody, settledBody?_of_spelled
      (Text.ofBytes?_bytes text) hTree]
    rfl
  refine ⟨rfl, hTree, rfl, ?_, ?_⟩
  · rw [ofJson?, hTree]
    rfl
  · rw [hBody]
    exact nofun

end Envelope

end CaptureLink
