import CaptureLink.Envelope.Body
import CaptureLink.Proofs.Json.Record

/-
  Envelopes read back from what is written for them: from
  their trees, which are settled, and from the bodies of
  frames.  The numbers in a transform have to be finite,
  since JSON has no numerals for others.

  Main statements:
    * `Envelope.ofTree?_toTree`
    * `Envelope.settled_toTree`
    * `Envelope.ofBody_toBody`
-/

namespace CaptureLink

open Json

------------------------------------------------------------
-- The parts of an envelope
------------------------------------------------------------

@[simp] theorem FeatureSet.ofTree?_toTree (s : FeatureSet) :
    ofTree? s.toTree = some s := by
  rw [toTree, ofTree?, Tree.word32?_natural]
  rfl

@[simp] theorem ServerInfo.ofTree?_toTree (info : ServerInfo) :
    ofTree? info.toTree = some info := by
  rw [toTree, ofTree?, Tree.fields?_record (by simp)]
  simp [List.lookup_cons, required, Tree.text, Tree.text?]

@[simp] theorem ClientProfile.ofTree?_toTree
    (profile : ClientProfile) :
    ofTree? profile.toTree = some profile := by
  rw [toTree, ofTree?, Tree.fields?_record (by simp)]
  simp [List.lookup_cons, withDefault, Tree.text, Tree.text?]

theorem Vector3.ofTree?_toTree
    {v : Vector3}
    (hFinite : v.isFinite = true) :
    ofTree? v.toTree = some v := by
  simp only [isFinite, Bool.and_eq_true] at hFinite
  rw [toTree, ofTree?, Tree.fields?_record (by simp)]
  simp [List.lookup_cons, required, Tree.real?_real hFinite.1.1,
    Tree.real?_real hFinite.1.2, Tree.real?_real hFinite.2]

theorem Transform.ofTree?_toTree
    {t : Transform}
    (hFinite : t.isFinite = true) :
    ofTree? t.toTree = some t := by
  simp only [isFinite, Bool.and_eq_true] at hFinite
  rw [toTree, ofTree?, Tree.fields?_record (by simp)]
  simp [List.lookup_cons, required, Vector3.ofTree?_toTree hFinite.1,
    Vector3.ofTree?_toTree hFinite.2]

@[simp] theorem MotionMode.ofTree?_toTree (mode : MotionMode) :
    ofTree? mode.toTree = some mode := by
  cases mode <;> rfl

@[simp] theorem Camera.ofTree?_toTree (c : Camera) :
    ofTree? c.toTree = some c := by
  rw [toTree, ofTree?, Tree.fields?_record (by simp)]
  simp [List.lookup_cons, required, Tree.text, Tree.text?]

@[simp] theorem Camera.listOfTree?_map_toTree (cameras : List Camera) :
    listOfTree? (.array (cameras.map toTree)) = some cameras := by
  rw [listOfTree?, Tree.items?]
  induction cameras with
  | nil => rfl
  | cons c cameras ih =>
      simp only [Option.bind_eq_bind, Option.bind_some] at ih ⊢
      rw [List.map_cons, List.mapM_cons, ofTree?_toTree, ih]
      rfl

@[simp] theorem ErrorReport.ofTree?_toTree (r : ErrorReport) :
    ofTree? r.toTree = some r := by
  rw [toTree, ofTree?, Tree.fields?_record (by simp)]
  simp [List.lookup_cons, required, withDefault, Tree.text, Tree.text?,
    Tree.bool?]

@[simp] theorem Header.ofTree?_toTree (h : Header) :
    ofTree? h.toTree = some h := by
  obtain ⟨id, responseId⟩ := h
  cases responseId with
  | none =>
      simp only [toTree]
      rw [ofTree?, Tree.fields?_record (by simp)]
      simp [List.lookup_cons, required, nullable, Tree.text, Tree.text?]
  | some responseId =>
      simp only [toTree]
      rw [ofTree?, Tree.fields?_record (by simp)]
      simp [List.lookup_cons, required, nullable, Tree.text, Tree.text?]

------------------------------------------------------------
-- Payloads and envelopes
------------------------------------------------------------

/- The only field of a record is read from it. -/
theorem soleField?_record
    {α : Type}
    (name : String)
    (read : Option Tree → Option α)
    (value : Tree) :
    soleField? name read (.record [(name, value)]) =
      read (some value) := by
  rw [soleField?, Tree.fields?_record (by simp)]
  simp [List.lookup_cons]

/- A payload is read back from what stands behind its tag. -/
theorem Payload.ofBody?_body
    {p : Payload}
    (hFinite : ∀ t, p.transform? = some t → t.isFinite = true) :
    ofBody? p.kind p.body = some p := by
  cases p with
  | sessionStart info =>
      simp [ofBody?, kind, body, soleField?_record, withDefault]
  | sessionActivate profile =>
      simp [ofBody?, kind, body, soleField?_record, withDefault]
  | sessionShutdown => rfl
  | acknowledge => rfl
  | error report => simp [ofBody?, kind, body]
  | getCameraList => rfl
  | cameraList cameras =>
      simp [ofBody?, kind, body, soleField?_record, required]
  | setActiveCamera id =>
      simp [ofBody?, kind, body, soleField?_record, required,
        Tree.text, Tree.text?]
  | activeCameraInfo camera =>
      simp [ofBody?, kind, body, soleField?_record, required]
  | motionSetMode mode =>
      simp [ofBody?, kind, body, soleField?_record, required]
  | motionGetMode => rfl
  | motionActiveMode mode =>
      simp [ofBody?, kind, body, soleField?_record, required]
  | motionUpdate transform =>
      simp [ofBody?, kind, body, soleField?_record, required,
        Transform.ofTree?_toTree (hFinite transform rfl)]
  | motionInfo mode transform =>
      simp only [ofBody?, kind, body]
      rw [Tree.fields?_record (by simp)]
      simp [List.lookup_cons, required,
        Transform.ofTree?_toTree (hFinite transform rfl)]

/- Both readers take what is written behind a tag. -/
theorem TagBody.admits_body
    (rule : TagBody)
    (p : Payload) :
    rule.admits p.kind p.body = true := by
  cases p <;> rfl

theorem Payload.ofTree?_toTree
    {p : Payload}
    (rule : TagBody)
    (hFinite : ∀ t, p.transform? = some t → t.isFinite = true) :
    ofTree? rule p.toTree = some p := by
  have hSole :
      p.toTree.soleMember? = some (p.kind.name, p.body) := rfl
  simp [ofTree?, hSole, Kind.ofName?_name, rule.admits_body p,
    ofBody?_body hFinite]

/- Both readers read an envelope back. -/
theorem Envelope.ofTree?_toTree
    {e : Envelope}
    (rule : TagBody)
    (hFinite : ∀ t, e.transform? = some t → t.isFinite = true) :
    ofTree? rule e.toTree = some e := by
  obtain ⟨header, payload⟩ := e
  cases payload with
  | none =>
      simp only [toTree]
      rw [ofTree?, Tree.fields?_record (by simp)]
      simp [List.lookup_cons, required, nullable]
  | some payload =>
      have hPayload :
          nullable (Payload.ofTree? rule) (some payload.toTree) =
            some (some payload) := by
        change (Payload.ofTree? rule payload.toTree).map some = _
        rw [Payload.ofTree?_toTree rule hFinite]
        rfl
      simp only [toTree]
      rw [ofTree?, Tree.fields?_record (by simp)]
      simp [List.lookup_cons, required, hPayload]

------------------------------------------------------------
-- What is written is settled
------------------------------------------------------------

open CaptureLink.Json.Tree
  (Settled settled_record settled_real settled_natural)

theorem FeatureSet.settled_toTree
    (s : FeatureSet)
    (depth : Nat) :
    Settled depth s.toTree :=
  settled_natural (lt_trans s.bits.toNat_lt (by decide))

theorem ServerInfo.settled_toTree
    (info : ServerInfo)
    (depth : Nat) :
    Settled (depth + 1) info.toTree := by
  apply settled_record (by simp)
  simp [Settled.text, FeatureSet.settled_toTree]

theorem ClientProfile.settled_toTree
    (profile : ClientProfile)
    (depth : Nat) :
    Settled (depth + 1) profile.toTree := by
  apply settled_record (by simp)
  simp [Settled.text, FeatureSet.settled_toTree]

theorem Vector3.settled_toTree
    {v : Vector3}
    (depth : Nat)
    (hFinite : v.isFinite = true) :
    Settled (depth + 1) v.toTree := by
  simp only [isFinite, Bool.and_eq_true] at hFinite
  apply settled_record (by simp)
  simp [settled_real, hFinite]

theorem Transform.settled_toTree
    {t : Transform}
    (depth : Nat)
    (hFinite : t.isFinite = true) :
    Settled (depth + 2) t.toTree := by
  simp only [isFinite, Bool.and_eq_true] at hFinite
  apply settled_record (by simp)
  simp [Vector3.settled_toTree, hFinite]

theorem Camera.settled_toTree
    (c : Camera)
    (depth : Nat) :
    Settled (depth + 1) c.toTree := by
  apply settled_record (by simp)
  simp [Settled.text]

theorem ErrorReport.settled_toTree
    (r : ErrorReport)
    (depth : Nat) :
    Settled (depth + 1) r.toTree := by
  apply settled_record (by simp)
  simp [Settled.text, Settled.bool]

theorem Header.settled_toTree
    (h : Header)
    (depth : Nat) :
    Settled (depth + 1) h.toTree := by
  unfold toTree
  split
  · apply settled_record (by simp)
    simp [Settled.text]
  · apply settled_record (by simp)
    simp [Settled.text]

theorem Payload.settled_body
    {p : Payload}
    (hFinite : ∀ t, p.transform? = some t → t.isFinite = true) :
    Settled 3 p.body := by
  cases p with
  | sessionStart info =>
      apply settled_record (by simp)
      simp [ServerInfo.settled_toTree]
  | sessionActivate profile =>
      apply settled_record (by simp)
      simp [ClientProfile.settled_toTree]
  | error report => exact report.settled_toTree 2
  | cameraList cameras =>
      apply settled_record (by simp)
      simp only [List.mem_singleton, forall_eq]
      apply Settled.array
      intro t ht
      rcases List.mem_map.mp ht with ⟨c, _, rfl⟩
      exact c.settled_toTree 0
  | setActiveCamera id =>
      apply settled_record (by simp)
      simp [Settled.text]
  | activeCameraInfo camera =>
      apply settled_record (by simp)
      simp [Camera.settled_toTree]
  | motionSetMode mode =>
      apply settled_record (by simp)
      simp [MotionMode.toTree, Settled.text]
  | motionActiveMode mode =>
      apply settled_record (by simp)
      simp [MotionMode.toTree, Settled.text]
  | motionUpdate transform =>
      apply settled_record (by simp)
      simp [transform.settled_toTree 0 (hFinite transform rfl)]
  | motionInfo mode transform =>
      apply settled_record (by simp)
      simp [MotionMode.toTree, Settled.text,
        transform.settled_toTree 0 (hFinite transform rfl)]
  | _ =>
      apply settled_record (by simp)
      simp

/- An envelope with finite numbers is written as a settled tree. -/
theorem Envelope.settled_toTree
    {e : Envelope}
    (hFinite : ∀ t, e.transform? = some t → t.isFinite = true) :
    Settled 5 e.toTree := by
  obtain ⟨header, payload⟩ := e
  cases payload with
  | none =>
      apply settled_record (by simp)
      simp [Header.settled_toTree]
  | some payload =>
      have hPayload : Settled 4 payload.toTree := by
        apply settled_record (by simp)
        simp [payload.settled_body hFinite]
      apply settled_record (by simp)
      simp [Header.settled_toTree, hPayload]

------------------------------------------------------------
-- Bodies of frames
------------------------------------------------------------

/- A body gives back the envelope it was written for. -/
theorem Envelope.ofBody_toBody
    {e : Envelope}
    (hFinite : ∀ t, e.transform? = some t → t.isFinite = true) :
    ofBody e.toBody = .ok e := by
  have hSettled := settled_toTree hFinite
  have hBody : settledBody? e.toBody = some e.toTree := by
    simp only [settledBody?, toBody, Text.ofBytes?_bytes, toJson,
      String.toList_ofList, Tree.compact,
      Tree.ofChars?_write hSettled.legible, Option.bind_eq_bind,
      Option.bind_some]
    exact (hSettled.mono (by decide)).settle?_eq_self
  rw [ofBody, hBody]
  simp only [ofSettled, ofTree?_toTree .object hFinite]

end CaptureLink
