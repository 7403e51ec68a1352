import CaptureLink.Proofs.Envelope.Json

/-
  Envelopes and their texts.  Every tree that is written for
  an envelope has a text in every layout, and the text is read
  back to the tree: a number that is not finite is written as
  null, which is JSON as well.  Reading expects a number in
  its place, so the envelope is read back, bit for bit, if its
  transform is finite, and nothing is read if it is not.

  Main statements:
    * `Envelope.legible_toTree`
    * `Envelope.ofJson?_write`
    * `Envelope.ofTree?_toTree_of_infinite`
    * `Envelope.ofJson?_written`
-/

namespace CaptureLink

open Json

------------------------------------------------------------
-- Every envelope has a text
------------------------------------------------------------

open CaptureLink.Json.Tree (Legible)

/- A record of legible values is legible. -/
theorem Json.Tree.legible_record
    {fields : List (String × Tree)}
    (hFields : ∀ field ∈ fields, Legible field.2) :
    Legible (.record fields) := by
  apply Legible.object
  intro m hMem
  rcases List.mem_map.mp hMem with ⟨field, hField, rfl⟩
  exact hFields field hField

/- A double is written as a numeral, or as null. -/
theorem Json.Tree.legible_real (x : Binary64) :
    Legible (.real x) := by
  by_cases hFinite : x.isFinite = true
  · have hSettled : Tree.Settled 0 (.real x) :=
      Tree.settled_real hFinite
    exact hSettled.legible
  · rw [Tree.real, if_neg hFinite]
    exact .null

theorem Vector3.legible_toTree (v : Vector3) :
    v.toTree.Legible := by
  apply Tree.legible_record
  simp [Tree.legible_real]

theorem Transform.legible_toTree (t : Transform) :
    t.toTree.Legible := by
  apply Tree.legible_record
  simp [Vector3.legible_toTree]

/- Only a transform can keep a payload from being settled. -/
theorem Payload.legible_body (p : Payload) : p.body.Legible := by
  cases p with
  | motionUpdate transform =>
      apply Tree.legible_record
      simp [transform.legible_toTree]
  | motionInfo mode transform =>
      apply Tree.legible_record
      simp [transform.legible_toTree, MotionMode.toTree, Tree.text,
        Legible.string]
  | _ =>
      apply (Payload.settled_body _).legible
      intro t hCarried
      cases hCarried

/- The tree of an envelope is legible, whatever its numbers are. -/
theorem Envelope.legible_toTree (e : Envelope) :
    e.toTree.Legible := by
  have hHeader : e.header.toTree.Legible :=
    (e.header.settled_toTree 0).legible
  unfold toTree
  cases e.payload with
  | none =>
      apply Tree.legible_record
      simp [hHeader]
  | some payload =>
      have hPayload : payload.toTree.Legible := by
        apply Tree.legible_record
        simp [payload.legible_body]
      apply Tree.legible_record
      simp [hHeader, hPayload]

/- So what is read of its text is what is read of the tree. -/
theorem Envelope.ofJson?_write
    (e : Envelope)
    (layout : Layout) :
    ofJson? (e.toTree.write layout) =
      ofTree? .anyRecord e.toTree := by
  rw [ofJson?, Tree.ofChars?_write e.legible_toTree,
    Option.bind_some]

------------------------------------------------------------
-- Numbers that are not finite
------------------------------------------------------------

/- What is written for them is not read as a number. -/
theorem Json.Tree.real?_real_of_infinite
    {x : Binary64}
    (hInfinite : x.isFinite = false) :
    (Tree.real x).real? = none := by
  rw [Tree.real, hInfinite, if_neg Bool.false_ne_true]
  rfl

/- A vector is read off its three numbers. -/
theorem Vector3.ofTree?_toTree_eq_bind (v : Vector3) :
    ofTree? v.toTree =
      (Tree.real v.x).real?.bind fun x =>
        (Tree.real v.y).real?.bind fun y =>
          (Tree.real v.z).real?.bind fun z => some ⟨x, y, z⟩ := by
  rw [toTree, ofTree?, Tree.fields?_record (by simp)]
  simp [List.lookup_cons, required]

/- With one of them missing it is not read. -/
theorem Vector3.ofTree?_toTree_of_infinite
    {v : Vector3}
    (hInfinite : v.isFinite = false) :
    ofTree? v.toTree = none := by
  simp only [isFinite, Bool.and_eq_false_iff] at hInfinite
  rw [ofTree?_toTree_eq_bind]
  rcases hInfinite with (hx | hy) | hz
  · rw [Tree.real?_real_of_infinite hx, Option.bind_none]
  · simp only [Tree.real?_real_of_infinite hy, Option.bind_none,
      Option.bind_fun_none]
  · simp only [Tree.real?_real_of_infinite hz, Option.bind_none,
      Option.bind_fun_none]

/- Nor is a transform with such a vector. -/
theorem Transform.ofTree?_toTree_of_infinite
    {t : Transform}
    (hInfinite : t.isFinite = false) :
    ofTree? t.toTree = none := by
  simp only [isFinite, Bool.and_eq_false_iff] at hInfinite
  rw [toTree, ofTree?, Tree.fields?_record (by simp)]
  rcases hInfinite with hTranslation | hOrientation
  · simp [List.lookup_cons, required,
      Vector3.ofTree?_toTree_of_infinite hTranslation]
  · simp [List.lookup_cons, required,
      Vector3.ofTree?_toTree_of_infinite hOrientation]

/- Nor is a payload with such a transform. -/
theorem Payload.ofBody?_body_of_infinite
    {p : Payload}
    {t : Transform}
    (hCarried : p.transform? = some t)
    (hInfinite : t.isFinite = false) :
    ofBody? p.kind p.body = none := by
  cases p with
  | motionUpdate transform =>
      cases hCarried
      simp [ofBody?, kind, body, soleField?_record, required,
        Transform.ofTree?_toTree_of_infinite hInfinite]
  | motionInfo mode transform =>
      cases hCarried
      simp only [ofBody?, kind, body]
      rw [Tree.fields?_record (by simp)]
      simp [List.lookup_cons, required,
        Transform.ofTree?_toTree_of_infinite hInfinite]
  | _ => cases hCarried

/- Nor is an envelope with such a payload, by either rule. -/
theorem Envelope.ofTree?_toTree_of_infinite
    {e : Envelope}
    {t : Transform}
    (rule : TagBody)
    (hCarried : e.transform? = some t)
    (hInfinite : t.isFinite = false) :
    ofTree? rule e.toTree = none := by
  obtain ⟨header, payload⟩ := e
  cases payload with
  | none => cases hCarried
  | some payload =>
      have hSole :
          payload.toTree.soleMember? =
            some (payload.kind.name, payload.body) := rfl
      have hTag : Payload.ofTree? rule payload.toTree = none := by
        simp [Payload.ofTree?, hSole, Kind.ofName?_name,
          rule.admits_body payload,
          Payload.ofBody?_body_of_infinite hCarried hInfinite]
      have hPayload :
          nullable (Payload.ofTree? rule) (some payload.toTree) =
            none := by
        change (Payload.ofTree? rule payload.toTree).map some = _
        rw [hTag]
        rfl
      simp only [toTree]
      rw [ofTree?, Tree.fields?_record (by simp)]
      simp [List.lookup_cons, required, hPayload]

------------------------------------------------------------
-- Reading what was written
------------------------------------------------------------

namespace Envelope

/-
  Both texts of an envelope are read back to the envelope,
  every text and every double in it as it was, if its
  transform is finite or it carries none.  If a number in its
  transform is not finite, nothing is read of either.
-/
theorem ofJson?_written (e : Envelope) :
    ((∀ t, e.transform? = some t → t.isFinite = true) →
        ofJson? e.toJson.toList = some e ∧
          ofJson? e.toPrettyJson.toList = some e) ∧
      ((∃ t, e.transform? = some t ∧ t.isFinite = false) →
        ofJson? e.toJson.toList = none ∧
          ofJson? e.toPrettyJson.toList = none) := by
  have hCompact :
      ofJson? e.toJson.toList = ofTree? .anyRecord e.toTree := by
    rw [toJson, String.toList_ofList, Tree.compact,
      ofJson?_write]
  have hPretty :
      ofJson? e.toPrettyJson.toList =
        ofTree? .anyRecord e.toTree := by
    rw [toPrettyJson, String.toList_ofList, Tree.pretty,
      ofJson?_write]
  rw [hCompact, hPretty, and_self, and_self]
  constructor
  · intro hFinite
    exact ofTree?_toTree .anyRecord hFinite
  · rintro ⟨t, hCarried, hInfinite⟩
    exact ofTree?_toTree_of_infinite .anyRecord hCarried
      hInfinite

/- A device far away, whose last angle is a NaN or zero. -/
def turned (z : Binary64) : Envelope :=
  .reply "\x00\"" "\\é" (.motionInfo .recording
    { translation := ⟨⟨0x7FEFFFFFFFFFFFFF⟩, ⟨1⟩, .zero⟩
      orientation := ⟨.zero, .zero, z⟩ })

/- The negative zero is read back, and a NaN is not. -/
theorem ofJson?_written_turned :
    let fair := turned ⟨0x8000000000000000⟩
    let unfair := turned ⟨0x7FF8000000000000⟩
    (∀ t, fair.transform? = some t → t.isFinite = true) ∧
      ofJson? fair.toPrettyJson.toList = some fair ∧
      (∃ t, unfair.transform? = some t ∧ t.isFinite = false) ∧
      ofJson? unfair.toJson.toList = none := by
  intro fair unfair
  have hFinite :
      ∀ t, fair.transform? = some t → t.isFinite = true := by
    intro t hCarried
    cases hCarried
    decide
  have hInfinite :
      ∃ t, unfair.transform? = some t ∧ t.isFinite = false :=
    ⟨_, rfl, by decide⟩
  exact ⟨hFinite, ((ofJson?_written fair).1 hFinite).2,
    hInfinite, ((ofJson?_written unfair).2 hInfinite).1⟩

end Envelope

end CaptureLink
