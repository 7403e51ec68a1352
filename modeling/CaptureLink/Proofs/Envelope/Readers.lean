import CaptureLink.Proofs.Envelope.Body

/-
  The two readers of messages.  One reads an envelope straight
  from its text, the other reads the text as JSON of any form
  first.  Where no object repeats a key the second reader
  changes nothing of what it reads, so both see the same tree.
  They differ in what they take of it: the second refuses what
  is not ordinary JSON, and payloads that give their fields by
  place.

  Main statements:
    * `Json.Tree.Unrepeated`
    * `Json.Tree.Ordinary.settled`
    * `Payload.ofTree?_anyRecord`
    * `Payload.ofTree?_object`
    * `Envelope.ofTree?_of_payload`
    * `Envelope.readers_agree`
-/

namespace CaptureLink

------------------------------------------------------------
-- Trees without repeated keys
------------------------------------------------------------

namespace Json

namespace Tree

/- No object in the tree repeats a key. -/
inductive Unrepeated : Tree → Prop where
| null : Unrepeated .null
| bool (b : Bool) : Unrepeated (.bool b)
| number (spelling : List Char) : Unrepeated (.number spelling)
| string (text : Option String) : Unrepeated (.string text)
| array
    {items : List Tree}
    (hItems : ∀ t ∈ items, Unrepeated t) :
    Unrepeated (.array items)
| object
    {members : List (Option String × Tree)}
    (hNodup : (members.filterMap Prod.fst).Nodup)
    (hMembers : ∀ m ∈ members, Unrepeated m.2) :
    Unrepeated (.object members)

/- Where every key is a text, the keys are these texts. -/
theorem map_some_keys
    {members : List (Option String × Tree)}
    (hKeys : ∀ m ∈ members, m.1.isSome = true) :
    (members.filterMap Prod.fst).map some =
      members.map Prod.fst := by
  induction members with
  | nil => rfl
  | cons m members ih =>
      obtain ⟨key, value⟩ := m
      rw [List.forall_mem_cons] at hKeys
      rcases Option.isSome_iff_exists.mp hKeys.1 with ⟨name, rfl⟩
      have hFirst : Prod.fst (some name, value) = some name := rfl
      rw [List.filterMap_cons_some hFirst, List.map_cons,
        List.map_cons, ih hKeys.2]

/- What is ordinary and repeats no key is settled already. -/
theorem Ordinary.settled
    {depth : Nat}
    {t : Tree}
    (hOrdinary : Ordinary depth t)
    (hUnrepeated : Unrepeated t) :
    Settled depth t := by
  induction hOrdinary with
  | null => exact .null
  | bool b => exact .bool b
  | number hRead =>
      rcases Option.isSome_iff_exists.mp hRead with ⟨x, hx⟩
      exact .number hx
  | text s => exact .text s
  | array _ ih =>
      cases hUnrepeated with
      | array hItems =>
          exact .array fun t hMem => ih t hMem (hItems t hMem)
  | object hKeys _ ih =>
      cases hUnrepeated with
      | object hNodup hMembers =>
          refine .object hKeys ?_
            fun m hMem => ih m hMem (hMembers m hMem)
          rw [← map_some_keys hKeys]
          exact hNodup.map (Option.some_injective _)

/- What is settled repeats no key. -/
theorem Settled.unrepeated
    {depth : Nat}
    {t : Tree}
    (hSettled : Settled depth t) :
    Unrepeated t := by
  induction hSettled with
  | null => exact .null
  | bool b => exact .bool b
  | number => exact .number _
  | text s => exact .string (some s)
  | array _ ih => exact .array ih
  | object hKeys hNodup _ ih =>
      refine .object ?_ ih
      rw [← map_some_keys hKeys] at hNodup
      exact hNodup.of_map some

end Tree

end Json

open Json
open CaptureLink.Json.Tree (Ordinary Unrepeated)

------------------------------------------------------------
-- Payloads
------------------------------------------------------------

namespace Payload

/- Only an object or an array has the fields of a payload. -/
theorem container_of_ofBody?
    {kind : Kind}
    {value : Tree}
    {p : Payload}
    (hRead : ofBody? kind value = some p) :
    (∃ members, value = .object members) ∨
      ∃ items, value = .array items := by
  cases value with
  | object members => exact .inl ⟨members, rfl⟩
  | array items => exact .inr ⟨items, rfl⟩
  | _ =>
      cases kind with
      | _ => cases hRead

/- What may stand behind a tag may do so under the weaker rule. -/
theorem ofTree?_anyRecord
    {t : Tree}
    {p : Payload}
    (hRead : ofTree? .object t = some p) :
    ofTree? .anyRecord t = some p := by
  rcases (ofTree?_eq_some_iff t p).mp hRead with
    ⟨value, rfl, _, hBody⟩
  have hSole :
      (Tree.record [(p.kind.name, value)]).soleMember? =
        some (p.kind.name, value) := rfl
  have hAdmits :
      TagBody.anyRecord.admits p.kind value = true := by
    unfold TagBody.admits
    split
    · rfl
    · rfl
  simp [ofTree?, hSole, Kind.ofName?_name, hAdmits, hBody]

/-
  What the weaker rule admits may stand behind its tag under
  the stronger one too, unless it is an array and no report.
-/
theorem ofTree?_object
    {t : Tree}
    {p : Payload}
    (hRead : ofTree? .anyRecord t = some p)
    (hFields :
      ∀ tag items,
        t.soleMember? = some (tag, .array items) →
          tag = "error") :
    ofTree? .object t = some p := by
  unfold ofTree? at hRead ⊢
  simp only [Option.bind_eq_bind, Option.bind_eq_some_iff]
    at hRead ⊢
  rcases hRead with ⟨⟨tag, value⟩, hSole, kind, hKind, hBody⟩
  refine ⟨⟨tag, value⟩, hSole, kind, hKind, ?_⟩
  split at hBody
  · have hAdmits : TagBody.object.admits kind value = true := by
      rcases container_of_ofBody? hBody with
        ⟨members, rfl⟩ | ⟨items, rfl⟩
      · rfl
      · rw [hFields tag items hSole] at hKind
        cases hKind
        rfl
    rw [if_pos hAdmits, hBody]
  · cases hBody

end Payload

------------------------------------------------------------
-- Envelopes
------------------------------------------------------------

namespace Envelope

/- The tag of the payload in an envelope, and the value behind it. -/
def tagged? (t : Tree) : Option (String × Tree) :=
  match t.fields? ["header", "payload"] with
  | some [_, some payload] => payload.soleMember?
  | _ => none

/- A field that may be null reads as much where its value does. -/
theorem nullable_of_imp
    {α : Type}
    {read read' : Tree → Option α}
    {field : Option Tree}
    {x : Option α}
    (hRead : nullable read field = some x)
    (hImp :
      ∀ value a,
        field = some value →
          read value = some a → read' value = some a) :
    nullable read' field = some x := by
  unfold nullable at hRead ⊢
  split at hRead
  · exact hRead
  · exact hRead
  · rename_i value _
    rcases Option.map_eq_some_iff.mp hRead with ⟨a, hValue, rfl⟩
    rw [hImp value a rfl hValue, Option.map_some]

/- An envelope is read as much where its payload is. -/
theorem ofTree?_of_payload
    {rule rule' : TagBody}
    {t : Tree}
    {e : Envelope}
    (hRead : ofTree? rule t = some e)
    (hPayload :
      ∀ header payload p,
        t.fields? ["header", "payload"] =
            some [header, some payload] →
          Payload.ofTree? rule payload = some p →
            Payload.ofTree? rule' payload = some p) :
    ofTree? rule' t = some e := by
  unfold ofTree? at hRead ⊢
  simp only [Option.bind_eq_bind, Option.bind_eq_some_iff]
    at hRead ⊢
  rcases hRead with ⟨values, hValues, hRead⟩
  refine ⟨values, hValues, ?_⟩
  split at hRead
  · rename_i header payload
    simp only [Option.bind_eq_some_iff] at hRead ⊢
    rcases hRead with ⟨h, hHeader, p, hNullable, hEnvelope⟩
    refine ⟨h, hHeader, p, ?_, hEnvelope⟩
    apply nullable_of_imp hNullable
    rintro value a rfl hValue
    exact hPayload header value a hValues hValue
  · cases hRead

/- A message with a payload is an envelope of the settled tree. -/
theorem ofTree?_of_ofSettled
    {t : Tree}
    {e : Envelope}
    (hRead : ofSettled t = .ok e)
    (hPayload : e.payload ≠ none) :
    ofTree? .object t = some e := by
  unfold ofSettled at hRead
  split at hRead
  · rename_i envelope hEnvelope
    cases hRead
    exact hEnvelope
  · split at hRead
    · cases hRead
    · split at hRead
      · cases hRead
      · cases hRead
        exact absurd rfl hPayload

/- What a body that repeats no key says is what its tree says. -/
theorem ofBody_of_unrepeated
    {text : String}
    {t : Tree}
    (hTree : Tree.ofChars? text.toList = some t)
    (hOrdinary : Ordinary Tree.maxDepth t)
    (hUnrepeated : Unrepeated t) :
    ofBody (Text.bytes text) = ofSettled t := by
  rw [ofBody,
    settledBody?_of_spelled (Text.ofBytes?_bytes text) hTree,
    (hOrdinary.settled hUnrepeated).settle?_eq_self]

/- A body that gives a message spells an ordinary tree. -/
theorem exists_ordinary_of_ofBody
    {text : String}
    {e : Envelope}
    (hRead : ofBody (Text.bytes text) = .ok e) :
    ∃ t,
      Tree.ofChars? text.toList = some t ∧
        Ordinary Tree.maxDepth t := by
  by_contra hNone
  have hLost : ofBody (Text.bytes text) = .error .notJson := by
    rw [ofBody_eq_notJson_iff]
    intro text' t hText hTree hOrdinary
    rw [Text.ofBytes?_bytes] at hText
    cases hText
    exact hNone ⟨t, hTree, hOrdinary⟩
  rw [hRead] at hLost
  cases hLost

/-
  In a text no object repeats a key.  If it is the body of a
  message with a payload, then it is the text of the same
  envelope.  If it is the text of an envelope, is ordinary
  JSON, and has no array behind the tag of its payload unless
  that is a report, then it is the body of the same message.
-/
theorem readers_agree
    {text : String}
    (hUnrepeated :
      ∀ t, Tree.ofChars? text.toList = some t → Unrepeated t) :
    (∀ e,
      ofBody (Text.bytes text) = .ok e →
      e.payload ≠ none →
        ofJson? text.toList = some e) ∧
    (∀ e t,
      ofJson? text.toList = some e →
      Tree.ofChars? text.toList = some t →
      Ordinary Tree.maxDepth t →
      (∀ tag items,
        tagged? t = some (tag, .array items) →
          tag = "error") →
        ofBody (Text.bytes text) = .ok e) := by
  constructor
  · intro e hRead hPayload
    rcases exists_ordinary_of_ofBody hRead with
      ⟨t, hTree, hOrdinary⟩
    rw [ofBody_of_unrepeated hTree hOrdinary
      (hUnrepeated t hTree)] at hRead
    rw [ofJson?, hTree, Option.bind_some]
    exact ofTree?_of_payload
      (ofTree?_of_ofSettled hRead hPayload)
      fun _ _ _ _ hValue => Payload.ofTree?_anyRecord hValue
  · intro e t hRead hTree hOrdinary hFields
    rw [ofJson?, hTree, Option.bind_some] at hRead
    have hEnvelope : ofTree? .object t = some e := by
      apply ofTree?_of_payload hRead
      intro header payload p hValues hValue
      apply Payload.ofTree?_object hValue
      intro tag items hSole
      apply hFields tag items
      rw [tagged?, hValues]
      exact hSole
    rw [ofBody_of_unrepeated hTree hOrdinary
      (hUnrepeated t hTree), ofSettled, hEnvelope]

/-
  A transform by place, and a header too.  The numbers are an
  integer, one with an exponent, the negative zero and, by
  name, a fraction and an integer beyond 64 bits.
-/
def placedTransform : Tree :=
  .record
    [ ("payload", .record
        [ ("motion_xform", .record
            [ ("note", .null),
              ("xform", .array
                [ .array
                    [ .number ['1'], .number ['2', 'e', '0'],
                      .number ['-', '0'] ],
                  .record
                    [ ("z", .number ['0', '.', '5']),
                      ("y", .number (Nat.toDigits 10 (2 ^ 64))),
                      ("x", .number ['1']) ] ]) ]) ]),
      ("header", .array [.text "m1"]) ]

/- The envelope that it is. -/
def placedEnvelope : Envelope :=
  .fresh "m1" (.motionUpdate
    { translation :=
        { x := ⟨0x3FF0000000000000⟩
          y := ⟨0x4000000000000000⟩
          z := ⟨0x8000000000000000⟩ }
      orientation :=
        { x := ⟨0x3FF0000000000000⟩
          y := ⟨0x43F0000000000000⟩
          z := ⟨0x3FE0000000000000⟩ } })

/- Both readers take it for the same envelope. -/
theorem readers_agree_placed_transform :
    let text := String.ofList placedTransform.compact
    (∀ t, Tree.ofChars? text.toList = some t → Unrepeated t) ∧
      ofJson? text.toList = some placedEnvelope ∧
      ofBody (Text.bytes text) = .ok placedEnvelope := by
  intro text
  have hSettle :
      placedTransform.settle? Tree.maxDepth =
        some placedTransform := rfl
  have hSettled := (Tree.settled_of_settle? hSettle).2
  have hTree :
      Tree.ofChars? text.toList = some placedTransform := by
    rw [String.toList_ofList]
    exact Tree.ofChars?_write hSettled.legible _
  have hUnrepeated :
      ∀ t, Tree.ofChars? text.toList = some t → Unrepeated t := by
    intro t hSpelled
    rw [hTree] at hSpelled
    cases hSpelled
    exact hSettled.unrepeated
  have hStrict : ofJson? text.toList = some placedEnvelope := by
    rw [ofJson?, hTree]
    decide +kernel
  have hFields :
      ∀ tag items,
        tagged? placedTransform = some (tag, .array items) →
          tag = "error" := by
    intro tag items hTagged
    cases hTagged
  exact ⟨hUnrepeated, hStrict,
    (readers_agree hUnrepeated).2 _ _ hStrict hTree
      (Tree.settled_of_settle? hSettle).1 hFields⟩

end Envelope

end CaptureLink
