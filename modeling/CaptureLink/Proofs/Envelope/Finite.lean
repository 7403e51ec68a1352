import CaptureLink.Proofs.Envelope.Readers
import CaptureLink.Proofs.Frame.RoundTrip
import CaptureLink.Proofs.Frame.Stability

/-
  Numbers that arrive are finite.  A numeral is read as a
  double that is no infinity and no NaN, or not at all, and
  nothing else is read as a double.  So every transform in a
  message that was read is finite, wherever it was read from.

  Main statements:
    * `Decimal.isFinite_of_toBinary64?`
    * `Payload.isFinite_of_ofBody?`
    * `Envelope.isFinite_of_ofTree?`
    * `Envelope.isFinite_of_ofBody`
    * `Envelope.Received`
    * `Envelope.Received.isFinite`
    * `Envelope.received_of_isFinite`
-/

namespace CaptureLink

open Json

------------------------------------------------------------
-- Numbers
------------------------------------------------------------

/- The magnitude that a double is made of is that of the double. -/
theorem Binary64.magnitude_ofMagnitude
    {negative : Bool}
    {m : Nat}
    (hFits : m < 2 ^ 63) :
    (ofMagnitude negative m).magnitude = m := by
  simp only [magnitude, word, ofMagnitude, Nat.pow_eq,
    UInt64.toNat_ofNat']
  cases negative with
  | false =>
      rw [if_neg Bool.false_ne_true]
      omega
  | true =>
      rw [if_pos rfl]
      omega

/- It is finite if the magnitude is below that of infinity. -/
theorem Binary64.isFinite_ofMagnitude
    {negative : Bool}
    {m : Nat}
    (hBelow : m < infinityMagnitude) :
    (ofMagnitude negative m).isFinite = true := by
  have hFits : infinityMagnitude ≤ 2 ^ 63 := by decide
  rw [isFinite, magnitude_ofMagnitude (hBelow.trans_le hFits),
    decide_eq_true_eq]
  exact hBelow

/- What a decimal is rounded to is finite. -/
theorem Decimal.isFinite_of_toBinary64?
    {d : Decimal}
    {x : Binary64}
    (hRead : d.toBinary64? = some x) :
    x.isFinite = true := by
  unfold toBinary64? at hRead
  split at hRead
  · cases hRead
    exact Binary64.isFinite_ofMagnitude (by decide)
  · split at hRead
    · cases hRead
    · dsimp only at hRead
      split at hRead
      · rename_i hBelow
        cases hRead
        exact Binary64.isFinite_ofMagnitude hBelow
      · cases hRead

/- So is every double that is read. -/
theorem Json.Tree.isFinite_of_real?
    {t : Tree}
    {x : Binary64}
    (hRead : t.real? = some x) :
    x.isFinite = true := by
  unfold real? at hRead
  split at hRead
  · rcases Option.bind_eq_some_iff.mp hRead with
      ⟨n, _, hDouble⟩
    exact Decimal.isFinite_of_toBinary64? hDouble
  · cases hRead

------------------------------------------------------------
-- Fields
------------------------------------------------------------

/- What is read of a field that has to be there is read of its value. -/
theorem Json.exists_of_required
    {α : Type}
    {read : Tree → Option α}
    {field : Option Tree}
    {a : α}
    (hRead : required read field = some a) :
    ∃ value, read value = some a := by
  cases field with
  | none => cases hRead
  | some value => exact ⟨value, hRead⟩

/- What is read of a field that may be missing is read of its value. -/
theorem Json.exists_of_nullable
    {α : Type}
    {read : Tree → Option α}
    {field : Option Tree}
    {a : α}
    (hRead : nullable read field = some (some a)) :
    ∃ value, read value = some a := by
  unfold nullable at hRead
  split at hRead
  · cases hRead
  · cases hRead
  · rename_i value _
    rcases Option.map_eq_some_iff.mp hRead with ⟨_, hValue, hSome⟩
    cases hSome
    exact ⟨value, hValue⟩

/- Every vector that is read is finite. -/
theorem Vector3.isFinite_of_ofTree?
    {t : Tree}
    {v : Vector3}
    (hRead : ofTree? t = some v) :
    v.isFinite = true := by
  simp only [ofTree?, Option.bind_eq_bind,
    Option.bind_eq_some_iff] at hRead
  rcases hRead with ⟨values, _, hRead⟩
  split at hRead
  · simp only [Option.bind_eq_some_iff] at hRead
    rcases hRead with ⟨x, hx, y, hy, z, hz, hVector⟩
    cases hVector
    rcases exists_of_required hx with ⟨_, hx⟩
    rcases exists_of_required hy with ⟨_, hy⟩
    rcases exists_of_required hz with ⟨_, hz⟩
    simp only [isFinite, Tree.isFinite_of_real? hx,
      Tree.isFinite_of_real? hy, Tree.isFinite_of_real? hz,
      Bool.and_self]
  · cases hRead

/- Every transform that is read is finite. -/
theorem Transform.isFinite_of_ofTree?
    {t : Tree}
    {transform : Transform}
    (hRead : ofTree? t = some transform) :
    transform.isFinite = true := by
  simp only [ofTree?, Option.bind_eq_bind,
    Option.bind_eq_some_iff] at hRead
  rcases hRead with ⟨values, _, hRead⟩
  split at hRead
  · simp only [Option.bind_eq_some_iff] at hRead
    rcases hRead with
      ⟨translation, hTranslation, orientation, hOrientation,
        hTransform⟩
    cases hTransform
    rcases exists_of_required hTranslation with
      ⟨_, hTranslation⟩
    rcases exists_of_required hOrientation with
      ⟨_, hOrientation⟩
    simp only [isFinite,
      Vector3.isFinite_of_ofTree? hTranslation,
      Vector3.isFinite_of_ofTree? hOrientation, Bool.and_self]
  · cases hRead

------------------------------------------------------------
-- Messages
------------------------------------------------------------

/- The only field of a payload is read of some value. -/
theorem exists_of_soleField?
    {α : Type}
    {name : String}
    {read : Tree → Option α}
    {t : Tree}
    {a : α}
    (hRead : soleField? name (required read) t = some a) :
    ∃ value, read value = some a := by
  simp only [soleField?, Option.bind_eq_bind,
    Option.bind_eq_some_iff] at hRead
  rcases hRead with ⟨values, _, hRead⟩
  split at hRead
  · exact exists_of_required hRead
  · cases hRead

/- A payload that is read carries no transform that is not finite. -/
theorem Payload.isFinite_of_ofBody?
    {kind : Kind}
    {value : Tree}
    {p : Payload}
    (hRead : ofBody? kind value = some p) :
    ∀ t, p.transform? = some t → t.isFinite = true := by
  intro t hCarried
  cases kind with
  | motionUpdate =>
      rcases Option.map_eq_some_iff.mp hRead with
        ⟨transform, hTransform, rfl⟩
      cases hCarried
      rcases exists_of_soleField? hTransform with ⟨_, hValue⟩
      exact Transform.isFinite_of_ofTree? hValue
  | motionInfo =>
      simp only [ofBody?, Option.bind_eq_bind,
        Option.bind_eq_some_iff] at hRead
      rcases hRead with ⟨values, _, hRead⟩
      split at hRead
      · simp only [Option.bind_eq_some_iff] at hRead
        rcases hRead with
          ⟨mode, _, transform, hTransform, hPayload⟩
        cases hPayload
        cases hCarried
        rcases exists_of_required hTransform with ⟨_, hValue⟩
        exact Transform.isFinite_of_ofTree? hValue
      · cases hRead
  | _ =>
      -- No other kind has a transform.
      rcases Option.map_eq_some_iff.mp hRead with ⟨_, _, rfl⟩
      cases hCarried

/- Nor does one with its tag, by whichever rule it is read. -/
theorem Payload.isFinite_of_ofTree?
    {rule : TagBody}
    {tree : Tree}
    {p : Payload}
    (hRead : ofTree? rule tree = some p) :
    ∀ t, p.transform? = some t → t.isFinite = true := by
  simp only [ofTree?, Option.bind_eq_bind,
    Option.bind_eq_some_iff] at hRead
  rcases hRead with ⟨_, _, kind, _, hBody⟩
  split at hBody
  · exact isFinite_of_ofBody? hBody
  · cases hBody

namespace Envelope

/- Nor does an envelope carry one. -/
theorem isFinite_of_ofTree?
    {rule : TagBody}
    {tree : Tree}
    {e : Envelope}
    (hRead : ofTree? rule tree = some e) :
    ∀ t, e.transform? = some t → t.isFinite = true := by
  simp only [ofTree?, Option.bind_eq_bind,
    Option.bind_eq_some_iff] at hRead
  rcases hRead with ⟨values, _, hRead⟩
  split at hRead
  · simp only [Option.bind_eq_some_iff] at hRead
    rcases hRead with ⟨h, _, payload, hPayload, hEnvelope⟩
    cases hEnvelope
    cases payload with
    | none =>
        intro t hCarried
        cases hCarried
    | some p =>
        rcases exists_of_nullable hPayload with ⟨_, hValue⟩
        exact Payload.isFinite_of_ofTree? hValue
  · cases hRead

/- Nor does a message in a body. -/
theorem isFinite_of_ofBody
    {body : List UInt8}
    {e : Envelope}
    (hRead : ofBody body = .ok e) :
    ∀ t, e.transform? = some t → t.isFinite = true := by
  intro t hCarried
  have hPayload : e.payload ≠ none := by
    intro hNone
    rw [transform?, hNone] at hCarried
    cases hCarried
  unfold ofBody at hRead
  split at hRead
  · cases hRead
  · exact isFinite_of_ofTree?
      (ofTree?_of_ofSettled hRead hPayload) t hCarried

------------------------------------------------------------
-- Messages that arrive
------------------------------------------------------------

/-
  A message was read off bytes: they were one frame, or a
  receiver took its frame out of them.
-/
def Received (e : Envelope) : Prop :=
  (∃ limit bytes, Frame.decode limit bytes = .ok e) ∨
    ∃ r : Frame.Receiver, r.nextEnvelope.2 = .ok (some e)

/- The message of a body is what the body gives. -/
theorem ofBody_of_message
    {body : List UInt8}
    {e : Envelope}
    (hMessage : Frame.message body = .ok e) :
    ofBody body = .ok e := by
  unfold Frame.message at hMessage
  cases hBody : ofBody body with
  | ok e' =>
      rw [hBody] at hMessage
      cases hMessage
      rfl
  | error defect =>
      rw [hBody] at hMessage
      cases hMessage

/- So is that of a body whose checksum was looked at first. -/
theorem ofBody_of_verified
    {crc : UInt32}
    {body : List UInt8}
    {e : Envelope}
    (hVerified :
      (Frame.verify crc body >>= Frame.message) = .ok e) :
    ofBody body = .ok e := by
  unfold Frame.verify at hVerified
  by_cases hSame : crc = Crc32.checksum body
  · simp only [hSame, if_true] at hVerified
    exact ofBody_of_message hVerified
  · simp only [hSame, if_false] at hVerified
    cases hVerified

/- There was a body that gave it. -/
theorem Received.exists_body
    {e : Envelope}
    (hReceived : Received e) :
    ∃ body, ofBody body = .ok e := by
  rcases hReceived with ⟨limit, bytes, hDecode⟩ | ⟨r, hNext⟩
  · unfold Frame.decode at hDecode
    split at hDecode
    · cases hDecode
    · cases hDecode
    · split at hDecode
      · exact ⟨_, ofBody_of_verified hDecode⟩
      · cases hDecode
  · cases hLocate : Frame.locate r.limit r.buffer with
    | error defect =>
        simp only [Frame.Receiver.nextEnvelope,
          Frame.Receiver.nextBody, hLocate] at hNext
        cases hNext
    | ok found =>
        cases found with
        | none =>
            simp only [Frame.Receiver.nextEnvelope,
              Frame.Receiver.nextBody, hLocate] at hNext
            cases hNext
        | some span =>
            rw [Frame.Receiver.nextEnvelope_of_span hLocate]
              at hNext
            have hVerified :
                (Frame.verify span.crc (span.body r.buffer) >>=
                  Frame.message) = .ok e :=
              Frame.map_some_injective hNext
            exact ⟨_, ofBody_of_verified hVerified⟩

/- So its transform is finite, if it carries one. -/
theorem Received.isFinite
    {e : Envelope}
    (hReceived : Received e) :
    ∀ t, e.transform? = some t → t.isFinite = true := by
  rcases hReceived.exists_body with ⟨body, hBody⟩
  exact isFinite_of_ofBody hBody

/- Every message that has a frame can be received. -/
theorem received_of_isFinite
    {e : Envelope}
    (hFinite : ∀ t, e.transform? = some t → t.isFinite = true)
    (hShort : e.toBody.length < 2 ^ 63) :
    Received e := by
  left
  refine ⟨e.toBody.length, Frame.assemble e.toBody, ?_⟩
  rw [Frame.decode_assemble (Frame.length_assemble_lt hShort)
    (Nat.le_refl _), Frame.message_toBody hFinite]

end Envelope

end CaptureLink
