import CaptureLink.Proofs.Envelope.Finite
import CaptureLink.Proofs.Frame.Stream
import CaptureLink.Proofs.Session.Consistency

/-
  Transforms of a session whose messages were read off bytes.
  What a session stores is zero or was in a message, so it is
  finite whatever is done.  Then there is a frame for its
  report of mode and transform, and for every answer, as far
  as the limit allows.

  Main statements:
    * `Frame.Sendable`
    * `Session.transform_process`
    * `Session.transform_perform`
    * `Session.isFinite_performAll`
    * `Session.finite_of_received`
-/

namespace CaptureLink

------------------------------------------------------------
-- Messages with a frame
------------------------------------------------------------

/- Only the limit can keep a message from having a frame. -/
def Frame.Sendable (e : Envelope) : Prop :=
  ∀ limit,
    (∃ frame, encode limit e = .ok frame) ↔
      e.toBody.length ≤ limit

/- So it is if no transform in it is infinite or NaN. -/
theorem Frame.sendable_of_isFinite
    {e : Envelope}
    (hFinite : ∀ t, e.transform? = some t → t.isFinite = true) :
    Sendable e := by
  intro limit
  constructor
  · rintro ⟨frame, hEncode⟩
    exact ((encode_eq_ok_iff limit e frame).mp hEncode).2.1
  · intro hShort
    exact ⟨assemble e.toBody,
      (encode_eq_ok_iff limit e _).mpr ⟨hFinite, hShort, rfl⟩⟩

/- The transform of a new session is finite. -/
theorem Transform.isFinite_zero :
    Transform.zero.isFinite = true := by
  decide

namespace Session

variable {σ κ : Type}

------------------------------------------------------------
-- Where a transform comes from
------------------------------------------------------------

/- An entry reports the transform in its message. -/
theorem Entry.payload_of_reported?
    {e : Entry σ}
    {t : Transform}
    (hReported : e.reported? = some t) :
    e.message.payload = some (.motionUpdate t) := by
  unfold reported? at hReported
  split at hReported
  · rename_i hPayload
    cases hReported
    exact hPayload
  · cases hReported

section Stored

variable (d : Delegate σ)
variable (s : Session σ κ)

/-
  After a message the transform is as before, or zero, or the
  one in the message.
-/
theorem transform_process
    (fresh : String)
    (e : Envelope) :
    let after := (s.process d fresh e).session.state
    after.transform = s.state.transform ∨
      after.transform = .zero ∨
      e.payload = some (.motionUpdate after.transform) := by
  intro after
  have hAdvances := advances_process d s fresh e
  generalize hAfter :
    (s.process d fresh e).session.state = state at hAdvances
  rw [show after = state from hAfter]
  cases hAdvances with
  | rest => exact .inl rfl
  | start => exact .inl rfl
  | activate => exact .inl rfl
  | finish => exact .inr (.inl rfl)
  | use camera mode transform hActive =>
      -- It stays activated, so the entry decides the transform.
      have hLasts :
          (s.process d fresh e).session.state.status =
            .activated := by
        rw [hAfter]
        exact hActive
      have hEntry :=
        (follows_process d fresh s e hActive hLasts).transform
      rw [hAfter] at hEntry
      cases hTaken :
          (if s.state.mode.capturing then
            Entry.reported? (⟨s.host, e⟩ : Entry σ)
          else none) with
      | none =>
          rw [hTaken] at hEntry
          exact .inl hEntry
      | some reported =>
          rw [hTaken] at hEntry
          rw [show transform = reported from hEntry]
          exact .inr (.inr (Entry.payload_of_reported?
            (Option.ite_none_right_eq_some.mp hTaken).2))

/- No other operation brings in a transform. -/
theorem transform_perform
    (op : Operation κ) :
    let after := (s.perform d op).session.state
    after.transform = s.state.transform ∨
      after.transform = .zero ∨
      ∃ fresh e,
        op = .process fresh e ∧
          e.payload = some (.motionUpdate after.transform) := by
  intro after
  cases op with
  | process fresh e =>
      rcases transform_process d s fresh e with
        hSame | hZero | hMessage
      · exact .inl hSame
      · exact .inr (.inl hZero)
      · exact .inr (.inr ⟨fresh, e, rfl, hMessage⟩)
  | start fresh =>
      left
      simp only [after, perform, conduct, start]
      cases s.state.status with
      | _ => rfl
  | activate profile =>
      left
      simp only [after, perform, conduct, activate]
      cases s.state.status with
      | starting =>
          by_cases hSpoken :
              profile.apiVersion = "" ∨
                s.info.speaksWith profile.apiVersion = true
          · simp only [hSpoken, if_true, announce_state]
          · simp only [hSpoken, if_false]
            rfl
      | _ => rfl
  | shutdown =>
      by_cases hOffline : s.state.status = .offline
      · left
        simp only [after, perform, conduct, shutdown, hOffline]
        rfl
      · right; left
        simp only [after, perform, conduct,
          shutdown_of_begun d hOffline]
        rfl
  | _ => exact .inl rfl

end Stored

------------------------------------------------------------
-- Runs
------------------------------------------------------------

/-
  A finite transform is followed by finite ones, if every
  message was read off bytes.
-/
theorem isFinite_performAll
    (d : Delegate σ)
    {s : Session σ κ}
    {ops : List (Operation κ)}
    (hFinite : s.state.transform.isFinite = true)
    (hReceived :
      ∀ fresh e, .process fresh e ∈ ops → e.Received) :
    (s.performAll d ops).session.state.transform.isFinite =
      true := by
  induction ops generalizing s with
  | nil => exact hFinite
  | cons op ops ih =>
      have hNext :
          (s.perform d op).session.state.transform.isFinite =
            true := by
        rcases transform_perform d s op with
          hSame | hZero | ⟨fresh, e, rfl, hMessage⟩
        · rw [hSame]
          exact hFinite
        · rw [hZero]
          exact Transform.isFinite_zero
        · refine
            (hReceived fresh e (List.mem_cons_self ..)).isFinite
              _ ?_
          rw [Envelope.transform?, hMessage]
          rfl
      exact ih hNext fun fresh e hLater =>
        hReceived fresh e (List.mem_cons_of_mem _ hLater)

/-
  No body of a frame gives a transform that is infinite or
  NaN.  Whatever is done with a new session, its transform is
  finite if the messages it dealt with were read off bytes:
  its report has a frame unless the limit is too low, and so
  has every answer to the next message.
-/
theorem finite_of_received :
    (∀ body e t,
      Frame.message body = .ok e →
        e.transform? = some t →
          t.isFinite = true) ∧
      ∀ (d : Delegate σ)
        (info : ServerInfo)
        (ackTimeout : Option Nat)
        (host : σ)
        (ops : List (Operation κ)),
        (∀ fresh e, .process fresh e ∈ ops → e.Received) →
          let s : Session σ κ := new info ackTimeout host
          let now := (s.performAll d ops).session
          now.state.transform.isFinite = true ∧
            (∀ fresh, Frame.Sendable (now.motionInfo fresh).2) ∧
              ∀ fresh e reply,
                (now.process d fresh e).result = some reply →
                  Frame.Sendable reply := by
  constructor
  · intro body e t hMessage
    exact Envelope.isFinite_of_ofBody
      (Envelope.ofBody_of_message hMessage) t
  · intro d info ackTimeout host ops hReceived s now
    have hFinite : now.state.transform.isFinite = true :=
      isFinite_performAll d Transform.isFinite_zero hReceived
    refine ⟨hFinite, fun fresh => ?_, fun fresh e reply hReply => ?_⟩
    · apply Frame.sendable_of_isFinite
      intro t hCarried
      cases hCarried
      exact hFinite
    · exact Frame.sendable_of_isFinite
        (Frame.isFinite_of_no_transform
          (transform?_of_process d fresh e now hReply))

/- The client turns capture on. -/
def captureOn : Envelope :=
  .fresh "m1" (.motionSetMode .live)

/- It has moved as far as a double can say. -/
def farthest : Envelope :=
  .fresh "m2" (.motionUpdate
    { translation := ⟨⟨0x7FEFFFFFFFFFFFFF⟩, .zero, .zero⟩
      orientation := .zero })

/- A client turns capture on and moves. -/
def farMove : List (Operation Nat) :=
  [ .start "s1", .activate ⟨"rig", "", .empty⟩,
    .process "r1" captureOn, .process "r2" farthest ]

/- The server reports this transform, and there is a frame for it. -/
theorem finite_of_received_far_move :
    let now :=
      (performAll .idle (new .standard none ()) farMove).session
    (∀ fresh e, .process fresh e ∈ farMove → e.Received) ∧
      farthest.transform? = some now.state.transform ∧
      now.state.transform.isFinite = true ∧
      Frame.Sendable (now.motionInfo "s2").2 := by
  intro now
  have hOn : captureOn.Received :=
    Envelope.received_of_isFinite
      (Frame.isFinite_of_no_transform rfl) (by decide +kernel)
  have hFar : farthest.Received :=
    Envelope.received_of_isFinite
      ((Frame.carriable_iff farthest).mp (by decide))
      (by decide +kernel)
  have hReceived :
      ∀ fresh e, .process fresh e ∈ farMove → e.Received := by
    intro fresh e hMember
    simp only [farMove, List.mem_cons, Operation.process.injEq,
      reduceCtorEq, false_or, List.not_mem_nil, or_false]
      at hMember
    rcases hMember with ⟨_, rfl⟩ | ⟨_, rfl⟩
    · exact hOn
    · exact hFar
  rcases finite_of_received.2 .idle .standard none () farMove
      hReceived with
    ⟨hFinite, hReport, _⟩
  exact ⟨hReceived, by decide +kernel, hFinite, hReport "s2"⟩

end Session

end CaptureLink
