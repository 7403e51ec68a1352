import CaptureLink.Proofs.AckTable.Renaming
import CaptureLink.Proofs.Session.Naming
import CaptureLink.Proofs.Session.Operation

/-
  A session in which the server's messages have other names,
  and which has counted more messages and transforms.  It does
  the same as the one without, whatever is done with both, as
  long as the client uses the other names, too.

  Main declarations:
    * `Session.Counters`
    * `Session.translated`
    * `Session.handle_translated`
    * `Session.process_translated`
    * `Session.conduct`
    * `Session.conduct_translated`
-/

namespace CaptureLink

------------------------------------------------------------
-- Names
------------------------------------------------------------

/- A message that names the message it answers otherwise. -/
def Header.redirected
    (ρ : String ↪ String)
    (header : Header) : Header :=
  { header with responseId := header.responseId.map ρ }

namespace Envelope

/- The same message under its other name. -/
def reissued
    (ρ : String ↪ String)
    (e : Envelope) : Envelope :=
  e.named (ρ e.id)

/- A message that names the message it answers otherwise. -/
def redirected
    (ρ : String ↪ String)
    (e : Envelope) : Envelope :=
  { e with header := e.header.redirected ρ }

end Envelope

namespace Session

variable {σ κ α β : Type}

------------------------------------------------------------
-- Counters
------------------------------------------------------------

/- How many messages and transforms a session has counted. -/
structure Counters where
  received : Nat
  sent : Nat
  updates : Nat
  dropped : Nat
deriving DecidableEq, Repr

instance : Add Counters where
  add k k' :=
    ⟨k.received + k'.received, k.sent + k'.sent,
      k.updates + k'.updates, k.dropped + k'.dropped⟩

/- The counters of a session. -/
def counters (s : Session σ κ) : Counters :=
  ⟨s.received, s.sent, s.updates, s.dropped⟩

------------------------------------------------------------
-- Translations
------------------------------------------------------------

/-
  The session in which messages have other names, and which
  has counted some more.
-/
def translated
    (ρ : String ↪ String)
    (k : Counters)
    (s : Session σ κ) : Session σ κ :=
  { s with
    acks := s.acks.renamed ρ
    received := k.received + s.received
    sent := k.sent + s.sent
    updates := k.updates + s.updates
    dropped := k.dropped + s.dropped }

/- The same events in such a session, and the result as it is there. -/
def Step.translated
    (ρ : String ↪ String)
    (k : Counters)
    (f : α → β)
    (step : Step σ κ α) : Step σ κ β :=
  ⟨step.session.translated ρ k, step.events, f step.result⟩

section Operations

variable (ρ : String ↪ String)
variable (k : Counters)
variable (d : Delegate σ)
variable (s : Session σ κ)

/- Its application hears the same, and answers the same. -/
theorem announce_translated
    (f : α → β)
    (n : Notice)
    (result : α) :
    (s.translated ρ k).announce d n (f result) =
      (s.announce d n result).translated ρ k (Except.map f) := by
  cases hTold : (d.notify n s.host).2 with
  | none =>
      rw [announce_of_heard result hTold,
        announce_of_heard (s := s.translated ρ k) (f result) hTold]
      rfl
  | some fault =>
      rw [announce_of_failed result hTold,
        announce_of_failed (s := s.translated ρ k) (f result) hTold]
      rfl

/- It acts if the other one does. -/
theorem whenActive_translated
    {f : α → β}
    {kind : Kind}
    {act : Step σ κ (Except Refusal α)}
    {act' : Step σ κ (Except Refusal β)}
    (hAct : act' = act.translated ρ k (Except.map f)) :
    (s.translated ρ k).whenActive kind act' =
      (s.whenActive kind act).translated ρ k (Except.map f) := by
  by_cases hActive : s.state.status = .activated
  · rw [whenActive_of_active kind act hActive,
      whenActive_of_active (s := s.translated ρ k) kind act'
        hActive, hAct]
  · rw [whenActive_of_inactive kind act hActive,
      whenActive_of_inactive (s := s.translated ρ k) kind act'
        hActive]
    rfl

/- It introduces the server in the same words. -/
theorem start_translated (fresh : String) :
    (s.translated ρ k).start (ρ fresh) =
      (s.start fresh).translated ρ k
        (Except.map (Envelope.reissued ρ)) := by
  have hStatus :
      (s.translated ρ k).state.status = s.state.status := rfl
  unfold start
  rw [hStatus]
  cases s.state.status with
  | _ => rfl

/- It is activated by the same clients. -/
theorem activate_translated (profile : ClientProfile) :
    (s.translated ρ k).activate d profile =
      (s.activate d profile).translated ρ k (Except.map id) := by
  have hState : (s.translated ρ k).state = s.state := rfl
  have hInfo : (s.translated ρ k).info = s.info := rfl
  unfold activate
  rw [hState, hInfo]
  cases s.state.status with
  | starting =>
      by_cases hSpoken :
          profile.apiVersion = "" ∨
            s.info.speaksWith profile.apiVersion
      · simp only [hSpoken, if_true]
        exact announce_translated ρ k d
          { s with
            state :=
              { s.state with
                status := .activated
                profile := some profile } }
          id (.activated profile) ()
      · simp only [hSpoken, if_false]
        rfl
  | _ => rfl

/- It ends when the other one does. -/
theorem shutdown_translated :
    (s.translated ρ k).shutdown d =
      (s.shutdown d).translated ρ k id := by
  have hStatus :
      (s.translated ρ k).state.status = s.state.status := rfl
  unfold shutdown
  rw [hStatus]
  cases s.state.status with
  | _ => rfl

/- It picks the same camera. -/
theorem pickCamera_translated
    (camera : Camera)
    (reply : Envelope) :
    (s.translated ρ k).pickCamera d camera (reply.reissued ρ) =
      (s.pickCamera d camera reply).translated ρ k
        (Except.map (Option.map (Envelope.reissued ρ))) :=
  announce_translated ρ k d
    { s with state := { s.state with camera := some camera } }
    (Option.map (Envelope.reissued ρ)) (.camera camera) (some reply)

/- It changes to the same mode. -/
theorem changeMode_translated
    (requested : MotionMode)
    (reply : Envelope) :
    (s.translated ρ k).changeMode d requested
        (reply.reissued ρ) =
      (s.changeMode d requested reply).translated ρ k
        (Except.map (Option.map (Envelope.reissued ρ))) := by
  have hState : (s.translated ρ k).state = s.state := rfl
  unfold changeMode
  rw [hState]
  cases s.state.mode.transition requested with
  | none => rfl
  | some mode =>
      exact announce_translated ρ k d
        { s with state := { s.state with mode := mode } }
        (Option.map (Envelope.reissued ρ)) (.mode mode) (some reply)

/- It takes or drops the same transforms. -/
theorem takeTransform_translated (transform : Transform) :
    (s.translated ρ k).takeTransform d transform =
      (s.takeTransform d transform).translated ρ k
        (Except.map (Option.map (Envelope.reissued ρ))) := by
  have hState : (s.translated ρ k).state = s.state := rfl
  unfold takeTransform
  rw [hState]
  cases s.state.mode.capturing with
  | true =>
      exact announce_translated ρ k d
        { s with
          state := { s.state with transform := transform }
          updates := s.updates + 1 }
        (Option.map (Envelope.reissued ρ)) (.motion transform) none
  | false => rfl

/- It deals with the same payloads in the same way. -/
theorem handle_translated
    (fresh : String)
    (header : Header)
    (payload : Payload) :
    (s.translated ρ k).handle d (ρ fresh)
        (header.redirected ρ) payload =
      (s.handle d fresh header payload).translated ρ k
        (Except.map (Option.map (Envelope.reissued ρ))) := by
  have hHost : (s.translated ρ k).host = s.host := rfl
  cases payload with
  | sessionStart info =>
      simp only [handle, start_translated]
      cases hResult : (s.start fresh).result with
      | error refusal => simp [Step.translated, hResult, Except.map]
      | ok reply => simp [Step.translated, hResult, Except.map]
  | sessionActivate profile =>
      simp only [handle, activate_translated]
      cases hResult : (s.activate d profile).result with
      | error refusal => simp [Step.translated, hResult, Except.map]
      | ok _ => simp [Step.translated, hResult, Except.map]
  | sessionShutdown =>
      simp only [handle, shutdown_translated]
      rfl
  | acknowledge =>
      unfold handle
      cases hTarget : header.responseId with
      | none =>
          simp only [Header.redirected, hTarget, Option.map_none]
          rfl
      | some id =>
          simp only [Header.redirected, hTarget, Option.map_some]
          rw [show (s.translated ρ k).acks = s.acks.renamed ρ
            from rfl, AckTable.acknowledge_renamed]
          rfl
  | getCameraList => exact whenActive_translated ρ k s rfl
  | motionGetMode => exact whenActive_translated ρ k s rfl
  | setActiveCamera id =>
      apply whenActive_translated
      rw [hHost]
      cases d.find? s.host id with
      | none => rfl
      | some camera =>
          exact pickCamera_translated ρ k d s camera
            (.reply fresh header.id (.activeCameraInfo camera))
  | motionSetMode requested =>
      apply whenActive_translated
      exact changeMode_translated ρ k d s requested
        (.reply fresh header.id .acknowledge)
  | motionUpdate transform =>
      apply whenActive_translated
      exact takeTransform_translated ρ k d s transform
  | _ => rfl

/- It refuses in the same words, and ends if the other one does. -/
theorem refuse_translated
    (fresh : String)
    (header : Header)
    (refusal : Refusal) :
    (s.translated ρ k).refuse d (ρ fresh)
        (header.redirected ρ) refusal =
      (s.refuse d fresh header refusal).translated ρ k
        (Envelope.reissued ρ) := by
  cases hFatal : refusal.toFault.fatal with
  | true =>
      simp only [refuse, hFatal, if_true, shutdown_translated]
      rfl
  | false =>
      rw [refuse_of_harmless d fresh header s hFatal,
        refuse_of_harmless d (ρ fresh) (header.redirected ρ) _
          hFatal]
      rfl

/- It gives the same answers under other names. -/
theorem process_translated
    (fresh : String)
    (e : Envelope) :
    (s.translated ρ k).process d (ρ fresh) (e.redirected ρ) =
      (s.process d fresh e).translated ρ k
        (Option.map (Envelope.reissued ρ)) := by
  let s' := { s with received := s.received + 1 }
  have hReceived :
      { s.translated ρ k with
          received := (s.translated ρ k).received + 1 } =
        s'.translated ρ k := rfl
  have hPayload : (e.redirected ρ).payload = e.payload := rfl
  have hHeader :
      (e.redirected ρ).header = e.header.redirected ρ := rfl
  unfold process
  rw [hPayload, hHeader, hReceived]
  cases e.payload with
  | none =>
      simp only [refuse_translated]
      rfl
  | some payload =>
      simp only [handle_translated]
      cases hResult :
          (s'.handle d fresh e.header payload).result with
      | error refusal =>
          simp only [Step.translated, hResult, Except.map,
            refuse_translated]
          rfl
      | ok answer =>
          simp only [Step.translated, hResult, Except.map]
          cases answer with
          | none => rfl
          | some reply => rfl

/- It sends the same messages under other names. -/
theorem sendWithAck_translated
    (now : Nat)
    (fresh : String)
    (payload : Payload)
    (label : Option κ) :
    (s.translated ρ k).sendWithAck now (ρ fresh) payload label =
      ((s.sendWithAck now fresh payload label).1.translated ρ k,
        (s.sendWithAck now fresh payload label).2.reissued ρ) := by
  let r : AckRecord κ :=
    ⟨fresh, s.ackTimeout.map (now + ·), label⟩
  have hAcks :
      (s.acks.renamed ρ).expect
          ⟨ρ fresh, s.ackTimeout.map (now + ·), label⟩ =
        (s.acks.expect r).renamed ρ :=
    AckTable.expect_renamed ρ s.acks r
  simp only [sendWithAck, translated, hAcks]
  rfl

/- It gives up on the same messages. -/
theorem pollTimeouts_translated (now : Nat) :
    (s.translated ρ k).pollTimeouts now =
      (s.pollTimeouts now).translated ρ k id := by
  simp only [pollTimeouts, translated, AckTable.expire_renamed]
  rfl

end Operations

------------------------------------------------------------
-- All operations
------------------------------------------------------------

/- The same operation where messages have other names. -/
def Operation.renamed
    (ρ : String ↪ String) :
    Operation κ → Operation κ
| .process fresh e => .process (ρ fresh) (e.redirected ρ)
| .start fresh => .start (ρ fresh)
| .activate profile => .activate profile
| .shutdown => .shutdown
| .sendWithAck now fresh payload label =>
    .sendWithAck now (ρ fresh) payload label
| .motionInfo fresh => .motionInfo (ρ fresh)
| .pollTimeouts now => .pollTimeouts now

/- What it gives back there. -/
def Yield.reissued
    (ρ : String ↪ String) :
    Yield → Yield
| .reply answer => .reply (answer.map (Envelope.reissued ρ))
| .introduction result =>
    .introduction (result.map (Envelope.reissued ρ))
| .message e => .message (e.reissued ρ)
| other => other

/- It does the same, whatever is done with it. -/
theorem conduct_translated
    (ρ : String ↪ String)
    (k : Counters)
    (d : Delegate σ)
    (s : Session σ κ)
    (op : Operation κ) :
    (s.translated ρ k).conduct d (op.renamed ρ) =
      (s.conduct d op).translated ρ k (Yield.reissued ρ) := by
  cases op with
  | process fresh e =>
      simp only [Operation.renamed, conduct, process_translated]
      rfl
  | start fresh =>
      simp only [Operation.renamed, conduct, start_translated]
      rfl
  | activate profile =>
      simp only [Operation.renamed, conduct, activate_translated,
        Except.map_id]
      rfl
  | shutdown =>
      simp only [Operation.renamed, conduct, shutdown_translated]
      rfl
  | sendWithAck now fresh payload label =>
      simp only [Operation.renamed, conduct,
        sendWithAck_translated]
      rfl
  | motionInfo fresh => rfl
  | pollTimeouts now =>
      simp only [Operation.renamed, conduct,
        pollTimeouts_translated]
      rfl

end Session

end CaptureLink
