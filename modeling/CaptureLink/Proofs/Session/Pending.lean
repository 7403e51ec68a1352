import CaptureLink.Proofs.AckTable.History
import CaptureLink.Proofs.Session.Lifecycle
import CaptureLink.Proofs.Session.Operation

/-
  The messages that wait for an acknowledgment.  They change
  with acknowledgments, messages of the server and ticks of
  the clock alone, until the session ends and none waits any
  more.  Without a session nothing ends, and so what was sent
  then may wait for ever.

  Main statements:
    * `Session.continues_handle`
    * `Session.Operation.onAcks`
    * `Session.acksAfter_perform`
    * `Session.records_onAcks`
    * `Session.LeftOver`
    * `Session.mem_acks_iff_leftOver`
-/

namespace CaptureLink

namespace Session

variable {σ κ α : Type}

------------------------------------------------------------
-- Handlers
------------------------------------------------------------

/-
  The same messages wait as before, as long as before, and a
  session that had begun has not ended.
-/
structure Continues (s s' : Session σ κ) : Prop where
  acks_eq : s'.acks = s.acks
  ackTimeout_eq : s'.ackTimeout = s.ackTimeout
  begun :
    s.state.status ≠ .offline → s'.state.status ≠ .offline

section Handlers

variable {s s' : Session σ κ}

/- A session continues if nothing happens. -/
theorem Continues.refl (s : Session σ κ) : Continues s s :=
  ⟨rfl, rfl, id⟩

/- It continues when the application is told something. -/
theorem continues_announce
    (d : Delegate σ)
    (n : Notice)
    (result : α)
    (hContinues : Continues s s') :
    Continues s (s'.announce d n result).session := by
  cases hTold : (d.notify n s'.host).2 with
  | none =>
      rw [announce_of_heard result hTold]
      exact ⟨hContinues.acks_eq, hContinues.ackTimeout_eq,
        hContinues.begun⟩
  | some fault =>
      rw [announce_of_failed result hTold]
      exact ⟨hContinues.acks_eq, hContinues.ackTimeout_eq,
        hContinues.begun⟩

/- It continues where only an activated one would act. -/
theorem continues_whenActive
    {kind : Kind}
    {act : Step σ κ (Except Refusal α)}
    (hAct : Continues s act.session) :
    Continues s (s.whenActive kind act).session := by
  by_cases hActive : s.state.status = .activated
  · rwa [whenActive_of_active kind act hActive]
  · rw [whenActive_of_inactive kind act hActive]
    exact .refl s

/- It continues when it is started. -/
theorem continues_start
    (fresh : String)
    (s : Session σ κ) :
    Continues s (s.start fresh).session := by
  unfold start
  cases hStatus : s.state.status with
  | offline => exact ⟨rfl, rfl, fun _ => nofun⟩
  | _ => exact .refl s

/- It continues when it is activated, or is not. -/
theorem continues_activate
    (d : Delegate σ)
    (profile : ClientProfile)
    (s : Session σ κ) :
    Continues s (s.activate d profile).session := by
  unfold activate
  cases hStatus : s.state.status with
  | starting =>
      by_cases hSpoken :
          profile.apiVersion = "" ∨
            s.info.speaksWith profile.apiVersion
      · simp only [hSpoken, if_true]
        apply continues_announce
        exact ⟨rfl, rfl, fun _ => nofun⟩
      · simp only [hSpoken, if_false]
        exact .refl s
  | _ => exact .refl s

/-
  A message ends no session unless it asks for that, and
  settles nothing unless it acknowledges.
-/
theorem continues_handle
    (d : Delegate σ)
    (fresh : String)
    (header : Header)
    {payload : Payload}
    (s : Session σ κ)
    (hShutdown : payload ≠ .sessionShutdown)
    (hAcknowledge : payload ≠ .acknowledge) :
    Continues s (s.handle d fresh header payload).session := by
  cases payload with
  | sessionStart info => exact continues_start fresh s
  | sessionActivate profile => exact continues_activate d profile s
  | sessionShutdown => exact absurd rfl hShutdown
  | acknowledge => exact absurd rfl hAcknowledge
  | getCameraList => exact continues_whenActive (.refl s)
  | motionGetMode => exact continues_whenActive (.refl s)
  | setActiveCamera cameraId =>
      apply continues_whenActive
      cases d.find? s.host cameraId with
      | none => exact .refl s
      | some camera =>
          apply continues_announce
          exact ⟨rfl, rfl, id⟩
  | motionSetMode mode =>
      apply continues_whenActive
      unfold changeMode
      cases s.state.mode.transition mode with
      | none => exact .refl s
      | some next =>
          apply continues_announce
          exact ⟨rfl, rfl, id⟩
  | motionUpdate transform =>
      apply continues_whenActive
      unfold takeTransform
      cases s.state.mode.capturing with
      | false => exact ⟨rfl, rfl, id⟩
      | true =>
          apply continues_announce
          exact ⟨rfl, rfl, id⟩
  | _ => exact .refl s

end Handlers

------------------------------------------------------------
-- Operations
------------------------------------------------------------

namespace Operation

/- The record of a message that an operation sends. -/
def record?
    (timeout : Option Nat) :
    Operation κ → Option (AckRecord κ)
| .sendWithAck now fresh _ label =>
    some ⟨fresh, timeout.map (now + ·), label⟩
| _ => none

/-
  An operation ends waiting for a message: the client
  acknowledges it, its deadline is over, or another message
  takes its name.
-/
def settles
    (r : AckRecord κ) :
    Operation κ → Bool
| .process _ e =>
    e.payload = some .acknowledge ∧ e.responseId = some r.id
| .sendWithAck _ fresh _ _ => fresh = r.id
| .pollTimeouts now => r.due now
| _ => false

/- What waits after an operation that does not end the session. -/
def onAcks
    (timeout : Option Nat)
    (acks : AckTable κ) :
    Operation κ → AckTable κ
| .process _ e =>
    match e.payload, e.responseId with
    | some .acknowledge, some id => (acks.acknowledge id).1
    | _, _ => acks
| .sendWithAck now fresh _ label =>
    acks.expect ⟨fresh, timeout.map (now + ·), label⟩
| .pollTimeouts now => (acks.expire now).1
| _ => acks

end Operation

/- A message that acknowledges nothing settles nothing. -/
theorem onAcks_of_other
    (timeout : Option Nat)
    (acks : AckTable κ)
    (fresh : String)
    {e : Envelope}
    (hOther : e.payload ≠ some .acknowledge) :
    Operation.onAcks timeout acks (.process fresh e) = acks := by
  cases hPayload : e.payload with
  | none => simp only [Operation.onAcks, hPayload]
  | some payload =>
      cases payload with
      | acknowledge => exact absurd hPayload hOther
      | _ => simp only [Operation.onAcks, hPayload]

/-
  From this status a session has ended, and nothing waits, or
  it has not, and these messages wait.
-/
inductive AcksAfter
    (status : Status)
    (acks : AckTable κ)
    (s' : Session σ κ) : Prop where
| ended
    (hBegun : status ≠ .offline)
    (hOffline : s'.state.status = .offline)
    (hAcks : s'.acks = .empty)
| going
    (hBegun :
      status ≠ .offline → s'.state.status ≠ .offline)
    (hAcks : s'.acks = acks)

/- The counters do not matter. -/
theorem AcksAfter.congr
    {status : Status}
    {acks : AckTable κ}
    {s s' : Session σ κ}
    (hAfter : AcksAfter status acks s)
    (hState : s'.state = s.state)
    (hAcks : s'.acks = s.acks) :
    AcksAfter status acks s' := by
  cases hAfter with
  | ended hBegun hOffline hEmpty =>
      exact .ended hBegun (hState ▸ hOffline)
        (hAcks.trans hEmpty)
  | going hBegun hGoing =>
      exact .going (hState ▸ hBegun) (hAcks.trans hGoing)

/- What continues has not ended. -/
theorem Continues.acksAfter
    {s s' : Session σ κ}
    (hContinues : Continues s s') :
    AcksAfter s.state.status s.acks s' :=
  .going hContinues.begun hContinues.acks_eq

section Operations

variable (d : Delegate σ)

/- Without a session there is nothing to be ended. -/
theorem shutdown_of_offline
    {s : Session σ κ}
    (hOffline : s.state.status = .offline) :
    s.shutdown d = .quiet s () := by
  simp only [shutdown, hOffline]

/- A shutdown ends a session, if there is one. -/
theorem acksAfter_shutdown (s : Session σ κ) :
    AcksAfter s.state.status s.acks (s.shutdown d).session := by
  by_cases hOffline : s.state.status = .offline
  · rw [shutdown_of_offline d hOffline]
    exact (Continues.refl s).acksAfter
  · rw [shutdown_of_begun d hOffline]
    exact .ended hOffline rfl rfl

/- A handler ends a session, or settles what is acknowledged. -/
theorem acksAfter_handle
    (fresh : String)
    {e : Envelope}
    {payload : Payload}
    (s : Session σ κ)
    (hPayload : e.payload = some payload) :
    AcksAfter s.state.status
      (Operation.onAcks s.ackTimeout s.acks (.process fresh e))
      (s.handle d fresh e.header payload).session := by
  by_cases hAcknowledge : payload = .acknowledge
  · subst hAcknowledge
    simp only [handle, Operation.onAcks, hPayload,
      Envelope.responseId]
    cases e.header.responseId with
    | none => exact .going id rfl
    | some target => exact .going id rfl
  · have hOther : e.payload ≠ some .acknowledge := by
      rw [hPayload]
      exact fun hSome => hAcknowledge (Option.some.inj hSome)
    rw [onAcks_of_other s.ackTimeout s.acks fresh hOther]
    by_cases hShutdown : payload = .sessionShutdown
    · subst hShutdown
      exact acksAfter_shutdown d s
    · exact (continues_handle d fresh e.header s hShutdown
        hAcknowledge).acksAfter

/-
  A message ends the session, because it asks for that or is
  refused fatally, or it settles what it acknowledges.
-/
theorem acksAfter_process
    (fresh : String)
    (e : Envelope)
    (s : Session σ κ) :
    AcksAfter s.state.status
      (Operation.onAcks s.ackTimeout s.acks (.process fresh e))
      (s.process d fresh e).session := by
  cases hPayload : e.payload with
  | none =>
      rw [(process_of_missing d fresh s hPayload).1.1]
      simp only [Operation.onAcks, hPayload]
      exact .going id rfl
  | some payload =>
      let s' := { s with received := s.received + 1 }
      have hHandled :
          AcksAfter s.state.status
            (Operation.onAcks s.ackTimeout s.acks
              (.process fresh e))
            (s'.handle d fresh e.header payload).session :=
        acksAfter_handle d fresh s' hPayload
      cases hResult :
          (s'.handle d fresh e.header payload).result with
      | error refusal =>
          rcases process_of_refused d fresh hPayload hResult with
            ⟨_, ⟨hHarmless, hSession, _⟩ | ⟨_, hEnded⟩⟩
          · have hOther : payload ≠ .sessionShutdown := by
              intro hShutdown
              subst hShutdown
              cases hResult
            have hSame :=
              ((guarded_handle d fresh e.header s'
                hOther).untouched refusal hResult hHarmless).1
            rw [hSame] at hHandled
            rw [hSession]
            exact hHandled.congr rfl rfl
          · refine .ended ?_ ?_ hEnded.acks_eq
            · rcases hEnded.begun with hStatus | hStatus
              · rw [hStatus]
                exact nofun
              · rw [hStatus]
                exact nofun
            · rw [hEnded.state_eq]
              rfl
      | ok answer =>
          unfold process
          simp only [hPayload]
          rw [hResult]
          cases answer with
          | none => exact hHandled
          | some reply => exact hHandled.congr rfl rfl

/- So it is with every operation. -/
theorem acksAfter_perform
    (s : Session σ κ)
    (op : Operation κ) :
    AcksAfter s.state.status (op.onAcks s.ackTimeout s.acks)
      (s.perform d op).session := by
  cases op with
  | process fresh e => exact acksAfter_process d fresh e s
  | start fresh => exact (continues_start fresh s).acksAfter
  | activate profile =>
      exact (continues_activate d profile s).acksAfter
  | shutdown => exact acksAfter_shutdown d s
  | sendWithAck now fresh payload label => exact .going id rfl
  | motionInfo fresh => exact .going id rfl
  | pollTimeouts now => exact .going id rfl

------------------------------------------------------------
-- Deadlines
------------------------------------------------------------

/- A shutdown leaves the time to wait as it is. -/
theorem ackTimeout_shutdown (s : Session σ κ) :
    (s.shutdown d).session.ackTimeout = s.ackTimeout := by
  by_cases hOffline : s.state.status = .offline
  · rw [shutdown_of_offline d hOffline]
    rfl
  · rw [shutdown_of_begun d hOffline]

/- So does every handler. -/
theorem ackTimeout_handle
    (fresh : String)
    (header : Header)
    (payload : Payload)
    (s : Session σ κ) :
    (s.handle d fresh header payload).session.ackTimeout =
      s.ackTimeout := by
  by_cases hShutdown : payload = .sessionShutdown
  · subst hShutdown
    exact ackTimeout_shutdown d s
  · by_cases hAcknowledge : payload = .acknowledge
    · subst hAcknowledge
      unfold handle
      cases header.responseId with
      | none => rfl
      | some target => rfl
    · exact (continues_handle d fresh header s hShutdown
        hAcknowledge).ackTimeout_eq

/- So does a refusal. -/
theorem ackTimeout_refuse
    (fresh : String)
    (header : Header)
    (refusal : Refusal)
    (s : Session σ κ) :
    (s.refuse d fresh header refusal).session.ackTimeout =
      s.ackTimeout := by
  by_cases hFatal : refusal.toFault.fatal = true
  · simp only [refuse, hFatal, if_true]
    exact ackTimeout_shutdown d s
  · simp only [refuse, hFatal]
    rfl

/- So does every message. -/
theorem ackTimeout_process
    (fresh : String)
    (e : Envelope)
    (s : Session σ κ) :
    (s.process d fresh e).session.ackTimeout = s.ackTimeout := by
  unfold process
  cases e.payload with
  | none => exact ackTimeout_refuse d fresh e.header _ _
  | some payload =>
      have hHandled :=
        ackTimeout_handle d fresh e.header payload
          { s with received := s.received + 1 }
      cases hResult :
          (handle d fresh e.header payload
            { s with received := s.received + 1 }).result with
      | error refusal =>
          simp only [hResult]
          exact (ackTimeout_refuse ..).trans hHandled
      | ok answer =>
          cases answer with
          | none =>
              simp only [hResult]
              exact hHandled
          | some reply =>
              simp only [hResult]
              exact hHandled

/- So does every operation. -/
theorem ackTimeout_perform
    (s : Session σ κ)
    (op : Operation κ) :
    (s.perform d op).session.ackTimeout = s.ackTimeout := by
  cases op with
  | process fresh e => exact ackTimeout_process d fresh e s
  | start fresh => exact (continues_start fresh s).ackTimeout_eq
  | activate profile =>
      exact (continues_activate d profile s).ackTimeout_eq
  | shutdown => exact ackTimeout_shutdown d s
  | _ => rfl

/- It is the same at any time. -/
theorem ackTimeout_performAll
    (s : Session σ κ)
    (ops : List (Operation κ)) :
    (s.performAll d ops).session.ackTimeout = s.ackTimeout := by
  induction ops generalizing s with
  | nil => rfl
  | cons op ops ih =>
      exact (ih _).trans (ackTimeout_perform d s op)

end Operations

------------------------------------------------------------
-- Messages left over
------------------------------------------------------------

/- What has waited and is not settled waits on, and what is sent. -/
theorem records_onAcks
    (timeout : Option Nat)
    (acks : AckTable κ)
    (op : Operation κ) :
    (op.onAcks timeout acks).records =
      acks.records.filter (fun r => !op.settles r) ++
        (op.record? timeout).toList := by
  cases op with
  | process fresh e =>
      by_cases hAcknowledge : e.payload = some .acknowledge
      · cases hTarget : e.responseId with
        | none =>
            simp [Operation.onAcks, Operation.settles,
              Operation.record?, hTarget]
        | some target =>
            simp [Operation.onAcks, Operation.settles,
              Operation.record?, AckTable.records_acknowledge,
              hAcknowledge, hTarget, eq_comm]
      · simp [onAcks_of_other timeout acks fresh hAcknowledge,
          Operation.settles, Operation.record?, hAcknowledge]
  | sendWithAck now fresh payload label =>
      simp [Operation.onAcks, Operation.settles,
        Operation.record?, AckTable.expect, AckTable.erase,
        AckTable.filter, eq_comm]
  | pollTimeouts now =>
      simp [Operation.onAcks, Operation.settles,
        Operation.record?, AckTable.expire, AckTable.filter]
  | _ =>
      simp [Operation.onAcks, Operation.settles,
        Operation.record?]

/- What waits then has waited and is not settled, or is sent. -/
theorem mem_onAcks
    (timeout : Option Nat)
    (acks : AckTable κ)
    (op : Operation κ)
    (r : AckRecord κ) :
    r ∈ (op.onAcks timeout acks).records ↔
      (r ∈ acks.records ∧ op.settles r = false) ∨
        op.record? timeout = some r := by
  rw [records_onAcks, List.mem_append, List.mem_filter,
    Option.mem_toList, Bool.not_eq_true']

/- To send a message neither begins a session nor ends it. -/
theorem status_perform_of_record?
    {d : Delegate σ}
    {s : Session σ κ}
    {op : Operation κ}
    {timeout : Option Nat}
    {r : AckRecord κ}
    (hSent : op.record? timeout = some r) :
    (s.perform d op).session.state.status = s.state.status := by
  cases op with
  | sendWithAck now fresh payload label => rfl
  | _ => cases hSent

/-
  Among these operations a message was sent, since then there
  has been no session, and nothing has settled it.
-/
def LeftOver
    (d : Delegate σ)
    (s : Session σ κ)
    (ops : List (Operation κ))
    (r : AckRecord κ) : Prop :=
  ∃ before op after,
    ops = before ++ op :: after ∧
      op.record? s.ackTimeout = some r ∧
      (∀ seen, seen <+: after →
        (s.performAll d
          (before ++ op :: seen)).session.state.status =
            .offline) ∧
      ∀ op' ∈ after, op'.settles r = false

section Leaving

variable {d : Delegate σ}
variable {s : Session σ κ}

/- Where a message is left over, there is no session. -/
theorem LeftOver.offline
    {ops : List (Operation κ)}
    {r : AckRecord κ}
    (hLeft : LeftOver d s ops r) :
    (s.performAll d ops).session.state.status = .offline := by
  rcases hLeft with ⟨before, op, after, rfl, _, hOffline, _⟩
  exact hOffline after List.prefix_rfl

/-
  One more operation leaves over what was left over and is not
  settled, and what it sends, if there is no session.
-/
theorem leftOver_concat
    (ops : List (Operation κ))
    (op : Operation κ)
    (r : AckRecord κ) :
    LeftOver d s (ops ++ [op]) r ↔
      (s.performAll d (ops ++ [op])).session.state.status =
          .offline ∧
        ((LeftOver d s ops r ∧ op.settles r = false) ∨
          op.record? s.ackTimeout = some r) := by
  constructor
  · intro hLeft
    refine ⟨hLeft.offline, ?_⟩
    rcases hLeft with
      ⟨before, sent, after, hOps, hSent, hOffline, hWaits⟩
    rcases List.eq_nil_or_concat' after with
      rfl | ⟨after, last, rfl⟩
    · rcases List.append_inj' hOps rfl with ⟨_, hLast⟩
      cases hLast
      exact .inr hSent
    · rw [← List.cons_append, ← List.append_assoc] at hOps
      rcases List.append_inj' hOps rfl with ⟨rfl, hLast⟩
      cases hLast
      refine .inl ⟨⟨before, sent, after, rfl, hSent, ?_, ?_⟩, ?_⟩
      · intro seen hSeen
        exact hOffline seen (hSeen.trans (List.prefix_append ..))
      · intro op' hMem
        exact hWaits op' (List.mem_append_left _ hMem)
      · exact hWaits op
          (List.mem_append_right _ List.mem_cons_self)
  · rintro ⟨hNow, ⟨hLeft, hWaits⟩ | hSent⟩
    · rcases hLeft with
        ⟨before, sent, after, rfl, hSent, hOffline, hUnsettled⟩
      refine ⟨before, sent, after ++ [op], ?_, hSent, ?_, ?_⟩
      · rw [List.append_assoc, List.cons_append]
      · intro seen hSeen
        rcases List.prefix_concat_iff.mp hSeen with rfl | hSeen
        · rw [List.append_assoc, List.cons_append] at hNow
          exact hNow
        · exact hOffline seen hSeen
      · intro op' hMem
        rcases List.mem_append.mp hMem with hMem | hMem
        · exact hUnsettled op' hMem
        · rw [List.mem_singleton.mp hMem]
          exact hWaits
    · refine ⟨ops, op, [], rfl, hSent, ?_, nofun⟩
      intro seen hSeen
      rw [List.prefix_nil.mp hSeen]
      exact hNow

/- One more operation after others. -/
theorem session_performAll_concat
    (d : Delegate σ)
    (s : Session σ κ)
    (ops : List (Operation κ))
    (op : Operation κ) :
    (s.performAll d (ops ++ [op])).session =
      ((s.performAll d ops).session.perform d op).session := by
  rw [performAll_append]
  simp only [performAll_singleton]

/-
  Whatever is done with a session for which nothing waits:
  when there is no session any more, the messages that still
  wait are those that are left over.
-/
theorem mem_acks_iff_leftOver
    (hNew : s.acks = .empty)
    (ops : List (Operation κ))
    (r : AckRecord κ)
    (hOffline :
      (s.performAll d ops).session.state.status = .offline) :
    r ∈ (s.performAll d ops).session.acks.records ↔
      LeftOver d s ops r := by
  induction ops using List.reverseRecOn with
  | nil =>
      rw [show (s.performAll d []).session = s from rfl, hNew]
      constructor
      · intro hMem
        cases hMem
      · rintro ⟨before, op, after, hOps, _⟩
        cases before with
        | _ => cases hOps
  | append_singleton ops op ih =>
      have hLeft := leftOver_concat (d := d) (s := s) ops op r
      have hAfter :=
        acksAfter_perform d (s.performAll d ops).session op
      rw [ackTimeout_performAll] at hAfter
      rw [session_performAll_concat] at hOffline hLeft ⊢
      rw [hLeft]
      cases hAfter with
      | ended hBegun _ hAcks =>
          rw [hAcks]
          constructor
          · intro hMem
            cases hMem
          · rintro ⟨_, ⟨hLeft, _⟩ | hSent⟩
            · exact absurd hLeft.offline hBegun
            · rw [status_perform_of_record? hSent] at hOffline
              exact absurd hOffline hBegun
      | going hBegun hAcks =>
          have hBefore :
              (s.performAll d ops).session.state.status =
                .offline := by
            by_contra hStatus
            exact hBegun hStatus hOffline
          rw [hAcks, mem_onAcks, ih hBefore]
          exact (and_iff_right hOffline).symm

end Leaving

end Session

end CaptureLink
