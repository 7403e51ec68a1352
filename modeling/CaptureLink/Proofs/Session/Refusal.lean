import CaptureLink.Session

/-
  Operations that may be refused.  A refused operation has
  done nothing yet, unless the refusal is fatal, and then the
  session is there to be ended.  This holds of every handler,
  and so of every message.

  Main statements:
    * `Session.Guarded`
    * `Session.guarded_announce`
    * `Session.guarded_handle`
    * `Session.errorless_handle`
-/

namespace CaptureLink

namespace Session

variable {σ κ α β : Type}

------------------------------------------------------------
-- Refusals
------------------------------------------------------------

/- A failure of the application is always fatal. -/
theorem fatal_delegateFailed (fault : Fault) :
    (Refusal.delegateFailed fault).toFault.fatal = true := by
  cases fault with
  | _ => rfl

/-
  An operation in a session is guarded if it does not say
  that the session ends, has done nothing if it is refused
  and the session goes on, and leaves a session that can be
  ended, with nobody told about an acknowledgment, if the
  refusal is fatal.
-/
structure Guarded
    (s : Session σ κ)
    (step : Step σ κ (Except Refusal α)) : Prop where
  silent : Event.notice .shutdown ∉ step.events
  untouched :
    ∀ refusal,
      step.result = .error refusal →
      refusal.toFault.fatal = false →
      step.session = s ∧ step.events = []
  begun :
    ∀ refusal,
      step.result = .error refusal →
      refusal.toFault.fatal = true →
      s.state.status ≠ .offline ∧
        step.session.state.status ≠ .offline ∧
        ∀ settlement, Event.settled settlement ∉ step.events

/- An answer without events is guarded. -/
theorem guarded_quiet_ok
    (s s' : Session σ κ)
    (result : α) :
    Guarded s (.quiet s' (.ok result)) where
  silent := List.not_mem_nil
  untouched := by
    intro refusal hRefused
    cases hRefused
  begun := by
    intro refusal hRefused
    cases hRefused

/- A refusal is guarded if it is fatal in begun sessions only. -/
theorem guarded_quiet_error
    {s : Session σ κ}
    {refusal : Refusal}
    (hBegun :
      refusal.toFault.fatal = true →
        s.state.status ≠ .offline) :
    Guarded s
      (.quiet s (.error refusal : Except Refusal α)) where
  silent := List.not_mem_nil
  untouched := by
    intro _ _ _
    exact ⟨rfl, rfl⟩
  begun := by
    intro refusal' hRefused hFatal
    cases hRefused
    exact ⟨hBegun hFatal, hBegun hFatal,
      fun _ => List.not_mem_nil⟩

/- A refusal that is never fatal is guarded. -/
theorem guarded_refused
    {s : Session σ κ}
    {refusal : Refusal}
    (hHarmless : refusal.toFault.fatal = false) :
    Guarded s
      (.quiet s (.error refusal : Except Refusal α)) := by
  apply guarded_quiet_error
  intro hFatal
  rw [hHarmless] at hFatal
  cases hFatal

/-
  To tell the application of a begun session something is
  guarded, since its failures are fatal.
-/
theorem guarded_announce
    (d : Delegate σ)
    {n : Notice}
    {s s' : Session σ κ}
    (result : α)
    (hNotice : n ≠ .shutdown)
    (hBegun : s.state.status ≠ .offline)
    (hBegun' : s'.state.status ≠ .offline) :
    Guarded s (s'.announce d n result) := by
  have hSilent :
      Event.notice .shutdown ∉ [Event.notice (κ := κ) n] := by
    intro hMem
    rw [List.mem_singleton] at hMem
    cases hMem
    exact hNotice rfl
  cases hFault : (d.notify n s'.host).2 with
  | none =>
      refine ⟨?_, ?_, ?_⟩
      · simpa only [announce, notify, hFault] using hSilent
      · intro refusal hRefused
        simp only [announce, notify, hFault, reduceCtorEq]
          at hRefused
      · intro refusal hRefused
        simp only [announce, notify, hFault, reduceCtorEq]
          at hRefused
  | some fault =>
      refine ⟨?_, ?_, ?_⟩
      · simpa only [announce, notify, hFault] using hSilent
      · intro refusal hRefused hHarmless
        simp only [announce, notify, hFault, Except.error.injEq]
          at hRefused
        subst hRefused
        rw [fatal_delegateFailed] at hHarmless
        cases hHarmless
      · intro refusal _ _
        simp only [announce, notify, hFault]
        refine ⟨hBegun, hBegun', fun settlement hMem => ?_⟩
        rw [List.mem_singleton] at hMem
        cases hMem

/- An operation for activated sessions is guarded in these. -/
theorem guarded_whenActive
    {kind : Kind}
    {s : Session σ κ}
    {act : Step σ κ (Except Refusal α)}
    (hAct : s.state.status = .activated → Guarded s act) :
    Guarded s (s.whenActive kind act) := by
  unfold whenActive active
  by_cases hActive : s.state.status = .activated
  · simp only [hActive, decide_true, if_true]
    exact hAct hActive
  · simp only [hActive, decide_false, Bool.false_eq_true,
      if_false]
    exact guarded_refused rfl

/- What is made of the answer does not matter. -/
theorem Guarded.map
    {s : Session σ κ}
    {step : Step σ κ (Except Refusal α)}
    (hGuarded : Guarded s step)
    (f : α → β) :
    Guarded s
      ⟨step.session, step.events, step.result.map f⟩ := by
  have hResult :
      ∀ refusal, step.result.map f = .error refusal →
        step.result = .error refusal := by
    intro refusal hRefused
    cases hStep : step.result with
    | ok a =>
        rw [hStep] at hRefused
        cases hRefused
    | error refusal' =>
        rw [hStep] at hRefused
        cases hRefused
        rfl
  refine ⟨hGuarded.silent, ?_, ?_⟩
  · intro refusal hRefused
    exact hGuarded.untouched refusal (hResult refusal hRefused)
  · intro refusal hRefused
    exact hGuarded.begun refusal (hResult refusal hRefused)

------------------------------------------------------------
-- Handlers
------------------------------------------------------------

/- A session is started only once. -/
theorem guarded_start
    (fresh : String)
    (s : Session σ κ) :
    Guarded s (s.start fresh) := by
  unfold start
  cases s.state.status with
  | offline => exact guarded_quiet_ok _ _ _
  | starting => exact guarded_refused rfl
  | activated => exact guarded_refused rfl

/- A version that is not spoken ends the session. -/
theorem guarded_activate
    (d : Delegate σ)
    (profile : ClientProfile)
    (s : Session σ κ) :
    Guarded s (s.activate d profile) := by
  unfold activate
  cases hStatus : s.state.status with
  | offline => exact guarded_refused rfl
  | activated => exact guarded_refused rfl
  | starting =>
      have hBegun : s.state.status ≠ .offline := by
        rw [hStatus]
        intro hEq
        cases hEq
      by_cases hSpoken :
          profile.apiVersion = "" ∨
            s.info.speaksWith profile.apiVersion
      · simp only [hSpoken, if_true]
        apply guarded_announce
        · intro hEq
          cases hEq
        · exact hBegun
        · intro hEq
          cases hEq
      · simp only [hSpoken, if_false]
        exact guarded_quiet_error fun _ => hBegun

section Active

variable {s : Session σ κ}
variable (d : Delegate σ)

/- An activated session has begun. -/
theorem begun_of_activated
    (hActive : s.state.status = .activated) :
    s.state.status ≠ .offline := by
  rw [hActive]
  intro hEq
  cases hEq

/- The camera is there when the application is told of it. -/
theorem guarded_pickCamera
    (camera : Camera)
    (reply : Envelope)
    (hActive : s.state.status = .activated) :
    Guarded s (s.pickCamera d camera reply) := by
  have hBegun := begun_of_activated hActive
  unfold pickCamera
  apply guarded_announce
  · intro hEq
    cases hEq
  · exact hBegun
  · exact hBegun

/- A mode is asked for, and may be the one that there is. -/
theorem guarded_changeMode
    (requested : MotionMode)
    (reply : Envelope)
    (hActive : s.state.status = .activated) :
    Guarded s (s.changeMode d requested reply) := by
  have hBegun := begun_of_activated hActive
  unfold changeMode
  cases s.state.mode.transition requested with
  | none => exact guarded_quiet_ok _ _ _
  | some mode =>
      apply guarded_announce
      · intro hEq
        cases hEq
      · exact hBegun
      · exact hBegun

/- A transform is taken or dropped. -/
theorem guarded_takeTransform
    (transform : Transform)
    (hActive : s.state.status = .activated) :
    Guarded s (s.takeTransform d transform) := by
  have hBegun := begun_of_activated hActive
  unfold takeTransform
  by_cases hCapturing : s.state.mode.capturing = true
  · simp only [hCapturing, if_true]
    apply guarded_announce
    · intro hEq
      cases hEq
    · exact hBegun
    · exact hBegun
  · simp only [hCapturing, Bool.false_eq_true, if_false]
    exact guarded_quiet_ok _ _ _

end Active

/- Every message but the request to end the session is guarded. -/
theorem guarded_handle
    (d : Delegate σ)
    (fresh : String)
    (header : Header)
    {payload : Payload}
    (s : Session σ κ)
    (hOther : payload ≠ .sessionShutdown) :
    Guarded s (s.handle d fresh header payload) := by
  cases payload with
  | sessionStart info => exact (guarded_start fresh s).map some
  | sessionActivate profile =>
      exact (guarded_activate d profile s).map fun _ => none
  | sessionShutdown => exact absurd rfl hOther
  | acknowledge =>
      cases hId : header.responseId with
      | none =>
          simp only [handle, hId]
          exact guarded_refused rfl
      | some id =>
          simp only [handle, hId]
          refine ⟨?_, ?_, ?_⟩
          · intro hMem
            rcases List.mem_map.mp hMem with ⟨_, _, hEq⟩
            cases hEq
          · intro refusal hRefused
            cases hRefused
          · intro refusal hRefused
            cases hRefused
  | error report => exact guarded_quiet_ok _ _ _
  | getCameraList =>
      apply guarded_whenActive
      intro _
      exact guarded_quiet_ok _ _ _
  | setActiveCamera id =>
      apply guarded_whenActive
      intro hActive
      cases d.find? s.host id with
      | none => exact guarded_refused rfl
      | some camera => exact guarded_pickCamera d camera _ hActive
  | motionSetMode mode =>
      apply guarded_whenActive
      exact guarded_changeMode d mode _
  | motionGetMode =>
      apply guarded_whenActive
      intro _
      exact guarded_quiet_ok _ _ _
  | motionUpdate transform =>
      apply guarded_whenActive
      exact guarded_takeTransform d transform
  | cameraList cameras => exact guarded_refused rfl
  | activeCameraInfo camera => exact guarded_refused rfl
  | motionActiveMode mode => exact guarded_refused rfl
  | motionInfo mode transform => exact guarded_refused rfl

------------------------------------------------------------
-- Answers
------------------------------------------------------------

/- If there is an answer, it is no report of a fault. -/
def Errorless
    (result : Except Refusal (Option Envelope)) : Prop :=
  ∀ reply report,
    result = .ok (some reply) →
      reply.payload ≠ some (.error report)

/- A refusal is no answer yet. -/
theorem errorless_error (refusal : Refusal) :
    Errorless (.error refusal) := by
  intro reply report hReply
  cases hReply

/- No answer is no report. -/
theorem errorless_none : Errorless (.ok none) := by
  intro reply report hReply
  cases hReply

/- An answer with another payload is no report. -/
theorem errorless_some
    {reply : Envelope}
    {payload : Payload}
    (hPayload : reply.payload = some payload)
    (hKind : payload.kind ≠ .error) :
    Errorless (.ok (some reply)) := by
  intro reply' report hReply hReport
  cases hReply
  rw [hPayload] at hReport
  cases hReport
  exact hKind rfl

/- An announced answer is an answer, or the announcement fails. -/
theorem errorless_announce
    (d : Delegate σ)
    (n : Notice)
    (s : Session σ κ)
    {result : Option Envelope}
    (hResult : Errorless (.ok result)) :
    Errorless (s.announce d n result).result := by
  unfold announce notify
  cases hFault : (d.notify n s.host).2 with
  | none => simpa only [hFault] using hResult
  | some fault =>
      simp only [hFault]
      exact errorless_error _

/- An answer of activated sessions is an answer, or a refusal. -/
theorem errorless_whenActive
    (kind : Kind)
    (s : Session σ κ)
    {act : Step σ κ (Except Refusal (Option Envelope))}
    (hAct : Errorless act.result) :
    Errorless (s.whenActive kind act).result := by
  unfold whenActive
  by_cases hActive : s.active = true
  · simpa only [hActive, if_true] using hAct
  · simp only [hActive, Bool.false_eq_true, if_false]
    exact errorless_error _

/- No handler answers with a report. -/
theorem errorless_handle
    (d : Delegate σ)
    (fresh : String)
    (header : Header)
    (payload : Payload)
    (s : Session σ κ) :
    Errorless (s.handle d fresh header payload).result := by
  cases payload with
  | sessionStart info =>
      simp only [handle, start]
      cases s.state.status with
      | offline =>
          apply errorless_some rfl
          intro hEq
          cases hEq
      | starting => exact errorless_error _
      | activated => exact errorless_error _
  | sessionActivate profile =>
      simp only [handle]
      cases (s.activate d profile).result with
      | ok _ => exact errorless_none
      | error refusal => exact errorless_error refusal
  | sessionShutdown => exact errorless_none
  | acknowledge =>
      cases hId : header.responseId with
      | none =>
          simp only [handle, hId]
          exact errorless_error _
      | some id =>
          simp only [handle, hId]
          exact errorless_none
  | error report => exact errorless_none
  | getCameraList =>
      apply errorless_whenActive
      apply errorless_some rfl
      intro hEq
      cases hEq
  | setActiveCamera id =>
      apply errorless_whenActive
      cases d.find? s.host id with
      | none => exact errorless_error _
      | some camera =>
          apply errorless_announce
          apply errorless_some rfl
          intro hEq
          cases hEq
  | motionSetMode mode =>
      apply errorless_whenActive
      have hReply :
          Errorless
            (.ok (some
              (.reply fresh header.id .acknowledge))) := by
        apply errorless_some rfl
        intro hEq
        cases hEq
      unfold changeMode
      cases s.state.mode.transition mode with
      | none => exact hReply
      | some mode => exact errorless_announce d _ _ hReply
  | motionGetMode =>
      apply errorless_whenActive
      apply errorless_some rfl
      intro hEq
      cases hEq
  | motionUpdate transform =>
      apply errorless_whenActive
      unfold takeTransform
      cases s.state.mode.capturing with
      | false => exact errorless_none
      | true => exact errorless_announce d _ _ errorless_none
  | cameraList cameras => exact errorless_error _
  | activeCameraInfo camera => exact errorless_error _
  | motionActiveMode mode => exact errorless_error _
  | motionInfo mode transform => exact errorless_error _

end Session

end CaptureLink
