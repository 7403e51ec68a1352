import CaptureLink.Proofs.Session.Following

/-
  What a session makes of a message depends on its state, its
  application and the server's introduction alone.  Which
  messages wait for an acknowledgment, and how many have come
  and gone, makes no difference to the answer, to the state or
  to what the application is told.

  Main statements:
    * `Session.Alike`
    * `Session.AlikeStep`
    * `Session.alike_handle`
    * `Session.alike_process`
-/

namespace CaptureLink

namespace Session

variable {σ κ α β : Type}

------------------------------------------------------------
-- Sessions that are alike
------------------------------------------------------------

/-
  Two sessions that differ in nothing but acknowledgments and
  the counters of messages.
-/
structure Alike (s s' : Session σ κ) : Prop where
  info_eq : s'.info = s.info
  state_eq : s'.state = s.state
  host_eq : s'.host = s.host
  updates_eq : s'.updates = s.updates
  dropped_eq : s'.dropped = s.dropped

/-
  Two operations with the same result, after which the
  sessions are alike and the applications were told the same.
-/
structure AlikeStep (step step' : Step σ κ α) : Prop where
  session_alike : Alike step.session step'.session
  notices_eq : notices step'.events = notices step.events
  result_eq : step'.result = step.result

/- A session is like itself. -/
theorem Alike.refl (s : Session σ κ) : Alike s s :=
  ⟨rfl, rfl, rfl, rfl, rfl⟩

theorem Alike.symm
    {s s' : Session σ κ}
    (hAlike : Alike s s') : Alike s' s where
  info_eq := hAlike.info_eq.symm
  state_eq := hAlike.state_eq.symm
  host_eq := hAlike.host_eq.symm
  updates_eq := hAlike.updates_eq.symm
  dropped_eq := hAlike.dropped_eq.symm

theorem Alike.trans
    {s s' s'' : Session σ κ}
    (hFirst : Alike s s')
    (hSecond : Alike s' s'') : Alike s s'' where
  info_eq := hSecond.info_eq.trans hFirst.info_eq
  state_eq := hSecond.state_eq.trans hFirst.state_eq
  host_eq := hSecond.host_eq.trans hFirst.host_eq
  updates_eq := hSecond.updates_eq.trans hFirst.updates_eq
  dropped_eq := hSecond.dropped_eq.trans hFirst.dropped_eq

/- Both may go on to the same state. -/
theorem Alike.withState
    {s s' : Session σ κ}
    (hAlike : Alike s s')
    (state : SessionState) :
    Alike { s with state := state } { s' with state := state } :=
  ⟨hAlike.info_eq, rfl, hAlike.host_eq, hAlike.updates_eq,
    hAlike.dropped_eq⟩

/- So may their applications. -/
theorem Alike.withHost
    {s s' : Session σ κ}
    (hAlike : Alike s s')
    (host : σ) :
    Alike { s with host := host } { s' with host := host } :=
  ⟨hAlike.info_eq, hAlike.state_eq, rfl, hAlike.updates_eq,
    hAlike.dropped_eq⟩

section Parts

variable {d : Delegate σ}
variable {s s' : Session σ κ}

/- Where nothing is told, the sessions decide. -/
theorem alike_quiet
    (hAlike : Alike s s')
    (result : α) :
    AlikeStep (.quiet s result) (.quiet s' result) :=
  ⟨hAlike, rfl, rfl⟩

/- What becomes of the result does not matter. -/
theorem AlikeStep.map
    {step step' : Step σ κ α}
    (hAlike : AlikeStep step step')
    (f : α → β) :
    AlikeStep
      ⟨step.session, step.events, f step.result⟩
      ⟨step'.session, step'.events, f step'.result⟩ :=
  ⟨hAlike.session_alike, hAlike.notices_eq,
    congrArg f hAlike.result_eq⟩

/- The application hears the same, and answers the same. -/
theorem alike_announce
    (n : Notice)
    (hAlike : Alike s s')
    (result : α) :
    AlikeStep (s.announce d n result)
      (s'.announce d n result) := by
  have hHost := hAlike.host_eq
  cases hTold : (d.notify n s.host).2 with
  | none =>
      have hTold' : (d.notify n s'.host).2 = none := by
        rw [hHost, hTold]
      rw [announce_of_heard result hTold,
        announce_of_heard result hTold', hHost]
      exact ⟨hAlike.withHost _, rfl, rfl⟩
  | some fault =>
      have hTold' : (d.notify n s'.host).2 = some fault := by
        rw [hHost, hTold]
      rw [announce_of_failed result hTold,
        announce_of_failed result hTold', hHost]
      exact ⟨hAlike.withHost _, rfl, rfl⟩

/- Both are activated, or both refuse. -/
theorem alike_whenActive
    (kind : Kind)
    {act act' : Step σ κ (Except Refusal α)}
    (hAlike : Alike s s')
    (hAct : AlikeStep act act') :
    AlikeStep (s.whenActive kind act)
      (s'.whenActive kind act') := by
  have hState := hAlike.state_eq
  by_cases hActive : s.state.status = .activated
  · have hActive' : s'.state.status = .activated := by
      rw [hState, hActive]
    rwa [whenActive_of_active kind act hActive,
      whenActive_of_active kind act' hActive']
  · have hInactive' : s'.state.status ≠ .activated := by
      rwa [hState]
    rw [whenActive_of_inactive kind act hActive,
      whenActive_of_inactive kind act' hInactive', hState]
    exact alike_quiet hAlike _

------------------------------------------------------------
-- Operations
------------------------------------------------------------

/- Both start, or neither does. -/
theorem alike_start
    (fresh : String)
    (hAlike : Alike s s') :
    AlikeStep (s.start fresh) (s'.start fresh) := by
  unfold start
  rw [hAlike.state_eq, hAlike.info_eq]
  cases s.state.status with
  | offline =>
      apply alike_quiet
      exact ⟨rfl, rfl, hAlike.host_eq, hAlike.updates_eq,
        hAlike.dropped_eq⟩
  | _ => exact alike_quiet hAlike _

/- Both are activated, or neither is. -/
theorem alike_activate
    (profile : ClientProfile)
    (hAlike : Alike s s') :
    AlikeStep (s.activate d profile)
      (s'.activate d profile) := by
  unfold activate
  rw [hAlike.state_eq, hAlike.info_eq]
  cases s.state.status with
  | starting =>
      by_cases hSpoken :
          profile.apiVersion = "" ∨
            s.info.speaksWith profile.apiVersion
      · simp only [hSpoken, if_true]
        apply alike_announce
        exact ⟨rfl, rfl, hAlike.host_eq, hAlike.updates_eq,
          hAlike.dropped_eq⟩
      · simp only [hSpoken, if_false]
        exact alike_quiet hAlike _
  | _ => exact alike_quiet hAlike _

/- Both end. -/
theorem alike_shutdown (hAlike : Alike s s') :
    AlikeStep (s.shutdown d) (s'.shutdown d) := by
  unfold shutdown notify
  rw [hAlike.state_eq, hAlike.host_eq]
  cases s.state.status with
  | offline => exact alike_quiet hAlike _
  | _ =>
      exact
        ⟨⟨hAlike.info_eq, rfl, rfl, hAlike.updates_eq,
            hAlike.dropped_eq⟩, rfl, rfl⟩

/- A transform is taken by both or dropped by both. -/
theorem alike_takeTransform
    (transform : Transform)
    (hAlike : Alike s s') :
    AlikeStep (s.takeTransform d transform)
      (s'.takeTransform d transform) := by
  unfold takeTransform
  rw [hAlike.state_eq]
  by_cases hCapturing : s.state.mode.capturing = true
  · simp only [hCapturing, if_true]
    apply alike_announce
    exact ⟨hAlike.info_eq, rfl, hAlike.host_eq,
      congrArg (· + 1) hAlike.updates_eq, hAlike.dropped_eq⟩
  · simp only [hCapturing, Bool.false_eq_true, if_false]
    apply alike_quiet
    exact ⟨hAlike.info_eq, rfl, hAlike.host_eq,
      hAlike.updates_eq, congrArg (· + 1) hAlike.dropped_eq⟩

/- Every handler does the same in sessions that are alike. -/
theorem alike_handle
    (fresh : String)
    (header : Header)
    (payload : Payload)
    (hAlike : Alike s s') :
    AlikeStep (s.handle d fresh header payload)
      (s'.handle d fresh header payload) := by
  have hState := hAlike.state_eq
  have hHost := hAlike.host_eq
  cases payload with
  | sessionStart info => exact (alike_start fresh hAlike).map _
  | sessionActivate profile =>
      exact (alike_activate profile hAlike).map _
  | sessionShutdown =>
      have hEnded := alike_shutdown (d := d) hAlike
      exact ⟨hEnded.session_alike, hEnded.notices_eq, rfl⟩
  | acknowledge =>
      -- Only here do the acknowledgments of the two sessions differ.
      unfold handle
      cases header.responseId with
      | none => exact alike_quiet hAlike _
      | some id =>
          refine ⟨⟨hAlike.info_eq, hState, hHost,
            hAlike.updates_eq, hAlike.dropped_eq⟩, ?_, rfl⟩
          rw [notices_settled, notices_settled]
  | getCameraList =>
      unfold handle
      rw [hHost]
      exact alike_whenActive _ hAlike (alike_quiet hAlike _)
  | setActiveCamera id =>
      apply alike_whenActive _ hAlike
      rw [hHost]
      cases d.find? s.host id with
      | none => exact alike_quiet hAlike _
      | some camera =>
          unfold pickCamera
          rw [hState]
          exact alike_announce _ (hAlike.withState _) _
  | motionSetMode mode =>
      apply alike_whenActive _ hAlike
      unfold changeMode
      rw [hState]
      cases s.state.mode.transition mode with
      | none => exact alike_quiet hAlike _
      | some next => exact alike_announce _ (hAlike.withState _) _
  | motionGetMode =>
      unfold handle
      rw [hState]
      exact alike_whenActive _ hAlike (alike_quiet hAlike _)
  | motionUpdate transform =>
      exact alike_whenActive _ hAlike
        (alike_takeTransform transform hAlike)
  | _ => exact alike_quiet hAlike _

/- Both refuse in the same words, and both end or neither does. -/
theorem alike_refuse
    (fresh : String)
    (header : Header)
    (refusal : Refusal)
    (hAlike : Alike s s') :
    AlikeStep (s.refuse d fresh header refusal)
      (s'.refuse d fresh header refusal) := by
  have hStep :
      AlikeStep
        (if refusal.toFault.fatal then s.shutdown d
          else .quiet s ())
        (if refusal.toFault.fatal then s'.shutdown d
          else .quiet s' ()) := by
    cases refusal.toFault.fatal with
    | true => exact alike_shutdown hAlike
    | false => exact alike_quiet hAlike ()
  rcases hStep.session_alike with
    ⟨hInfo, hState, hHost, hUpdates, hDropped⟩
  exact ⟨⟨hInfo, hState, hHost, hUpdates, hDropped⟩,
    hStep.notices_eq, rfl⟩

/- So it is with every message. -/
theorem alike_process
    (fresh : String)
    (e : Envelope)
    (hAlike : Alike s s') :
    AlikeStep (s.process d fresh e) (s'.process d fresh e) := by
  have hReceived :
      Alike { s with received := s.received + 1 }
        { s' with received := s'.received + 1 } :=
    ⟨hAlike.info_eq, hAlike.state_eq, hAlike.host_eq,
      hAlike.updates_eq, hAlike.dropped_eq⟩
  unfold process
  cases e.payload with
  | none =>
      exact (alike_refuse fresh e.header .missingPayload
        hReceived).map some
  | some payload =>
      have hHandled :=
        alike_handle (d := d) fresh e.header payload hReceived
      simp only [hHandled.result_eq]
      cases (handle d fresh e.header payload
          { s with received := s.received + 1 }).result with
      | error refusal =>
          have hRefused :=
            alike_refuse (d := d) fresh e.header refusal
              hHandled.session_alike
          refine ⟨hRefused.session_alike, ?_,
            congrArg some hRefused.result_eq⟩
          simp only [notices, List.filterMap_append]
          exact congrArg₂ (· ++ ·) hHandled.notices_eq
            hRefused.notices_eq
      | ok answer =>
          cases answer with
          | none =>
              exact ⟨hHandled.session_alike,
                hHandled.notices_eq, rfl⟩
          | some reply =>
              rcases hHandled.session_alike with
                ⟨hInfo, hState, hHost, hUpdates, hDropped⟩
              exact ⟨⟨hInfo, hState, hHost, hUpdates, hDropped⟩,
                hHandled.notices_eq, rfl⟩

end Parts

end Session

end CaptureLink
