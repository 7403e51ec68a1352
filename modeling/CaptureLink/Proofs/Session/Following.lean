import CaptureLink.Proofs.Session.Log
import CaptureLink.Proofs.Session.Steps

/-
  What one message does.  If it leaves an activated session
  activated, it does what its entry in the log has it do:
  set the mode, store a transform or pick a camera, and tell
  the application.  A session that is not activated has no
  mode, transform or camera of its own, and becomes activated
  only by an activation.

  Main statements:
    * `Session.Follows`
    * `Session.follows_handle`
    * `Session.follows_process`
    * `Session.Bare`
    * `Session.state_of_handle_inactive`
    * `Session.bare_process`
    * `Session.activated_or_bare_of_process`
-/

namespace CaptureLink

------------------------------------------------------------
-- What the application was told
------------------------------------------------------------

namespace Notice

/- The mode that the application is told of. -/
def mode? : Notice → Option MotionMode
| .mode current => some current
| _ => none

/- The transform that the application is told of. -/
def motion? : Notice → Option Transform
| .motion transform => some transform
| _ => none

end Notice

namespace Session

variable {σ κ : Type}

/- What the application is told in an event. -/
def Event.notice? : Event κ → Option Notice
| .notice n => some n
| .settled _ => none

/- What the application is told in some events, in order. -/
def notices (events : List (Event κ)) : List Notice :=
  events.filterMap Event.notice?

@[simp] theorem notices_nil :
    notices ([] : List (Event κ)) = [] :=
  rfl

@[simp] theorem notices_notice (n : Notice) :
    notices [(.notice n : Event κ)] = [n] :=
  rfl

/- It is not told how waiting for an acknowledgment ends. -/
@[simp] theorem notices_settled
    (settlements : List (Settlement κ)) :
    notices (settlements.map .settled) = [] := by
  simp only [notices, List.filterMap_map,
    List.filterMap_eq_nil_iff]
  intro _ _
  rfl

------------------------------------------------------------
-- One message in an activated session
------------------------------------------------------------

/-
  A session goes from one state to the next, and the
  application is told something, as an entry of the log has
  it.
-/
structure Follows
    (d : Delegate σ)
    (e : Entry σ)
    (before after : SessionState)
    (told : List Notice) : Prop where
  status : after.status = before.status
  mode : after.mode = e.requested?.getD before.mode
  transform :
    after.transform =
      (if before.mode.capturing then e.reported?
        else none).getD before.transform
  camera : after.camera = (e.found? d).or before.camera
  modes_told :
    told.filterMap Notice.mode? =
      (e.requested?.filter (· ≠ before.mode)).toList
  motions_told :
    told.filterMap Notice.motion? =
      (if before.mode.capturing then e.reported?
        else none).toList

section Following

variable (d : Delegate σ)
variable (fresh : String)
variable (header : Header)
variable (s : Session σ κ)

/- Who asks for nothing changes nothing. -/
theorem follows_same
    {e : Entry σ}
    {state : SessionState}
    (hRequested : e.requested? = none)
    (hReported : e.reported? = none)
    (hFound : e.found? d = none) :
    Follows d e state state [] where
  status := rfl
  mode := by rw [hRequested]; rfl
  transform := by simp [hReported]
  camera := by simp [hFound]
  modes_told := by simp [hRequested]
  motions_told := by simp [hReported]

/- A camera that was found is picked. -/
theorem follows_pickCamera
    {id : String}
    {camera : Camera}
    (reply : Envelope)
    (hFound : d.find? s.host id = some camera) :
    Follows d ⟨s.host, ⟨header, some (.setActiveCamera id)⟩⟩
      s.state
      (s.pickCamera d camera reply).session.state
      (notices (s.pickCamera d camera reply).events) where
  status := by simp only [pickCamera, announce_state]
  mode := by simp only [pickCamera, announce_state]; rfl
  transform := by
    simp [pickCamera, Entry.reported?]
  camera := by
    simp [pickCamera, Entry.found?, hFound]
  modes_told := by
    simp [pickCamera, Entry.requested?, Notice.mode?]
  motions_told := by
    simp [pickCamera, Entry.reported?, Notice.motion?]

/- A request for the mode that there is changes nothing. -/
theorem follows_changeMode_same
    {requested : MotionMode}
    (reply : Envelope)
    (hSame : s.state.mode = requested) :
    Follows d
      ⟨s.host, ⟨header, some (.motionSetMode requested)⟩⟩
      s.state
      (s.changeMode d requested reply).session.state
      (notices (s.changeMode d requested reply).events) := by
  have hNone : s.state.mode.transition requested = none := by
    rw [MotionMode.transition, if_pos hSame]
  simp only [changeMode, hNone, Step.quiet]
  exact
    { status := rfl
      mode := hSame
      transform := by simp [Entry.reported?]
      camera := rfl
      modes_told := by simp [Entry.requested?, hSame]
      motions_told := by simp [Entry.reported?] }

/- Another mode is the mode from then on. -/
theorem follows_changeMode_other
    {requested : MotionMode}
    (reply : Envelope)
    (hOther : s.state.mode ≠ requested) :
    Follows d
      ⟨s.host, ⟨header, some (.motionSetMode requested)⟩⟩
      s.state
      (s.changeMode d requested reply).session.state
      (notices (s.changeMode d requested reply).events) := by
  have hSome :
      s.state.mode.transition requested = some requested := by
    rw [MotionMode.transition, if_neg hOther]
  simp only [changeMode, hSome, announce_state, announce_events,
    notices_notice]
  exact
    { status := rfl
      mode := rfl
      transform := by simp [Entry.reported?]
      camera := rfl
      modes_told := by
        simp [Entry.requested?, Notice.mode?, Option.filter,
          Ne.symm hOther]
      motions_told := by
        simp [Entry.reported?, Notice.motion?] }

/- A transform is dropped if the mode takes none. -/
theorem follows_takeTransform_dropped
    {transform : Transform}
    (hOff : s.state.mode.capturing = false) :
    Follows d
      ⟨s.host, ⟨header, some (.motionUpdate transform)⟩⟩
      s.state
      (s.takeTransform d transform).session.state
      (notices (s.takeTransform d transform).events) := by
  simp only [takeTransform, hOff, Bool.false_eq_true, if_false,
    Step.quiet]
  exact
    { status := rfl
      mode := rfl
      transform := by simp [hOff]
      camera := rfl
      modes_told := rfl
      motions_told := by simp [hOff] }

/- If it takes some, it is stored. -/
theorem follows_takeTransform_stored
    {transform : Transform}
    (hCapturing : s.state.mode.capturing = true) :
    Follows d
      ⟨s.host, ⟨header, some (.motionUpdate transform)⟩⟩
      s.state
      (s.takeTransform d transform).session.state
      (notices (s.takeTransform d transform).events) := by
  simp only [takeTransform, hCapturing, if_true, announce_state,
    announce_events, notices_notice]
  exact
    { status := rfl
      mode := rfl
      transform := by simp [hCapturing, Entry.reported?]
      camera := rfl
      modes_told := rfl
      motions_told := by
        simp [hCapturing, Entry.reported?, Notice.motion?] }

/-
  Every handler but that of the request to end the session
  does what the entry has it do, even if it is refused later.
-/
theorem follows_handle
    {payload : Payload}
    (hActive : s.state.status = .activated)
    (hOther : payload ≠ .sessionShutdown) :
    let step := s.handle d fresh header payload
    Follows d ⟨s.host, ⟨header, some payload⟩⟩
      s.state step.session.state (notices step.events) := by
  cases payload with
  | sessionStart info =>
      simp only [handle, start, hActive]
      exact follows_same d rfl rfl rfl
  | sessionActivate profile =>
      simp only [handle, activate, hActive]
      exact follows_same d rfl rfl rfl
  | sessionShutdown => exact absurd rfl hOther
  | acknowledge =>
      cases hNamed : header.responseId with
      | none =>
          simp only [handle, hNamed]
          exact follows_same d rfl rfl rfl
      | some id =>
          simp only [handle, hNamed, notices_settled]
          exact follows_same d rfl rfl rfl
  | error report => exact follows_same d rfl rfl rfl
  | getCameraList =>
      simp only [handle, whenActive_of_active _ _ hActive]
      exact follows_same d rfl rfl rfl
  | setActiveCamera id =>
      simp only [handle, whenActive_of_active _ _ hActive]
      cases hFound : d.find? s.host id with
      | none => exact follows_same d rfl rfl hFound
      | some camera => exact follows_pickCamera d header s _ hFound
  | motionSetMode mode =>
      simp only [handle, whenActive_of_active _ _ hActive]
      by_cases hSame : s.state.mode = mode
      · exact follows_changeMode_same d header s _ hSame
      · exact follows_changeMode_other d header s _ hSame
  | motionGetMode =>
      simp only [handle, whenActive_of_active _ _ hActive]
      exact follows_same d rfl rfl rfl
  | motionUpdate transform =>
      simp only [handle, whenActive_of_active _ _ hActive]
      cases hCapturing : s.state.mode.capturing with
      | false =>
          exact follows_takeTransform_dropped d header s hCapturing
      | true =>
          exact follows_takeTransform_stored d header s hCapturing
  | cameraList cameras => exact follows_same d rfl rfl rfl
  | activeCameraInfo camera => exact follows_same d rfl rfl rfl
  | motionActiveMode mode => exact follows_same d rfl rfl rfl
  | motionInfo mode transform =>
      exact follows_same d rfl rfl rfl

/-
  A message that leaves an activated session activated does
  what its entry has it do.
-/
theorem follows_process
    (e : Envelope)
    (hActive : s.state.status = .activated)
    (hLasts :
      (s.process d fresh e).session.state.status = .activated) :
    Follows d ⟨s.host, e⟩ s.state
      (s.process d fresh e).session.state
      (notices (s.process d fresh e).events) := by
  cases hPayload : e.payload with
  | none =>
      rcases process_missing_state d fresh s hPayload with
        ⟨hState, hEvents⟩
      rw [hState, hEvents]
      apply follows_same
      · simp only [Entry.requested?, hPayload]
      · simp only [Entry.reported?, hPayload]
      · simp only [Entry.found?, hPayload]
  | some payload =>
      have hOther : payload ≠ .sessionShutdown := by
        intro hShutdown
        rw [hShutdown] at hPayload
        rw [process_shutdown_state d fresh hPayload
          (begun_of_activated hActive)] at hLasts
        cases hLasts
      rcases process_state_cases d fresh s hPayload with
        ⟨hState, hEvents⟩ | hInitial
      · rw [hState, hEvents,
          show e = ⟨e.header, some payload⟩ by rw [← hPayload]]
        exact follows_handle d fresh e.header
          { s with received := s.received + 1 } hActive hOther
      · rw [hInitial] at hLasts
        cases hLasts

end Following

------------------------------------------------------------
-- Sessions that are not activated
------------------------------------------------------------

/- No camera was picked, no mode set and no transform taken. -/
structure Bare (state : SessionState) : Prop where
  mode : state.mode = .off
  transform : state.transform = .zero
  camera : state.camera = none

/- So it is in the beginning. -/
theorem bare_initial : Bare .initial :=
  ⟨rfl, rfl, rfl⟩

/- What a handler can make of a session that is not activated. -/
theorem state_of_handle_inactive
    (d : Delegate σ)
    (fresh : String)
    (header : Header)
    (payload : Payload)
    {s : Session σ κ}
    (hInactive : s.state.status ≠ .activated) :
    let state := (s.handle d fresh header payload).session.state
    state = s.state ∨
      state = .initial ∨
      state = { s.state with status := .starting } ∨
      ∃ profile,
        payload = .sessionActivate profile ∧
          state =
            { s.state with
              status := .activated
              profile := some profile } := by
  intro state
  cases payload with
  | sessionStart info =>
      simp only [state, handle, start]
      cases s.state.status with
      | offline => exact .inr (.inr (.inl rfl))
      | starting => exact .inl rfl
      | activated => exact .inl rfl
  | sessionActivate profile =>
      simp only [state, handle, activate]
      cases s.state.status with
      | offline => exact .inl rfl
      | activated => exact .inl rfl
      | starting =>
          by_cases hSpoken :
              profile.apiVersion = "" ∨
                s.info.speaksWith profile.apiVersion = true
          · simp only [hSpoken, if_true, announce_state]
            exact .inr (.inr (.inr ⟨profile, rfl, rfl⟩))
          · simp only [hSpoken, if_false]
            exact .inl rfl
  | sessionShutdown =>
      simp only [state, handle, shutdown]
      cases s.state.status with
      | offline => exact .inl rfl
      | starting => exact .inr (.inl rfl)
      | activated => exact .inr (.inl rfl)
  | acknowledge =>
      left
      cases hNamed : header.responseId with
      | none => simp only [state, handle, hNamed, Step.quiet]
      | some id => simp only [state, handle, hNamed]
  | getCameraList =>
      left
      simp only [state, handle,
        whenActive_of_inactive _ _ hInactive, Step.quiet]
  | setActiveCamera id =>
      left
      simp only [state, handle,
        whenActive_of_inactive _ _ hInactive, Step.quiet]
  | motionSetMode mode =>
      left
      simp only [state, handle,
        whenActive_of_inactive _ _ hInactive, Step.quiet]
  | motionGetMode =>
      left
      simp only [state, handle,
        whenActive_of_inactive _ _ hInactive, Step.quiet]
  | motionUpdate transform =>
      left
      simp only [state, handle,
        whenActive_of_inactive _ _ hInactive, Step.quiet]
  | _ => exact .inl rfl

/-
  A session that is not activated stays bare, and becomes
  activated only by an activation.
-/
theorem bare_process
    (d : Delegate σ)
    (fresh : String)
    (e : Envelope)
    {s : Session σ κ}
    (hInactive : s.state.status ≠ .activated)
    (hBare : Bare s.state) :
    let after := (s.process d fresh e).session.state
    Bare after ∧
      (after.status = .activated →
        ∃ profile, e.payload = some (.sessionActivate profile)) := by
  intro after
  cases hPayload : e.payload with
  | none =>
      rw [show after = _ from
        (process_missing_state d fresh s hPayload).1]
      exact ⟨hBare, fun hActive => absurd hActive hInactive⟩
  | some payload =>
      rcases process_state_cases d fresh s hPayload with
        ⟨hState, _⟩ | hInitial
      · rw [show after = _ from hState]
        rcases state_of_handle_inactive d fresh e.header payload
            (s := { s with received := s.received + 1 })
            hInactive with
          hSame | hEnded | hStarted | ⟨profile, hActivation, hState⟩
        · rw [hSame]
          exact ⟨hBare, fun hActive => absurd hActive hInactive⟩
        · rw [hEnded]
          refine ⟨bare_initial, fun hActive => ?_⟩
          cases hActive
        · rw [hStarted]
          refine ⟨⟨hBare.mode, hBare.transform, hBare.camera⟩,
            fun hActive => ?_⟩
          cases hActive
        · rw [hState, hActivation]
          exact ⟨⟨hBare.mode, hBare.transform, hBare.camera⟩,
            fun _ => ⟨profile, rfl⟩⟩
      · rw [show after = _ from hInitial]
        refine ⟨bare_initial, fun hActive => ?_⟩
        cases hActive

/- An activated session stays so or is bare again. -/
theorem activated_or_bare_of_process
    (d : Delegate σ)
    (fresh : String)
    (e : Envelope)
    {s : Session σ κ}
    (hActive : s.state.status = .activated) :
    let after := (s.process d fresh e).session.state
    after.status = .activated ∨ Bare after := by
  intro after
  cases hPayload : e.payload with
  | none =>
      rw [show after = _ from
        (process_missing_state d fresh s hPayload).1]
      exact .inl hActive
  | some payload =>
      by_cases hShutdown : payload = .sessionShutdown
      · rw [hShutdown] at hPayload
        rw [show after = _ from
          process_shutdown_state d fresh hPayload
            (begun_of_activated hActive)]
        exact .inr bare_initial
      · rcases process_state_cases d fresh s hPayload with
          ⟨hState, _⟩ | hInitial
        · rw [show after = _ from hState]
          exact .inl ((follows_handle d fresh e.header
            { s with received := s.received + 1 } hActive
            hShutdown).status.trans hActive)
        · rw [show after = _ from hInitial]
          exact .inr bare_initial

end Session

end CaptureLink
