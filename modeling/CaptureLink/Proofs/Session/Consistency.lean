import CaptureLink.Proofs.Session.Answer
import CaptureLink.Proofs.Session.Operation

/-
  What a session remembers of its client.  Before a session is
  activated, and when it has ended, it remembers nothing.
  While it is activated it knows the client's introduction,
  and speaks the client's version.  Every operation takes the
  state at most one step further in the life of a session.

  Main statements:
    * `Status.Moves`
    * `SessionState.Advances`
    * `SessionState.Consistent`
    * `Session.advances_handle`
    * `Session.advances_process`
    * `Session.advances_perform`
    * `Session.consistent_performAll`
    * `Session.state_invariant`
-/

namespace CaptureLink

------------------------------------------------------------
-- Steps in the life of a session
------------------------------------------------------------

/- How the status may change at once. -/
inductive Status.Moves : Status → Status → Prop where
| stay (status : Status) : Moves status status
| start : Moves .offline .starting
| activate : Moves .starting .activated
| abandon : Moves .starting .offline
| finish : Moves .activated .offline

namespace SessionState

/- What may become of the state at once. -/
inductive Advances
    (info : ServerInfo) :
    SessionState → SessionState → Prop where
/- Nothing changes. -/
| rest (state : SessionState) : Advances info state state
/- The server introduces itself. -/
| start
    {state : SessionState}
    (hOffline : state.status = .offline) :
    Advances info state { state with status := .starting }
/- A client whose version is spoken accepts. -/
| activate
    {state : SessionState}
    {profile : ClientProfile}
    (hStarting : state.status = .starting)
    (hSpoken :
      profile.apiVersion = "" ∨
        info.speaksWith profile.apiVersion = true) :
    Advances info state
      { state with
        status := .activated
        profile := some profile }
/- The client uses the session. -/
| use
    {state : SessionState}
    (camera : Option Camera)
    (mode : MotionMode)
    (transform : Transform)
    (hActive : state.status = .activated) :
    Advances info state
      { state with
        camera := camera
        mode := mode
        transform := transform }
/- The session ends. -/
| finish
    {state : SessionState}
    (hBegun : state.status ≠ .offline) :
    Advances info state .initial

/-
  Only an activated session remembers anything, and it knows a
  client whose version it speaks.
-/
structure Consistent
    (info : ServerInfo)
    (state : SessionState) : Prop where
  blank :
    state.status = .offline ∨ state.status = .starting →
      state.camera = none ∧
        state.mode = .off ∧
        state.transform = .zero ∧
        state.profile = none
  introduced :
    state.status = .activated →
      ∃ profile,
        state.profile = some profile ∧
          (profile.apiVersion = "" ∨
            majorVersion profile.apiVersion =
              majorVersion info.apiVersion)

/- So it is in the beginning. -/
theorem consistent_initial (info : ServerInfo) :
    Consistent info .initial where
  blank := fun _ => ⟨rfl, rfl, rfl, rfl⟩
  introduced := nofun

section Advancing

variable {info : ServerInfo}
variable {state state' : SessionState}

/- The status moves as it may. -/
theorem Advances.moves
    (hAdvances : Advances info state state') :
    Status.Moves state.status state'.status := by
  cases hAdvances with
  | rest => exact .stay _
  | start hOffline =>
      rw [hOffline]
      exact .start
  | activate hStarting _ =>
      rw [hStarting]
      exact .activate
  | use => exact .stay _
  | finish hBegun =>
      cases hStatus : state.status with
      | offline => exact absurd hStatus hBegun
      | starting => exact .abandon
      | activated => exact .finish

/- What is consistent stays so. -/
theorem Advances.consistent
    (hAdvances : Advances info state state')
    (hConsistent : Consistent info state) :
    Consistent info state' := by
  cases hAdvances with
  | rest => exact hConsistent
  | start hOffline =>
      exact ⟨fun _ => hConsistent.blank (.inl hOffline), nofun⟩
  | @activate profile hStarting hSpoken =>
      refine ⟨fun hInactive => ?_, fun _ => ⟨profile, rfl, ?_⟩⟩
      · rcases hInactive with hEq | hEq
        · cases hEq
        · cases hEq
      · rcases hSpoken with hNone | hSpoken
        · exact .inl hNone
        · exact .inr (of_decide_eq_true hSpoken).symm
  | use camera mode transform hActive =>
      refine ⟨fun hInactive => ?_, hConsistent.introduced⟩
      simp only [hActive, reduceCtorEq, or_self] at hInactive
  | finish => exact consistent_initial info

end Advancing

end SessionState

------------------------------------------------------------
-- Handlers
------------------------------------------------------------

namespace Session

open SessionState

variable {σ κ α : Type}

section Handlers

variable (d : Delegate σ)
variable (s : Session σ κ)

/- To tell the application something advances nothing. -/
theorem advances_announce
    {state : SessionState}
    (n : Notice)
    (result : α)
    (hAdvances : Advances s.info s.state state) :
    Advances s.info s.state
      ({ s with state := state }.announce d n
        result).session.state := by
  rw [announce_state]
  exact hAdvances

/- Where only an activated session acts, that may be known. -/
theorem advances_whenActive
    {kind : Kind}
    {act : Step σ κ (Except Refusal α)}
    (hAct :
      s.state.status = .activated →
        Advances s.info s.state act.session.state) :
    Advances s.info s.state
      (s.whenActive kind act).session.state := by
  by_cases hActive : s.state.status = .activated
  · rw [whenActive_of_active kind act hActive]
    exact hAct hActive
  · rw [whenActive_of_inactive kind act hActive]
    exact .rest _

/- A session starts once. -/
theorem advances_start (fresh : String) :
    Advances s.info s.state (s.start fresh).session.state := by
  unfold start
  cases hStatus : s.state.status with
  | offline => exact .start hStatus
  | _ => exact .rest _

/- It is activated once, by a client that it can talk to. -/
theorem advances_activate (profile : ClientProfile) :
    Advances s.info s.state
      (s.activate d profile).session.state := by
  unfold activate
  cases hStatus : s.state.status with
  | starting =>
      by_cases hSpoken :
          profile.apiVersion = "" ∨
            s.info.speaksWith profile.apiVersion
      · simp only [hSpoken, if_true]
        apply advances_announce
        exact .activate hStatus hSpoken
      · simp only [hSpoken, if_false]
        exact .rest _
  | _ => exact .rest _

/- It ends if it has begun. -/
theorem advances_shutdown :
    Advances s.info s.state (s.shutdown d).session.state := by
  by_cases hOffline : s.state.status = .offline
  · simp only [shutdown, hOffline]
    exact .rest _
  · rw [shutdown_of_begun d hOffline]
    exact .finish hOffline

/- A transform is stored, or dropped. -/
theorem advances_takeTransform
    (transform : Transform)
    (hActive : s.state.status = .activated) :
    Advances s.info s.state
      (s.takeTransform d transform).session.state := by
  unfold takeTransform
  cases s.state.mode.capturing with
  | false => exact .rest _
  | true =>
      simp only [if_true, announce_state]
      exact .use s.state.camera s.state.mode transform hActive

/- Every handler advances the state once, if it does. -/
theorem advances_handle
    (fresh : String)
    (header : Header)
    (payload : Payload) :
    Advances s.info s.state
      (s.handle d fresh header payload).session.state := by
  cases payload with
  | sessionStart info => exact advances_start s fresh
  | sessionActivate profile => exact advances_activate d s profile
  | sessionShutdown => exact advances_shutdown d s
  | acknowledge =>
      unfold handle
      cases header.responseId with
      | none => exact .rest _
      | some id => exact .rest _
  | getCameraList => exact advances_whenActive s fun _ => .rest _
  | motionGetMode => exact advances_whenActive s fun _ => .rest _
  | setActiveCamera id =>
      apply advances_whenActive
      intro hActive
      cases d.find? s.host id with
      | none => exact .rest _
      | some camera =>
          apply advances_announce
          exact .use (some camera) s.state.mode
            s.state.transform hActive
  | motionSetMode requested =>
      apply advances_whenActive
      intro hActive
      unfold changeMode
      cases s.state.mode.transition requested with
      | none => exact .rest _
      | some mode =>
          apply advances_announce
          exact .use s.state.camera mode s.state.transform
            hActive
  | motionUpdate transform =>
      apply advances_whenActive
      exact advances_takeTransform d s transform
  | _ => exact .rest _

------------------------------------------------------------
-- Operations
------------------------------------------------------------

/-
  So does every message: a refusal that ends the session has
  left it as it was, or has only been on its way.
-/
theorem advances_process
    (fresh : String)
    (e : Envelope) :
    Advances s.info s.state
      (s.process d fresh e).session.state := by
  cases hPayload : e.payload with
  | none =>
      rw [(process_missing_state d fresh s hPayload).1]
      exact .rest _
  | some payload =>
      have hHandled :=
        advances_handle d { s with received := s.received + 1 }
          fresh e.header payload
      cases hResult :
          (handle d fresh e.header payload
            { s with received := s.received + 1 }).result with
      | ok answer =>
          unfold process
          simp only [hPayload]
          rw [hResult]
          cases answer with
          | none => exact hHandled
          | some reply => exact hHandled
      | error refusal =>
          rcases (process_of_refused d fresh hPayload hResult).2
            with ⟨_, hSession, _⟩ | ⟨_, hEnded⟩
          · rw [hSession]
            exact .rest _
          · rw [hEnded.state_eq]
            apply Advances.finish
            rcases hEnded.begun with hStatus | hStatus
            · rw [hStatus]
              exact nofun
            · rw [hStatus]
              exact nofun

/- So does every operation. -/
theorem advances_perform (op : Operation κ) :
    Advances s.info s.state
      (s.perform d op).session.state := by
  cases op with
  | process fresh e => exact advances_process d s fresh e
  | start fresh => exact advances_start s fresh
  | activate profile => exact advances_activate d s profile
  | shutdown => exact advances_shutdown d s
  | _ => exact .rest _

/- The server introduces itself as before. -/
theorem info_perform (op : Operation κ) :
    (s.perform d op).session.info = s.info := by
  cases op with
  | process fresh e => exact (steady_process d fresh e s).info_eq
  | start fresh => exact (steady_start fresh s).info_eq
  | activate profile =>
      exact (steady_activate d profile s).info_eq
  | shutdown => exact (steady_shutdown d s).info_eq
  | _ => rfl

end Handlers

/- What is consistent stays so, whatever is done. -/
theorem consistent_performAll
    (d : Delegate σ)
    {s : Session σ κ}
    (hConsistent : Consistent s.info s.state)
    (ops : List (Operation κ)) :
    Consistent s.info (s.performAll d ops).session.state := by
  induction ops generalizing s with
  | nil => exact hConsistent
  | cons op ops ih =>
      have hNext :
          Consistent (s.perform d op).session.info
            (s.perform d op).session.state := by
        rw [info_perform]
        exact (advances_perform d s op).consistent hConsistent
      have hRest := ih hNext
      rw [info_perform] at hRest
      exact hRest

/-
  Whatever is done with a new session, it remembers nothing
  unless it is activated, and knows a client whose version it
  speaks if it is.  Whatever is done next moves its status
  once at most: it starts, is activated, or ends.
-/
theorem state_invariant
    (d : Delegate σ)
    (info : ServerInfo)
    (ackTimeout : Option Nat)
    (host : σ)
    (ops : List (Operation κ)) :
    let s : Session σ κ := new info ackTimeout host
    let now := (s.performAll d ops).session
    Consistent info now.state ∧
      ∀ op : Operation κ,
        Status.Moves now.state.status
          (now.perform d op).session.state.status := by
  intro s now
  have hBegin : Consistent s.info s.state :=
    consistent_initial info
  exact ⟨consistent_performAll d hBegin ops,
    fun op => (advances_perform d now op).moves⟩

/- A client of another minor version accepts. -/
def minorVersion : List (Operation Nat) :=
  [.start "s1", .activate ⟨"rig", "1.4", .empty⟩]

/-
  It is known then, its version is spoken, and the session may
  end.
-/
theorem state_invariant_minor_version :
    (performAll .idle (new .standard none ())
        minorVersion).session.state.status = .activated ∧
      (∃ known,
        (performAll .idle (new .standard none ())
            minorVersion).session.state.profile = some known ∧
          (known.apiVersion = "" ∨
            majorVersion known.apiVersion = majorVersion "1.0")) ∧
      Status.Moves
        (performAll .idle (new .standard none ())
          minorVersion).session.state.status
        ((performAll .idle (new .standard none ())
          minorVersion).session.perform .idle
            .shutdown).session.state.status := by
  have hActive :
      (performAll .idle (new .standard none ())
          minorVersion).session.state.status = .activated := by
    decide +kernel
  rcases state_invariant .idle .standard none () minorVersion with
    ⟨hConsistent, hMoves⟩
  exact ⟨hActive, hConsistent.introduced hActive,
    hMoves .shutdown⟩

end Session

end CaptureLink
