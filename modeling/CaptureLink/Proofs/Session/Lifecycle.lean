import CaptureLink.Proofs.Session.Operation
import CaptureLink.Proofs.Session.Trace

/-
  The marks of every operation.  They are what the operation
  tells the application, and lead from the status before it
  to the status behind it.  A handler whose notice fails is
  refused with a fatal fault, and the next that the
  application is told is that the session ends.

  Main statements:
    * `Session.marks`
    * `Session.Marked`
    * `Session.handled_handle`
    * `Session.told_of_failing`
    * `Session.marked_performAll`
-/

namespace CaptureLink

namespace Session

variable {σ κ α β γ : Type}

------------------------------------------------------------
-- Marks of operations
------------------------------------------------------------

/- A start is one if it succeeds. -/
def startMarks
    (fresh : String)
    (s : Session σ κ) : List (Mark σ κ) :=
  match (s.start fresh).result with
  | .ok _ => [.started]
  | .error _ => []

/- An activation is told by the activated session. -/
def activateMarks
    (profile : ClientProfile)
    (s : Session σ κ) : List (Mark σ κ) :=
  match s.state.status with
  | .starting =>
      if profile.apiVersion = "" ∨
          s.info.speaksWith profile.apiVersion then
        let state :=
          { s.state with
            status := .activated
            profile := some profile }
        [.told { s with state := state } (.activated profile)]
      else []
  | _ => []

/- The end is told by the session that is about to end. -/
def shutdownMarks (s : Session σ κ) : List (Mark σ κ) :=
  match s.state.status with
  | .offline => []
  | _ => [.told s .shutdown]

/- Only an activated session tells the application something. -/
def activeMarks
    (s : Session σ κ)
    (marks : List (Mark σ κ)) : List (Mark σ κ) :=
  if s.active then marks else []

/- What a payload has to do with the life of a session. -/
def handleMarks
    (d : Delegate σ)
    (fresh : String)
    (payload : Payload)
    (s : Session σ κ) : List (Mark σ κ) :=
  match payload with
  | .sessionStart _ => s.startMarks fresh
  | .sessionActivate profile => s.activateMarks profile
  | .sessionShutdown => s.shutdownMarks
  | .setActiveCamera id =>
      s.activeMarks
        (match d.find? s.host id with
        | none => []
        | some camera =>
            let state := { s.state with camera := some camera }
            [.told { s with state := state } (.camera camera)])
  | .motionSetMode requested =>
      s.activeMarks
        (match s.state.mode.transition requested with
        | none => []
        | some mode =>
            let state := { s.state with mode := mode }
            [.told { s with state := state } (.mode mode)])
  | .motionUpdate transform =>
      s.activeMarks
        (if s.state.mode.capturing then
          let state := { s.state with transform := transform }
          [.told { s with state := state, updates := s.updates + 1 }
            (.motion transform)]
        else [])
  | _ => []

/- A fatal refusal ends the session. -/
def refuseMarks
    (refusal : Refusal)
    (s : Session σ κ) : List (Mark σ κ) :=
  if refusal.toFault.fatal then s.shutdownMarks else []

/- What a message has to do with it. -/
def processMarks
    (d : Delegate σ)
    (fresh : String)
    (e : Envelope)
    (s : Session σ κ) : List (Mark σ κ) :=
  let s := { s with received := s.received + 1 }
  match e.payload with
  | none => s.refuseMarks .missingPayload
  | some payload =>
      let step := s.handle d fresh e.header payload
      s.handleMarks d fresh payload ++
        match step.result with
        | .ok _ => []
        | .error refusal => step.session.refuseMarks refusal

/- What an operation has to do with it. -/
def marks
    (d : Delegate σ)
    (s : Session σ κ) : Operation κ → List (Mark σ κ)
| .process fresh e => s.processMarks d fresh e
| .start fresh => s.startMarks fresh
| .activate profile => s.activateMarks profile
| .shutdown => s.shutdownMarks
| .sendWithAck _ _ _ _ => []
| .motionInfo _ => []
| .pollTimeouts _ => []

/- What some operations have to do with it. -/
def marksAll
    (d : Delegate σ) :
    Session σ κ → List (Operation κ) → List (Mark σ κ)
| _, [] => []
| s, op :: ops =>
    s.marks d op ++ (s.perform d op).session.marksAll d ops

------------------------------------------------------------
-- Marked steps
------------------------------------------------------------

/-
  An operation tells the application what its marks say, and
  they lead from the session before it to the one behind it.
-/
structure Marked
    (d : Delegate σ)
    (s : Session σ κ)
    (step : Step σ κ α)
    (marks : List (Mark σ κ)) : Prop where
  notices_eq : notices step.events = heard marks
  leads :
    Leads d s.state.status s.host marks
      step.session.state.status step.session.host

/-
  Besides, a notice of a handler that fails is its only one,
  and the handler is refused, in a session that can be ended.
-/
structure Handled
    (d : Delegate σ)
    (s : Session σ κ)
    (step : Step σ κ (Except Refusal α))
    (marks : List (Mark σ κ)) : Prop
    extends Marked d s step marks where
  failing :
    ∀ s' n fault,
      .told s' n ∈ marks →
      n ≠ .shutdown →
      (d.notify n s'.host).2 = some fault →
        marks = [.told s' n] ∧
          step.session = (s'.notify d n).session ∧
          step.result = .error (.delegateFailed fault) ∧
          s'.state.status ≠ .offline

/- What is not told is not marked. -/
theorem marked_quiet
    (d : Delegate σ)
    {s s' : Session σ κ}
    (result : α)
    (hStatus : s'.state.status = s.state.status)
    (hHost : s'.host = s.host) :
    Marked d s (.quiet s' result) [] where
  notices_eq := rfl
  leads := by
    simp only [Step.quiet, hStatus, hHost]
    exact .rest

/- This is so in handlers as well. -/
theorem handled_quiet
    (d : Delegate σ)
    {s s' : Session σ κ}
    (result : Except Refusal α)
    (hStatus : s'.state.status = s.state.status)
    (hHost : s'.host = s.host) :
    Handled d s (.quiet s' result) [] where
  toMarked := marked_quiet d result hStatus hHost
  failing := by
    intro _ _ _ hTold
    cases hTold

/- What is announced is marked. -/
theorem handled_announce
    {d : Delegate σ}
    {s s' : Session σ κ}
    {n : Notice}
    (result : α)
    (hHost : s'.host = s.host)
    (hBegun : s'.state.status ≠ .offline)
    (hLeads :
      Leads d s.state.status s'.host [.told s' n]
        s'.state.status (d.notify n s'.host).1) :
    Handled d s (s'.announce d n result) [.told s' n] where
  notices_eq := by
    rw [announce_events]
    rfl
  leads := by
    rw [← hHost]
    cases hFault : (d.notify n s'.host).2 with
    | none =>
        rw [announce_of_heard result hFault]
        exact hLeads
    | some fault =>
        rw [announce_of_failed result hFault]
        exact hLeads
  failing := by
    intro s'' n' fault hTold _ hFailed
    rw [List.mem_singleton] at hTold
    cases hTold
    rw [announce_of_failed result hFailed]
    exact ⟨rfl, rfl, rfl, hBegun⟩

/- What an activated session does is marked in it only. -/
theorem handled_whenActive
    {d : Delegate σ}
    {kind : Kind}
    {s : Session σ κ}
    {act : Step σ κ (Except Refusal α)}
    {marks : List (Mark σ κ)}
    (hAct :
      s.state.status = .activated → Handled d s act marks) :
    Handled d s (s.whenActive kind act) (s.activeMarks marks) := by
  by_cases hActive : s.state.status = .activated
  · rw [whenActive_of_active kind act hActive, activeMarks,
      if_pos (active_iff.mpr hActive)]
    exact hAct hActive
  · rw [whenActive_of_inactive kind act hActive, activeMarks,
      if_neg fun hYes => hActive (active_iff.mp hYes)]
    exact handled_quiet d _ rfl rfl

/- An activated session may be asked something. -/
theorem handled_asked
    (d : Delegate σ)
    (s : Session σ κ)
    (kind : Kind)
    (result : Except Refusal α) :
    Handled d s (s.whenActive kind (.quiet s result)) [] := by
  have hNone : s.activeMarks [] = ([] : List (Mark σ κ)) :=
    ite_self _
  rw [← hNone]
  exact handled_whenActive fun _ => handled_quiet d _ rfl rfl

/- What is made of the answer does not matter. -/
theorem Handled.map
    {d : Delegate σ}
    {s : Session σ κ}
    {step : Step σ κ (Except Refusal α)}
    {marks : List (Mark σ κ)}
    (hHandled : Handled d s step marks)
    (f : α → β) :
    Handled d s ⟨step.session, step.events, step.result.map f⟩
      marks where
  notices_eq := hHandled.notices_eq
  leads := hHandled.leads
  failing := by
    intro s' n fault hTold hOther hFailed
    rcases hHandled.failing s' n fault hTold hOther hFailed with
      ⟨hMarks, hSession, hResult, hBegun⟩
    exact ⟨hMarks, hSession, by rw [hResult]; rfl, hBegun⟩

/- One operation and another behind it. -/
theorem Marked.append
    {d : Delegate σ}
    {s : Session σ κ}
    {step : Step σ κ α}
    {step' : Step σ κ β}
    {marks marks' : List (Mark σ κ)}
    (result : γ)
    (hMarked : Marked d s step marks)
    (hMarked' : Marked d step.session step' marks') :
    Marked d s
      ⟨step'.session, step.events ++ step'.events, result⟩
      (marks ++ marks') where
  notices_eq := by
    rw [notices, List.filterMap_append, heard_append,
      ← hMarked.notices_eq, ← hMarked'.notices_eq]
    rfl
  leads := hMarked.leads.append hMarked'.leads

------------------------------------------------------------
-- Handlers
------------------------------------------------------------

section Handlers

variable (d : Delegate σ)
variable (s : Session σ κ)

/- A start that succeeds is marked. -/
theorem handled_start (fresh : String) :
    Handled d s (s.start fresh) (s.startMarks fresh) := by
  unfold startMarks start
  cases hStatus : s.state.status with
  | offline =>
      refine ⟨⟨rfl, ?_⟩, ?_⟩
      · rw [hStatus]
        exact .start .rest
      · intro s' n _ hTold
        rw [Step.quiet, List.mem_singleton] at hTold
        cases hTold
  | starting => exact handled_quiet d _ rfl rfl
  | activated => exact handled_quiet d _ rfl rfl

/- An activation is told when it has happened. -/
theorem handled_activate (profile : ClientProfile) :
    Handled d s (s.activate d profile)
      (s.activateMarks profile) := by
  unfold activateMarks activate
  cases hStatus : s.state.status with
  | offline => exact handled_quiet d _ rfl rfl
  | activated => exact handled_quiet d _ rfl rfl
  | starting =>
      by_cases hSpoken :
          profile.apiVersion = "" ∨
            s.info.speaksWith profile.apiVersion
      · simp only [hSpoken, if_true]
        refine handled_announce () rfl ?_ ?_
        · intro hEq
          cases hEq
        · rw [hStatus]
          exact .activate rfl .rest
      · simp only [hSpoken, if_false]
        exact handled_quiet d _ rfl rfl

/- A session that has begun tells that it ends. -/
theorem marked_shutdown :
    Marked d s (s.shutdown d) s.shutdownMarks := by
  unfold shutdownMarks
  by_cases hOffline : s.state.status = .offline
  · simp only [shutdown, hOffline]
    exact marked_quiet d () rfl rfl
  · rw [shutdown_of_begun d hOffline]
    cases hStatus : s.state.status with
    | offline => exact absurd hStatus hOffline
    | _ => exact ⟨rfl, .shutdown hOffline .rest⟩

/- There is no session when it has ended. -/
theorem status_shutdown :
    (s.shutdown d).session.state.status = .offline := by
  by_cases hOffline : s.state.status = .offline
  · simp only [shutdown, hOffline, Step.quiet]
  · rw [shutdown_of_begun d hOffline]
    rfl

end Handlers

/- What an activated session announces is a use of it. -/
theorem handled_use
    {d : Delegate σ}
    {s s' : Session σ κ}
    {n : Notice}
    (result : α)
    (hUse : [n.hook] ∈ usage.matches')
    (hHost : s'.host = s.host)
    (hStatus : s'.state.status = s.state.status)
    (hActive : s.state.status = .activated) :
    Handled d s (s'.announce d n result) [.told s' n] := by
  have hActive' := hStatus.trans hActive
  refine handled_announce result hHost
    (begun_of_activated hActive') ?_
  rw [hActive, hActive']
  exact .use hUse hActive' .rest

section Messages

variable (d : Delegate σ)
variable (fresh : String)

/- Every payload but the request to end the session. -/
theorem handled_handle
    (header : Header)
    {payload : Payload}
    (s : Session σ κ)
    (hOther : payload ≠ .sessionShutdown) :
    Handled d s (s.handle d fresh header payload)
      (s.handleMarks d fresh payload) := by
  cases payload with
  | sessionStart info => exact (handled_start d s fresh).map some
  | sessionActivate profile =>
      exact (handled_activate d s profile).map fun _ => none
  | sessionShutdown => exact absurd rfl hOther
  | acknowledge =>
      cases hId : header.responseId with
      | none =>
          simp only [handle, hId]
          exact handled_quiet d _ rfl rfl
      | some id =>
          simp only [handle, hId]
          refine ⟨⟨notices_settled _, .rest⟩, ?_⟩
          intro _ _ _ hTold
          cases hTold
  | setActiveCamera id =>
      apply handled_whenActive
      intro hActive
      cases d.find? s.host id with
      | none => exact handled_quiet d _ rfl rfl
      | some camera =>
          exact handled_use _ ((mem_usage_iff .camera).mpr (by decide))
            rfl rfl hActive
  | motionSetMode requested =>
      apply handled_whenActive
      intro hActive
      unfold changeMode
      cases s.state.mode.transition requested with
      | none => exact handled_quiet d _ rfl rfl
      | some mode =>
          exact handled_use _ ((mem_usage_iff .mode).mpr (by decide))
            rfl rfl hActive
  | motionUpdate transform =>
      apply handled_whenActive
      intro hActive
      unfold takeTransform
      by_cases hCapturing : s.state.mode.capturing = true
      · simp only [hCapturing, if_true]
        exact handled_use _ ((mem_usage_iff .motion).mpr (by decide))
          rfl rfl hActive
      · simp only [hCapturing, Bool.false_eq_true, if_false]
        exact handled_quiet d _ rfl rfl
  | getCameraList => exact handled_asked d s _ _
  | motionGetMode => exact handled_asked d s _ _
  | _ => exact handled_quiet d _ rfl rfl

/- A fatal refusal ends the session, if there is one. -/
theorem marked_refuse
    (header : Header)
    (refusal : Refusal)
    (s : Session σ κ) :
    Marked d s (s.refuse d fresh header refusal)
      (s.refuseMarks refusal) := by
  unfold refuseMarks refuse
  cases hFatal : refusal.toFault.fatal with
  | true =>
      have hMarked := marked_shutdown d s
      simp only [hFatal, if_true]
      exact ⟨hMarked.notices_eq, hMarked.leads⟩
  | false =>
      simp only [hFatal, Bool.false_eq_true, if_false]
      exact ⟨rfl, .rest⟩

/- A message, whatever its handler and its refusal do. -/
theorem marked_process
    (e : Envelope)
    (s : Session σ κ) :
    Marked d s (s.process d fresh e)
      (s.processMarks d fresh e) := by
  unfold processMarks process
  cases hPayload : e.payload with
  | none =>
      have hMarked :=
        marked_refuse d fresh e.header .missingPayload
          { s with received := s.received + 1 }
      exact ⟨hMarked.notices_eq, hMarked.leads⟩
  | some payload =>
      have hHandled :
          Marked d { s with received := s.received + 1 }
            (handle d fresh e.header payload
              { s with received := s.received + 1 })
            (handleMarks d fresh payload
              { s with received := s.received + 1 }) := by
        by_cases hShutdown : payload = .sessionShutdown
        · subst hShutdown
          have hMarked :=
            marked_shutdown d
              { s with received := s.received + 1 }
          exact ⟨hMarked.notices_eq, hMarked.leads⟩
        · exact (handled_handle d fresh e.header _
            hShutdown).toMarked
      cases hResult :
          (handle d fresh e.header payload
            { s with received := s.received + 1 }).result with
      | ok answer =>
          simp only [hResult, List.append_nil]
          cases answer with
          | none => exact ⟨hHandled.notices_eq, hHandled.leads⟩
          | some reply =>
              exact ⟨hHandled.notices_eq, hHandled.leads⟩
      | error refusal =>
          simp only [hResult]
          have hBoth :=
            hHandled.append ()
              (marked_refuse d fresh e.header refusal _)
          exact ⟨hBoth.notices_eq, hBoth.leads⟩

/- An end is all that the end of a session can tell. -/
theorem told_shutdownMarks
    {s s' : Session σ κ}
    {n : Notice}
    (hTold : .told s' n ∈ s.shutdownMarks) :
    n = .shutdown := by
  unfold shutdownMarks at hTold
  cases hStatus : s.state.status with
  | offline =>
      rw [hStatus] at hTold
      cases hTold
  | _ =>
      rw [hStatus, List.mem_singleton] at hTold
      cases hTold
      rfl

/- So it is with a refusal. -/
theorem told_refuseMarks
    {refusal : Refusal}
    {s s' : Session σ κ}
    {n : Notice}
    (hTold : .told s' n ∈ s.refuseMarks refusal) :
    n = .shutdown := by
  unfold refuseMarks at hTold
  cases hFatal : refusal.toFault.fatal with
  | true =>
      rw [hFatal, if_pos rfl] at hTold
      exact told_shutdownMarks hTold
  | false =>
      rw [hFatal, if_neg Bool.false_ne_true] at hTold
      cases hTold

/- A session that has begun tells its end, and nothing else. -/
theorem shutdownMarks_of_begun
    {s : Session σ κ}
    (hBegun : s.state.status ≠ .offline) :
    s.shutdownMarks = [.told s .shutdown] := by
  unfold shutdownMarks
  cases hStatus : s.state.status with
  | offline => exact absurd hStatus hBegun
  | _ => rfl

end Messages

section Failing

variable {d : Delegate σ}
variable {fresh : String}
variable {e : Envelope}
variable {s s' : Session σ κ}
variable {n : Notice}

/-
  When the application fails while a message is dealt with,
  there are two marks only: what it failed at, and the end of
  the session as the failure has left it.
-/
theorem processMarks_of_failing
    {fault : Fault}
    (hTold : .told s' n ∈ s.processMarks d fresh e)
    (hOther : n ≠ .shutdown)
    (hFault : (d.notify n s'.host).2 = some fault) :
    s.processMarks d fresh e =
      [.told s' n, .told (s'.notify d n).session .shutdown] := by
  unfold processMarks at hTold ⊢
  cases hPayload : e.payload with
  | none =>
      simp only [hPayload] at hTold
      exact absurd (told_refuseMarks hTold) hOther
  | some payload =>
      simp only [hPayload] at hTold ⊢
      have hHere :
          .told s' n ∈
            handleMarks d fresh payload
              { s with received := s.received + 1 } := by
        rcases List.mem_append.mp hTold with hHere | hLater
        · exact hHere
        · cases hResult :
              (handle d fresh e.header payload
                { s with received := s.received + 1 }).result with
          | ok answer =>
              rw [hResult] at hLater
              cases hLater
          | error refusal =>
              rw [hResult] at hLater
              exact absurd (told_refuseMarks hLater) hOther
      have hPayload' : payload ≠ .sessionShutdown := by
        rintro rfl
        exact hOther (told_shutdownMarks hHere)
      rcases (handled_handle d fresh e.header _
          hPayload').failing s' n fault hHere hOther hFault with
        ⟨hOnly, hSession, hResult, hBegun⟩
      have hBegun' :
          (s'.notify d n).session.state.status ≠ .offline :=
        hBegun
      rw [hOnly, hResult, hSession]
      simp only [refuseMarks, fatal_delegateFailed, if_true,
        shutdownMarks_of_begun hBegun', List.singleton_append]

/- So the end is told next, and nothing is told after it. -/
theorem told_of_failing
    {earlier later : List (Mark σ κ)}
    (hMarks :
      s.processMarks d fresh e = earlier ++ .told s' n :: later)
    (hOther : n ≠ .shutdown)
    (hFailed : (d.notify n s'.host).2 ≠ none) :
    later = [.told (s'.notify d n).session .shutdown] := by
  have hTold : .told s' n ∈ earlier ++ .told s' n :: later :=
    List.mem_append_right _ List.mem_cons_self
  rcases Option.ne_none_iff_exists'.mp hFailed with
    ⟨fault, hFault⟩
  rw [← hMarks] at hTold
  rw [processMarks_of_failing hTold hOther hFault] at hMarks
  cases earlier with
  | nil => exact (List.cons.inj hMarks).2.symm
  | cons first earlier =>
      -- What comes second is the end of the session.
      rw [List.cons_append] at hMarks
      have hSecond : .told s' n ∈ earlier ++ .told s' n :: later :=
        List.mem_append_right _ List.mem_cons_self
      rw [← (List.cons.inj hMarks).2] at hSecond
      exact absurd (Mark.told.inj (List.mem_singleton.mp hSecond)).2
        hOther

end Failing

------------------------------------------------------------
-- Operations
------------------------------------------------------------

section Operations

variable (d : Delegate σ)

/- An operation, whatever it is. -/
theorem marked_perform
    (s : Session σ κ)
    (op : Operation κ) :
    Marked d s (s.perform d op) (s.marks d op) := by
  cases op with
  | process fresh e =>
      have hMarked := marked_process d fresh e s
      exact ⟨hMarked.notices_eq, hMarked.leads⟩
  | start fresh =>
      have hHandled := handled_start d s fresh
      exact ⟨hHandled.notices_eq, hHandled.leads⟩
  | activate profile =>
      have hHandled := handled_activate d s profile
      exact ⟨hHandled.notices_eq, hHandled.leads⟩
  | shutdown => exact marked_shutdown d s
  | sendWithAck now fresh payload label =>
      exact marked_quiet d () rfl rfl
  | motionInfo fresh => exact marked_quiet d () rfl rfl
  | pollTimeouts now => exact ⟨notices_settled _, .rest⟩

/- Operations, one after the other. -/
theorem marked_performAll
    (s : Session σ κ)
    (ops : List (Operation κ)) :
    Marked d s (s.performAll d ops) (s.marksAll d ops) := by
  induction ops generalizing s with
  | nil => exact marked_quiet d () rfl rfl
  | cons op ops ih => exact (marked_perform d s op).append () (ih _)

/- Some operations and others have the marks of both. -/
theorem marksAll_append
    (s : Session σ κ)
    (ops ops' : List (Operation κ)) :
    s.marksAll d (ops ++ ops') =
      s.marksAll d ops ++
        (s.performAll d ops).session.marksAll d ops' := by
  induction ops generalizing s with
  | nil => rfl
  | cons op ops ih =>
      simp only [List.cons_append, marksAll, performAll, ih,
        List.append_assoc]

end Operations

end Session

end CaptureLink
