import CaptureLink.Proofs.Session.Atomicity

/-
  The parts that handlers are made of, case by case: telling
  the application something, and what only an activated
  session does.  And what becomes of a session when it deals
  with a message: what the handler made of it, unless the
  session ends.

  Main statements:
    * `Session.announce_of_heard`
    * `Session.announce_of_failed`
    * `Session.whenActive_of_active`
    * `Session.whenActive_of_inactive`
    * `Session.process_state_cases`
-/

namespace CaptureLink

namespace Session

variable {σ κ α : Type}

------------------------------------------------------------
-- Announcements
------------------------------------------------------------

section Announcing

variable {d : Delegate σ}
variable {n : Notice}
variable {s : Session σ κ}

/- If the application does not fail, the operation goes on. -/
theorem announce_of_heard
    (result : α)
    (hHeard : (d.notify n s.host).2 = none) :
    s.announce d n result =
      ⟨{ s with host := (d.notify n s.host).1 },
        [.notice n], .ok result⟩ := by
  simp only [announce, notify, hHeard]

/- If it fails, the operation is refused. -/
theorem announce_of_failed
    {fault : Fault}
    (result : α)
    (hFailed : (d.notify n s.host).2 = some fault) :
    s.announce d n result =
      ⟨{ s with host := (d.notify n s.host).1 },
        [.notice n], .error (.delegateFailed fault)⟩ := by
  simp only [announce, notify, hFailed]

/- Only the application's own state changes. -/
@[simp] theorem announce_state (result : α) :
    (s.announce d n result).session.state = s.state := by
  cases hFault : (d.notify n s.host).2 with
  | none => rw [announce_of_heard result hFault]
  | some fault => rw [announce_of_failed result hFault]

/- The application is told, whether it fails or not. -/
@[simp] theorem announce_events (result : α) :
    (s.announce d n result).events = [.notice n] := by
  cases hFault : (d.notify n s.host).2 with
  | none => rw [announce_of_heard result hFault]
  | some fault => rw [announce_of_failed result hFault]

/- The answer is the intended one exactly if it does not fail. -/
theorem announce_result_eq_ok_iff
    (result other : α) :
    (s.announce d n result).result = .ok other ↔
      result = other ∧ (d.notify n s.host).2 = none := by
  cases hFault : (d.notify n s.host).2 with
  | none => simp [announce_of_heard result hFault]
  | some fault => simp [announce_of_failed result hFault]

end Announcing

------------------------------------------------------------
-- Activated sessions
------------------------------------------------------------

section Active

variable {s : Session σ κ}

/- A session is active exactly if its status says so. -/
theorem active_iff :
    s.active = true ↔ s.state.status = .activated := by
  simp only [active, decide_eq_true_eq]

/- In an activated session the operation is carried out. -/
theorem whenActive_of_active
    (kind : Kind)
    (act : Step σ κ (Except Refusal α))
    (hActive : s.state.status = .activated) :
    s.whenActive kind act = act := by
  simp only [whenActive, active_iff.mpr hActive, if_true]

/- In any other it is refused. -/
theorem whenActive_of_inactive
    (kind : Kind)
    (act : Step σ κ (Except Refusal α))
    (hInactive : s.state.status ≠ .activated) :
    s.whenActive kind act =
      .quiet s (.error (.notActive kind s.state.status)) := by
  have hActive : ¬ s.active = true :=
    fun hActive => hInactive (active_iff.mp hActive)
  simp only [whenActive, hActive, Bool.false_eq_true, if_false]

end Active

------------------------------------------------------------
-- Messages
------------------------------------------------------------

/-
  After a message the session is in the state in which the
  handler left it, with the handler's events, or in the state
  of a session that has ended.
-/
theorem process_state_cases
    (d : Delegate σ)
    (fresh : String)
    {e : Envelope}
    {payload : Payload}
    (s : Session σ κ)
    (hPayload : e.payload = some payload) :
    let handled :=
      handle d fresh e.header payload
        { s with received := s.received + 1 }
    let step := s.process d fresh e
    (step.session.state = handled.session.state ∧
        step.events = handled.events) ∨
      step.session.state = .initial := by
  intro handled step
  cases hHandled :
      (handle d fresh e.header payload
        { s with received := s.received + 1 }).result with
  | ok answer =>
      left
      refine ⟨?_, (process_events_of_ok d fresh hPayload
        hHandled).2⟩
      cases answer with
      | none => simp only [handled, step, process, hPayload, hHandled]
      | some reply =>
          simp only [handled, step, process, hPayload, hHandled,
            countSent]
  | error refusal =>
      have hOther : payload ≠ .sessionShutdown := by
        intro hShutdown
        subst hShutdown
        cases hHandled
      rcases (process_of_refused d fresh hPayload hHandled).2 with
        ⟨hHarmless, hSession, hEvents⟩ | ⟨_, hEnded⟩
      · left
        rcases (guarded_handle d fresh e.header
            { s with received := s.received + 1 }
            hOther).untouched refusal hHandled hHarmless with
          ⟨hSame, hNone⟩
        rw [show step.session = _ from hSession,
          show step.events = _ from hEvents,
          show handled.session = _ from hSame,
          show handled.events = _ from hNone]
        exact ⟨rfl, rfl⟩
      · exact .inr hEnded.state_eq

/- A message without a payload leaves the state as it is. -/
theorem process_missing_state
    (d : Delegate σ)
    (fresh : String)
    {e : Envelope}
    (s : Session σ κ)
    (hMissing : e.payload = none) :
    (s.process d fresh e).session.state = s.state ∧
      (s.process d fresh e).events = [] := by
  rcases (process_of_missing d fresh s hMissing).1 with
    ⟨hSession, hEvents⟩
  rw [hSession]
  exact ⟨rfl, hEvents⟩

/- The request to end a session ends it. -/
theorem process_shutdown_state
    (d : Delegate σ)
    (fresh : String)
    {e : Envelope}
    {s : Session σ κ}
    (hShutdown : e.payload = some .sessionShutdown)
    (hBegun : s.state.status ≠ .offline) :
    (s.process d fresh e).session.state = .initial := by
  have hStep :=
    shutdown_of_begun d
      (s := { s with received := s.received + 1 }) hBegun
  simp only [process, hShutdown, handle, hStep]

end Session

end CaptureLink
