import CaptureLink.Proofs.Session.Operation
import CaptureLink.Proofs.Session.Reply

/-
  What is left of a session when the server's own part of the
  handshake fails.  A call that is turned down leaves the
  session as it was.  An activation is written down before
  the application hears of it, and is not taken back if the
  application fails: the call is refused, and the session is
  activated.  Within a message the same failure ends the
  session.

  Main statements:
    * `Session.Admits`
    * `Session.admitted`
    * `Session.start_of_error`
    * `Session.activate_of_turned_down`
    * `Session.process_of_unheard`
    * `Session.refused_handshake`
-/

namespace CaptureLink

namespace Session

variable {σ κ : Type}

------------------------------------------------------------
-- Admission
------------------------------------------------------------

/- The session waits for a client that speaks like this one. -/
def Admits
    (s : Session σ κ)
    (profile : ClientProfile) : Prop :=
  s.state.status = .starting ∧
    (profile.apiVersion = "" ∨
      s.info.speaksWith profile.apiVersion = true)

/- The session in which the client is written down. -/
def admitted
    (s : Session σ κ)
    (profile : ClientProfile) : Session σ κ :=
  { s with
    state :=
      { s.state with
        status := .activated
        profile := some profile } }

/-
  The status, the camera, the capture mode, the transform and
  the client are the same, and the same messages wait for an
  acknowledgment.
-/
def Kept (s s' : Session σ κ) : Prop :=
  s'.state = s.state ∧ s'.acks = s.acks

/- Whoever is written down has changed the session. -/
theorem not_kept_admitted
    {profile : ClientProfile}
    {s : Session σ κ}
    (host : σ)
    (hAdmits : s.Admits profile) :
    ¬ Kept s { s.admitted profile with host := host } := by
  rintro ⟨hState, _⟩
  have hStatus : Status.activated = s.state.status :=
    congrArg SessionState.status hState
  rw [hAdmits.1] at hStatus
  cases hStatus

------------------------------------------------------------
-- The two calls
------------------------------------------------------------

section Calls

variable (d : Delegate σ)
variable {profile : ClientProfile}
variable {s : Session σ κ}

/- A start that fails does nothing. -/
theorem start_of_error
    {fresh : String}
    {refusal : Refusal}
    (hFailed : (s.start fresh).result = .error refusal) :
    s.start fresh = .quiet s (.error refusal) := by
  by_cases hOffline : s.state.status = .offline
  · rw [start_of_offline fresh hOffline] at hFailed
    cases hFailed
  · have hResult := start_of_begun fresh hOffline
    rw [hResult] at hFailed
    cases hFailed
    unfold start
    cases hStatus : s.state.status with
    | offline => exact absurd hStatus hOffline
    | starting => rfl
    | activated => rfl

/- An admitted client is written down and announced. -/
theorem activate_of_admits (hAdmits : s.Admits profile) :
    s.activate d profile =
      (s.admitted profile).announce d (.activated profile) () := by
  rcases hAdmits with ⟨hStarting, hSpoken⟩
  unfold activate
  rw [hStarting]
  simp only [hSpoken, if_true]
  rfl

/- Any other is turned down, and nobody hears of it. -/
theorem activate_of_turned_down
    (hOther : ¬ s.Admits profile) :
    ∃ refusal,
      s.activate d profile = .quiet s (.error refusal) ∧
        ∀ fault, refusal ≠ .delegateFailed fault := by
  unfold activate
  cases hStatus : s.state.status with
  | offline => exact ⟨.notStarted, rfl, nofun⟩
  | activated => exact ⟨.alreadyActivated, rfl, nofun⟩
  | starting =>
      have hUnspoken :
          ¬ (profile.apiVersion = "" ∨
            s.info.speaksWith profile.apiVersion = true) :=
        fun hSpoken => hOther ⟨hStatus, hSpoken⟩
      simp only [hUnspoken, if_false]
      exact ⟨_, rfl, nofun⟩

/- If the application fails to hear of it, the client stays. -/
theorem activate_of_unheard
    {fault : Fault}
    (hAdmits : s.Admits profile)
    (hFailed :
      (d.notify (.activated profile) s.host).2 = some fault) :
    s.activate d profile =
      ⟨{ s.admitted profile with
          host := (d.notify (.activated profile) s.host).1 },
        [.notice (.activated profile)],
        .error (.delegateFailed fault)⟩ := by
  rw [activate_of_admits d hAdmits]
  exact announce_of_failed (s := s.admitted profile) () hFailed

/-
  An activation fails in two ways: the client is turned down,
  or the application fails to hear of it.
-/
theorem activate_error_cases
    {refusal : Refusal}
    (hFailed : (s.activate d profile).result = .error refusal) :
    (s.activate d profile = .quiet s (.error refusal) ∧
        ∀ fault, refusal ≠ .delegateFailed fault) ∨
      ∃ fault,
        refusal = .delegateFailed fault ∧
          s.Admits profile ∧
          (d.notify (.activated profile) s.host).2 =
            some fault := by
  by_cases hAdmits : s.Admits profile
  · right
    cases hHeard : (d.notify (.activated profile) s.host).2 with
    | none =>
        have hOk :=
          (activate_eq_ok_iff d profile s).mpr
            ⟨hAdmits.1, hAdmits.2, hHeard⟩
        rw [hOk] at hFailed
        cases hFailed
    | some fault =>
        rw [activate_of_unheard d hAdmits hHeard] at hFailed
        cases hFailed
        exact ⟨fault, rfl, hAdmits, rfl⟩
  · left
    rcases activate_of_turned_down d hAdmits with
      ⟨other, hStep, hOther⟩
    rw [hStep] at hFailed
    cases hFailed
    exact ⟨hStep, hOther⟩

/- In a message the failure to hear of the client is repaired. -/
theorem process_of_unheard
    {fault : Fault}
    {e : Envelope}
    (fresh : String)
    (hPayload : e.payload = some (.sessionActivate profile))
    (hAdmits : s.Admits profile)
    (hFailed :
      (d.notify (.activated profile) s.host).2 = some fault) :
    Ended s (s.process d fresh e) := by
  have hStep :=
    activate_of_unheard d
      (s := { s with received := s.received + 1 })
      hAdmits hFailed
  have hRefused :
      (handle d fresh e.header (.sessionActivate profile)
        { s with received := s.received + 1 }).result =
        .error (.delegateFailed fault) := by
    simp only [handle, hStep]
    rfl
  rcases (process_of_refused d fresh hPayload hRefused).2 with
    ⟨hHarmless, _⟩ | ⟨_, hEnded⟩
  · rw [fatal_delegateFailed] at hHarmless
    cases hHarmless
  · exact hEnded

end Calls

------------------------------------------------------------
-- What is left
------------------------------------------------------------

/-
  A start that fails leaves the session as it was, and nobody
  is told.  So does an activation that fails, unless the
  application failed to hear of it.  This happens to every
  client that the session admits and the application fails to
  hear of; then the session is activated, with the client
  written down, and the messages that wait are the same.
-/
theorem refused_handshake
    (d : Delegate σ)
    (fresh : String)
    (profile : ClientProfile)
    (s : Session σ κ) :
    let hears := d.notify (.activated profile) s.host
    let opening := s.start fresh
    let step := s.activate d profile
    (∀ refusal,
      opening.result = .error refusal →
        opening = .quiet s (.error refusal)) ∧
    (∀ refusal,
      step.result = .error refusal →
        (Kept s step.session ↔
          ∀ fault, refusal ≠ .delegateFailed fault) ∧
        (Kept s step.session →
          step = .quiet s (.error refusal))) ∧
    (∀ fault,
      step.result = .error (.delegateFailed fault) ↔
        s.Admits profile ∧ hears.2 = some fault) ∧
    (∀ fault,
      step.result = .error (.delegateFailed fault) →
        step.session =
            { s.admitted profile with host := hears.1 } ∧
          step.events = [.notice (.activated profile)]) := by
  intro hears opening step
  have hUnheard :
      ∀ fault,
        step.result = .error (.delegateFailed fault) →
          s.Admits profile ∧ hears.2 = some fault := by
    intro fault hFailed
    rcases activate_error_cases d hFailed with
      ⟨_, hOther⟩ | ⟨fault', hSame, hAdmits, hFault⟩
    · exact absurd rfl (hOther fault)
    · cases hSame
      exact ⟨hAdmits, hFault⟩
  refine ⟨fun refusal => start_of_error, ?_, ?_, ?_⟩
  · intro refusal hFailed
    rcases activate_error_cases d hFailed with
      ⟨hStep, hOther⟩ | ⟨fault, rfl, hAdmits, hFault⟩
    · have hKept : Kept s step.session := by
        rw [show step = _ from hStep]
        exact ⟨rfl, rfl⟩
      exact ⟨iff_of_true hKept hOther, fun _ => hStep⟩
    · have hStep := activate_of_unheard d hAdmits hFault
      have hChanged : ¬ Kept s step.session := by
        rw [show step = _ from hStep]
        exact not_kept_admitted _ hAdmits
      have hNamed :
          ¬ ∀ other,
            Refusal.delegateFailed fault ≠ .delegateFailed other :=
        fun hOther => hOther fault rfl
      exact ⟨iff_of_false hChanged hNamed,
        fun hKept => absurd hKept hChanged⟩
  · intro fault
    constructor
    · exact hUnheard fault
    · rintro ⟨hAdmits, hFault⟩
      exact congrArg Step.result
        (activate_of_unheard d hAdmits hFault)
  · intro fault hFailed
    rcases hUnheard fault hFailed with ⟨hAdmits, hFault⟩
    have hStep := activate_of_unheard d hAdmits hFault
    rw [show step = _ from hStep]
    exact ⟨rfl, rfl⟩

/- An application that fails when a client is admitted. -/
def doorless : Delegate Unit :=
  { Delegate.idle with
    notify := fun n _ =>
      ((), match n with
        | .activated _ => some (.delegate "boom")
        | _ => none) }

/-
  A second start and a client with another version are turned
  down; the client that the application fails to hear of
  stays.
-/
theorem refused_handshake_started :
    let s : Session Unit Nat := .new .standard none ()
    let started := (s.start "s1").session
    let other : ClientProfile := ⟨"client", "2.0", .empty⟩
    let fault := Fault.delegate "boom"
    let failed := started.activate doorless .anonymous
    started.start "s2" =
        .quiet started (.error (.alreadyStarted .starting)) ∧
      started.activate doorless other =
        .quiet started (.error (.versionMismatch "2.0" "1.0")) ∧
      failed.result = .error (.delegateFailed fault) ∧
      failed.session = started.admitted .anonymous := by
  intro s started other fault failed
  have hAgain :
      (started.start "s2").result =
        .error (.alreadyStarted .starting) := rfl
  have hOther :
      (started.activate doorless other).result =
        .error (.versionMismatch "2.0" "1.0") := by
    decide +kernel
  have hFailed : failed.result = .error (.delegateFailed fault) :=
    ((refused_handshake doorless "s2" .anonymous started).2.2.1
      fault).mpr ⟨⟨rfl, by decide +kernel⟩, rfl⟩
  rcases (refused_handshake doorless "s2" other started).2.1 _
    hOther with ⟨hKept, hStep⟩
  exact ⟨(refused_handshake doorless "s2" other started).1 _
      hAgain,
    hStep (hKept.mpr nofun), hFailed,
    ((refused_handshake doorless "s2" .anonymous started).2.2.2
      fault hFailed).1⟩

/-
  A session that was started and then failed to be activated
  is active, and has written down its client.
-/
theorem active_of_failed_activation :
    let s : Session Unit Nat := .new .standard none ()
    let started := (s.performAll doorless [.start "s1"]).session
    let failed := started.activate doorless .anonymous
    failed.result =
        .error (.delegateFailed (.delegate "boom")) ∧
      started.active = false ∧
      failed.session.active = true ∧
      started.state.profile = none ∧
      failed.session.state.profile = some .anonymous ∧
      ¬ Kept started failed.session := by
  intro s started failed
  have hAdmits : started.Admits .anonymous :=
    ⟨rfl, by decide +kernel⟩
  have hFault :
      (doorless.notify (.activated .anonymous) started.host).2 =
        some (.delegate "boom") := rfl
  have hStep := activate_of_unheard doorless hAdmits hFault
  have hChanged : ¬ Kept started failed.session := by
    rw [show failed = _ from hStep]
    exact not_kept_admitted _ hAdmits
  rw [show failed = _ from hStep] at hChanged ⊢
  exact ⟨rfl, rfl, rfl, rfl, rfl, hChanged⟩

end Session

end CaptureLink
