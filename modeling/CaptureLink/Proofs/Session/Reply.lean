import CaptureLink.Proofs.Session.Atomicity
import CaptureLink.Proofs.Session.Steps

/-
  Which messages are answered, and how.  Some payloads are
  taken in silence; every other message gets one answer, and
  the answer names the message, unless it is the introduction
  of a server that nobody has asked before.

  Main statements:
    * `Session.Silent`
    * `Session.Greets`
    * `Session.handle_eq_ok_none_iff`
    * `Session.header_of_handle`
    * `Session.handle_of_inactive`
    * `Session.process_replies`
-/

namespace CaptureLink

namespace Session

variable {σ κ : Type}

------------------------------------------------------------
-- Silence
------------------------------------------------------------

/-
  The payloads that a session takes without an answer: an
  activation that succeeds, the end of the session, the
  acknowledgment of a named message, a fault of the client's
  own, and a transform in an activated session, unless the
  application fails to take it.
-/
def Silent
    (d : Delegate σ)
    (s : Session σ κ)
    (header : Header) : Payload → Prop
| .sessionActivate profile =>
    s.state.status = .starting ∧
      (profile.apiVersion = "" ∨
        s.info.speaksWith profile.apiVersion = true) ∧
      (d.notify (.activated profile) s.host).2 = none
| .sessionShutdown => True
| .acknowledge => header.responseId.isSome = true
| .error _ => True
| .motionUpdate transform =>
    s.state.status = .activated ∧
      (s.state.mode.capturing = true →
        (d.notify (.motion transform) s.host).2 = none)
| _ => False

/- How many messages have come before does not matter. -/
theorem silent_received_iff
    (d : Delegate σ)
    (s : Session σ κ)
    (header : Header)
    (payload : Payload)
    (count : Nat) :
    Silent d { s with received := count } header payload ↔
      Silent d s header payload := by
  cases payload with
  | _ => exact Iff.rfl

/- A start succeeds, and is answered, in an offline session. -/
theorem start_of_offline
    (fresh : String)
    {s : Session σ κ}
    (hOffline : s.state.status = .offline) :
    (s.start fresh).result =
      .ok (.fresh fresh (.sessionStart s.info)) := by
  simp only [start, hOffline, Step.quiet]

/- In any other session it is refused. -/
theorem start_of_begun
    (fresh : String)
    {s : Session σ κ}
    (hBegun : s.state.status ≠ .offline) :
    (s.start fresh).result =
      .error (.alreadyStarted s.state.status) := by
  unfold start
  cases hStatus : s.state.status with
  | offline => exact absurd hStatus hBegun
  | starting => rfl
  | activated => rfl

/- An activation succeeds under three conditions. -/
theorem activate_eq_ok_iff
    (d : Delegate σ)
    (profile : ClientProfile)
    (s : Session σ κ) :
    (s.activate d profile).result = .ok () ↔
      s.state.status = .starting ∧
        (profile.apiVersion = "" ∨
          s.info.speaksWith profile.apiVersion = true) ∧
        (d.notify (.activated profile) s.host).2 = none := by
  unfold activate
  cases s.state.status with
  | offline => simp [Step.quiet]
  | activated => simp [Step.quiet]
  | starting =>
      by_cases hSpoken :
          profile.apiVersion = "" ∨
            s.info.speaksWith profile.apiVersion = true
      · simp [hSpoken, announce_result_eq_ok_iff]
      · simp [hSpoken, Step.quiet]

/- An activated session takes a transform under one condition. -/
theorem takeTransform_eq_ok_none_iff
    (d : Delegate σ)
    (transform : Transform)
    (s : Session σ κ) :
    (s.takeTransform d transform).result = .ok none ↔
      (s.state.mode.capturing = true →
        (d.notify (.motion transform) s.host).2 = none) := by
  unfold takeTransform
  cases hCapturing : s.state.mode.capturing with
  | false => simp [Step.quiet]
  | true => simp [announce_result_eq_ok_iff]

/- What is asked for by name is answered, or refused. -/
theorem whenActive_ne_ok_none
    (kind : Kind)
    (s : Session σ κ)
    {act : Step σ κ (Except Refusal (Option Envelope))}
    (hAct : act.result ≠ .ok none) :
    (s.whenActive kind act).result ≠ .ok none := by
  unfold whenActive
  by_cases hActive : s.active = true
  · simpa only [hActive, if_true] using hAct
  · simp [hActive, Step.quiet]

/- A handler is silent on exactly these payloads. -/
theorem handle_eq_ok_none_iff
    (d : Delegate σ)
    (fresh : String)
    (header : Header)
    (payload : Payload)
    (s : Session σ κ) :
    (s.handle d fresh header payload).result = .ok none ↔
      Silent d s header payload := by
  cases payload with
  | sessionStart info =>
      simp only [handle, Silent, iff_false]
      by_cases hOffline : s.state.status = .offline
      · rw [start_of_offline fresh hOffline]
        intro hEq
        cases hEq
      · rw [start_of_begun fresh hOffline]
        intro hEq
        cases hEq
  | sessionActivate profile =>
      simp only [handle, Silent, ← activate_eq_ok_iff]
      cases (s.activate d profile).result with
      | ok _ => simp [Except.map]
      | error refusal => simp [Except.map]
  | sessionShutdown => simp [handle, Silent]
  | acknowledge =>
      cases hNamed : header.responseId with
      | none => simp [handle, Silent, hNamed, Step.quiet]
      | some id => simp [handle, Silent, hNamed]
  | error report => simp [handle, Silent, Step.quiet]
  | getCameraList =>
      simp only [handle, Silent, iff_false]
      apply whenActive_ne_ok_none
      simp [Step.quiet]
  | setActiveCamera id =>
      simp only [handle, Silent, iff_false]
      apply whenActive_ne_ok_none
      cases d.find? s.host id with
      | none => simp [Step.quiet]
      | some camera => simp [pickCamera, announce_result_eq_ok_iff]
  | motionSetMode mode =>
      simp only [handle, Silent, iff_false]
      apply whenActive_ne_ok_none
      unfold changeMode
      cases s.state.mode.transition mode with
      | none => simp [Step.quiet]
      | some mode => simp [announce_result_eq_ok_iff]
  | motionGetMode =>
      simp only [handle, Silent, iff_false]
      apply whenActive_ne_ok_none
      simp [Step.quiet]
  | motionUpdate transform =>
      simp only [handle, Silent]
      by_cases hActive : s.state.status = .activated
      · simp only [whenActive_of_active _ _ hActive, hActive,
          true_and, takeTransform_eq_ok_none_iff]
      · simp [whenActive_of_inactive _ _ hActive, hActive,
          Step.quiet]
  | cameraList cameras => simp [handle, Silent, Step.quiet]
  | activeCameraInfo camera => simp [handle, Silent, Step.quiet]
  | motionActiveMode mode => simp [handle, Silent, Step.quiet]
  | motionInfo mode transform => simp [handle, Silent, Step.quiet]

------------------------------------------------------------
-- Answers
------------------------------------------------------------

/- The message is the first that asks the server to introduce itself. -/
def Greets
    (s : Session σ κ)
    (e : Envelope) : Prop :=
  s.state.status = .offline ∧
    ∃ info, e.payload = some (.sessionStart info)

/- The kinds of messages that need an activated session. -/
def activeKinds : List Kind :=
  [.getCameraList, .setActiveCamera, .motionSetMode,
    .motionGetMode, .motionUpdate]

/- If there is an answer, its header is this one. -/
def Answers
    (header : Header)
    (result : Except Refusal (Option Envelope)) : Prop :=
  ∀ reply, result = .ok (some reply) → reply.header = header

/- An announced answer keeps its header. -/
theorem answers_announce
    (d : Delegate σ)
    (n : Notice)
    (s : Session σ κ)
    {header : Header}
    {answer : Option Envelope}
    (hAnswer : Answers header (.ok answer)) :
    Answers header (s.announce d n answer).result := by
  intro reply hReply
  rcases (announce_result_eq_ok_iff _ _).mp hReply with
    ⟨hSame, _⟩
  exact hAnswer reply (congrArg _ hSame)

/- So does an answer of activated sessions. -/
theorem answers_whenActive
    (kind : Kind)
    (s : Session σ κ)
    {header : Header}
    {act : Step σ κ (Except Refusal (Option Envelope))}
    (hAct : Answers header act.result) :
    Answers header (s.whenActive kind act).result := by
  by_cases hActive : s.state.status = .activated
  · rwa [whenActive_of_active kind act hActive]
  · rw [whenActive_of_inactive kind act hActive]
    intro reply hReply
    cases hReply

/- A refusal is no answer. -/
theorem answers_error
    (header : Header)
    (refusal : Refusal) :
    Answers header (.error refusal) := by
  intro reply hReply
  cases hReply

/- Silence is none either. -/
theorem answers_none (header : Header) :
    Answers header (.ok none) := by
  intro reply hReply
  cases hReply

/- A reply answers its message. -/
theorem answers_reply
    (fresh id : String)
    (payload : Payload) :
    Answers ⟨fresh, some id⟩
      (.ok (some (.reply fresh id payload))) := by
  intro reply hReply
  cases hReply
  rfl

/-
  Every answer names the message, but that to a first
  greeting.
-/
theorem header_of_handle
    (d : Delegate σ)
    (fresh : String)
    (header : Header)
    (payload : Payload)
    (s : Session σ κ)
    (hOther : ¬ s.Greets ⟨header, some payload⟩) :
    Answers ⟨fresh, some header.id⟩
      (s.handle d fresh header payload).result := by
  cases payload with
  | sessionStart info =>
      have hBegun : s.state.status ≠ .offline :=
        fun hOffline => hOther ⟨hOffline, info, rfl⟩
      simp only [handle, start_of_begun fresh hBegun]
      exact answers_error _ _
  | sessionActivate profile =>
      simp only [handle]
      cases (s.activate d profile).result with
      | ok _ => exact answers_none _
      | error refusal => exact answers_error _ refusal
  | sessionShutdown => exact answers_none _
  | acknowledge =>
      cases hNamed : header.responseId with
      | none =>
          simp only [handle, hNamed]
          exact answers_error _ _
      | some id =>
          simp only [handle, hNamed]
          exact answers_none _
  | error report => exact answers_none _
  | getCameraList =>
      apply answers_whenActive
      exact answers_reply _ _ _
  | setActiveCamera id =>
      apply answers_whenActive
      cases d.find? s.host id with
      | none => exact answers_error _ _
      | some camera =>
          exact answers_announce d _ _ (answers_reply _ _ _)
  | motionSetMode mode =>
      apply answers_whenActive
      unfold changeMode
      cases s.state.mode.transition mode with
      | none => exact answers_reply _ _ _
      | some mode =>
          exact answers_announce d _ _ (answers_reply _ _ _)
  | motionGetMode =>
      apply answers_whenActive
      exact answers_reply _ _ _
  | motionUpdate transform =>
      apply answers_whenActive
      unfold takeTransform
      cases s.state.mode.capturing with
      | false => exact answers_none _
      | true => exact answers_announce d _ _ (answers_none _)
  | cameraList cameras => exact answers_error _ _
  | activeCameraInfo camera => exact answers_error _ _
  | motionActiveMode mode => exact answers_error _ _
  | motionInfo mode transform => exact answers_error _ _

/- Cameras and motion need an activated session. -/
theorem handle_of_inactive
    (d : Delegate σ)
    (fresh : String)
    (header : Header)
    {payload : Payload}
    {s : Session σ κ}
    (hKind : payload.kind ∈ activeKinds)
    (hInactive : s.state.status ≠ .activated) :
    s.handle d fresh header payload =
      .quiet s (.error
        (.notActive payload.kind s.state.status)) := by
  cases payload with
  | getCameraList => exact whenActive_of_inactive _ _ hInactive
  | setActiveCamera id =>
      exact whenActive_of_inactive _ _ hInactive
  | motionSetMode mode =>
      exact whenActive_of_inactive _ _ hInactive
  | motionGetMode => exact whenActive_of_inactive _ _ hInactive
  | motionUpdate transform =>
      exact whenActive_of_inactive _ _ hInactive
  | _ => simp [activeKinds, Payload.kind] at hKind

------------------------------------------------------------
-- Messages
------------------------------------------------------------

/- A message that is not refused gets its handler's answer. -/
theorem process_result_of_ok
    (d : Delegate σ)
    (fresh : String)
    {e : Envelope}
    {payload : Payload}
    {s : Session σ κ}
    {answer : Option Envelope}
    (hPayload : e.payload = some payload)
    (hAnswer :
      (handle d fresh e.header payload
          { s with received := s.received + 1 }).result =
        .ok answer) :
    (s.process d fresh e).result = answer :=
  (process_events_of_ok d fresh hPayload hAnswer).1

/- A message is taken in silence if its payload is silent. -/
theorem process_eq_none_iff
    (d : Delegate σ)
    (fresh : String)
    (e : Envelope)
    (s : Session σ κ) :
    (s.process d fresh e).result = none ↔
      ∃ payload,
        e.payload = some payload ∧ Silent d s e.header payload := by
  cases hPayload : e.payload with
  | none =>
      simp [(process_of_missing d fresh s hPayload).2]
  | some payload =>
      have hHandled :=
        handle_eq_ok_none_iff d fresh e.header payload
          { s with received := s.received + 1 }
      rw [silent_received_iff] at hHandled
      simp only [Option.some.injEq, exists_eq_left', ← hHandled]
      cases hResult :
          (handle d fresh e.header payload
            { s with received := s.received + 1 }).result with
      | ok answer =>
          rw [process_result_of_ok d fresh hPayload hResult,
            Except.ok.injEq]
      | error refusal =>
          simp [(process_of_refused d fresh hPayload hResult).1]

/-
  A message gets no answer exactly if its payload is taken in
  silence.  The first greeting is answered with the server's
  introduction, which names no message; every other answer
  names the message it answers.  Messages about cameras and
  motion are refused, without harm, unless the session is
  activated.
-/
theorem process_replies
    (d : Delegate σ)
    (fresh : String)
    (e : Envelope)
    (s : Session σ κ) :
    let result := (s.process d fresh e).result
    (result = none ↔
      ∃ payload,
        e.payload = some payload ∧
          Silent d s e.header payload) ∧
    (s.Greets e →
      result = some (.fresh fresh (.sessionStart s.info))) ∧
    (∀ reply,
      result = some reply →
      ¬ s.Greets e →
        reply.header = ⟨fresh, some e.id⟩) ∧
    (∀ payload,
      e.payload = some payload →
      payload.kind ∈ activeKinds →
      s.state.status ≠ .activated →
        ∃ report : ErrorReport,
          result = some (.failure fresh (some e.id) report) ∧
            report.category = "SessionNotActiveError" ∧
            report.isFatal = false) := by
  intro result
  refine ⟨process_eq_none_iff d fresh e s, ?_, ?_, ?_⟩
  · rintro ⟨hOffline, info, hPayload⟩
    have hStart :=
      start_of_offline (s := { s with received := s.received + 1 })
        fresh hOffline
    apply process_result_of_ok d fresh hPayload
    simp only [handle, hStart]
    rfl
  · intro reply hReply hOther
    cases hPayload : e.payload with
    | none =>
        have hResult := (process_of_missing d fresh s hPayload).2
        rw [show result = _ from hResult] at hReply
        cases hReply
        rfl
    | some payload =>
        have hAnswers :=
          header_of_handle d fresh e.header payload
            { s with received := s.received + 1 }
            (by rw [← hPayload]; exact hOther)
        cases hHandled :
            (handle d fresh e.header payload
              { s with received := s.received + 1 }).result with
        | ok answer =>
            have hResult : result = answer :=
              process_result_of_ok d fresh hPayload hHandled
            rw [hHandled] at hAnswers
            rw [← hResult, hReply] at hAnswers
            exact hAnswers reply rfl
        | error refusal =>
            have hResult :=
              (process_of_refused d fresh hPayload hHandled).1
            rw [show result = _ from hResult] at hReply
            cases hReply
            rfl
  · intro payload hPayload hKind hInactive
    have hHandled :=
      handle_of_inactive d fresh e.header
        (s := { s with received := s.received + 1 })
        hKind hInactive
    have hRefused := congrArg Step.result hHandled
    exact ⟨_, (process_of_refused d fresh hPayload hRefused).1,
      rfl, rfl⟩

/-
  A new session greets who asks it to, and refuses a request
  for the mode, naming the request.
-/
theorem process_replies_new_session :
    let s : Session Unit Nat := new .standard none ()
    let hello := Envelope.fresh "hello" (.sessionStart .standard)
    let ask := Envelope.fresh "ask" .motionGetMode
    s.Greets hello ∧
      (s.process .idle "answer" hello).result =
        some (.fresh "answer" (.sessionStart .standard)) ∧
      ¬ s.Greets ask ∧
      s.state.status ≠ .activated ∧
      ∃ reply,
        (s.process .idle "answer" ask).result = some reply ∧
          reply.header = ⟨"answer", some "ask"⟩ := by
  intro s hello ask
  have hGreets : s.Greets hello := ⟨rfl, _, rfl⟩
  have hOther : ¬ s.Greets ask := by
    rintro ⟨_, info, hPayload⟩
    cases hPayload
  have hInactive : s.state.status ≠ .activated := by
    decide
  rcases process_replies .idle "answer" ask s with
    ⟨_, _, hHeader, hRefused⟩
  rcases hRefused .motionGetMode rfl (by decide) hInactive with
    ⟨report, hReply, _, _⟩
  exact ⟨hGreets,
    (process_replies .idle "answer" hello s).2.1 hGreets,
    hOther, hInactive, _, hReply, hHeader _ hReply hOther⟩

end Session

end CaptureLink
