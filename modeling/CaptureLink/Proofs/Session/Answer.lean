import CaptureLink.Proofs.Session.Atomicity
import CaptureLink.Proofs.Session.Steps

/-
  What is in an answer.  A handler answers in one of five
  ways, and what a refusal repeats comes from the message, the
  server's introduction or the application.

  Main statements:
    * `Session.Answer`
    * `Session.Refusal.Cause`
    * `Session.explained_handle`
    * `Session.process_result_cases`
    * `Session.transform?_of_process`
    * `Session.steady_process`
-/

namespace CaptureLink

namespace Session

variable {σ κ : Type}

------------------------------------------------------------
-- Answers and refusals
------------------------------------------------------------

/- The answers to a payload. -/
inductive Answer
    (d : Delegate σ)
    (s : Session σ κ)
    (fresh : String)
    (header : Header) :
    Payload → Envelope → Prop where
/- The server introduces itself. -/
| greeting (info : ServerInfo) :
    Answer d s fresh header (.sessionStart info)
      (.fresh fresh (.sessionStart s.info))
/- The cameras of the scene. -/
| cameras :
    Answer d s fresh header .getCameraList
      (.reply fresh header.id (.cameraList (d.cameras s.host)))
/- The camera that was picked. -/
| picked
    {id : String}
    {camera : Camera}
    (hFound : d.find? s.host id = some camera) :
    Answer d s fresh header (.setActiveCamera id)
      (.reply fresh header.id (.activeCameraInfo camera))
/- The mode was changed, or stays. -/
| accepted (mode : MotionMode) :
    Answer d s fresh header (.motionSetMode mode)
      (.reply fresh header.id .acknowledge)
/- The mode as it is. -/
| mode :
    Answer d s fresh header .motionGetMode
      (.reply fresh header.id (.motionActiveMode s.state.mode))

/- Where the texts come from that a refusal repeats. -/
def Refusal.Cause
    (d : Delegate σ)
    (s : Session σ κ)
    (payload : Payload) : Refusal → Prop
| .versionMismatch requested spoken =>
    ∃ profile,
      payload = .sessionActivate profile ∧
        requested = profile.apiVersion ∧
        spoken = s.info.apiVersion
| .unknownCamera id => payload = .setActiveCamera id
| .delegateFailed fault =>
    ∃ n, (d.notify n s.host).2 = some fault
| _ => True

/- What is answered is one thing, and what is refused another. -/
def Explained
    (isAnswer : Envelope → Prop)
    (isRefusal : Refusal → Prop) :
    Except Refusal (Option Envelope) → Prop
| .ok none => True
| .ok (some reply) => isAnswer reply
| .error refusal => isRefusal refusal

section Handlers

variable {d : Delegate σ}
variable {s : Session σ κ}
variable {isAnswer : Envelope → Prop}
variable {isRefusal : Refusal → Prop}

/- Telling the application changes an answer into its fault at most. -/
theorem explained_announce
    (n : Notice)
    {answer : Option Envelope}
    (hAnswer : Explained isAnswer isRefusal (.ok answer))
    (hFault :
      ∀ fault, (d.notify n s.host).2 = some fault →
        isRefusal (.delegateFailed fault)) :
    Explained isAnswer isRefusal (s.announce d n answer).result := by
  cases hTold : (d.notify n s.host).2 with
  | none =>
      rw [announce_of_heard answer hTold]
      exact hAnswer
  | some fault =>
      rw [announce_of_failed answer hTold]
      exact hFault fault hTold

/- A session that is not activated refuses for its status. -/
theorem explained_whenActive
    {kind : Kind}
    {act : Step σ κ (Except Refusal (Option Envelope))}
    (hAct : Explained isAnswer isRefusal act.result)
    (hInactive : isRefusal (.notActive kind s.state.status)) :
    Explained isAnswer isRefusal (s.whenActive kind act).result := by
  by_cases hActive : s.state.status = .activated
  · rwa [whenActive_of_active kind act hActive]
  · rw [whenActive_of_inactive kind act hActive]
    exact hInactive

end Handlers

/- Every handler answers and refuses as it is said above. -/
theorem explained_handle
    (d : Delegate σ)
    (fresh : String)
    (header : Header)
    (payload : Payload)
    (s : Session σ κ) :
    Explained
      (Answer d s fresh header payload)
      (Refusal.Cause d s payload)
      (s.handle d fresh header payload).result := by
  cases payload with
  | sessionStart info =>
      simp only [handle, start]
      cases s.state.status with
      | offline => exact .greeting info
      | starting => exact True.intro
      | activated => exact True.intro
  | sessionActivate profile =>
      simp only [handle, activate]
      cases s.state.status with
      | offline => exact True.intro
      | activated => exact True.intro
      | starting =>
          by_cases hSpoken :
              profile.apiVersion = "" ∨
                s.info.speaksWith profile.apiVersion = true
          · simp only [hSpoken, if_true, announce, notify]
            cases hTold :
                (d.notify (.activated profile) s.host).2 with
            | none => exact True.intro
            | some fault => exact ⟨_, hTold⟩
          · simp only [hSpoken, if_false]
            exact ⟨profile, rfl, rfl, rfl⟩
  | sessionShutdown => exact True.intro
  | acknowledge =>
      simp only [handle]
      cases header.responseId with
      | none => exact True.intro
      | some id => exact True.intro
  | error report => exact True.intro
  | getCameraList =>
      exact explained_whenActive .cameras True.intro
  | setActiveCamera id =>
      apply explained_whenActive _ True.intro
      cases hFound : d.find? s.host id with
      | none => exact rfl
      | some camera =>
          exact explained_announce _ (.picked hFound)
            fun fault hFault => ⟨_, hFault⟩
  | motionSetMode mode =>
      apply explained_whenActive _ True.intro
      unfold changeMode
      cases s.state.mode.transition mode with
      | none => exact .accepted mode
      | some next =>
          exact explained_announce _ (.accepted mode)
            fun fault hFault => ⟨_, hFault⟩
  | motionGetMode => exact explained_whenActive .mode True.intro
  | motionUpdate transform =>
      apply explained_whenActive _ True.intro
      unfold takeTransform
      cases s.state.mode.capturing with
      | false => exact True.intro
      | true =>
          exact explained_announce _ True.intro
            fun fault hFault => ⟨_, hFault⟩
  | cameraList cameras => exact True.intro
  | activeCameraInfo camera => exact True.intro
  | motionActiveMode mode => exact True.intro
  | motionInfo mode transform => exact True.intro

------------------------------------------------------------
-- Messages
------------------------------------------------------------

/-
  A message is answered, if at all, with the report of a
  missing payload, with an answer to its payload, or with the
  report of a refusal.
-/
theorem process_result_cases
    (d : Delegate σ)
    (fresh : String)
    (e : Envelope)
    (s : Session σ κ)
    {reply : Envelope}
    (hReply : (s.process d fresh e).result = some reply) :
    (e.payload = none ∧
      reply =
        .failure fresh (some e.id)
          Refusal.missingPayload.toFault.report) ∨
    ∃ payload,
      e.payload = some payload ∧
        (Answer d s fresh e.header payload reply ∨
          ∃ refusal,
            Refusal.Cause d s payload refusal ∧
              reply =
                .failure fresh (some e.id)
                  refusal.toFault.report) := by
  cases hPayload : e.payload with
  | none =>
      rw [(process_of_missing d fresh s hPayload).2] at hReply
      exact .inl ⟨rfl, (Option.some.inj hReply).symm⟩
  | some payload =>
      have hExplained :=
        explained_handle d fresh e.header payload
          { s with received := s.received + 1 }
      refine .inr ⟨payload, rfl, ?_⟩
      cases hHandled :
          (handle d fresh e.header payload
            { s with received := s.received + 1 }).result with
      | ok answer =>
          rw [(process_events_of_ok d fresh hPayload hHandled).1]
            at hReply
          subst hReply
          rw [hHandled] at hExplained
          left
          cases (show Answer d _ fresh e.header payload reply from
            hExplained) with
          | greeting info => exact .greeting info
          | cameras => exact .cameras
          | picked hFound => exact .picked hFound
          | accepted mode => exact .accepted mode
          | mode => exact .mode
      | error refusal =>
          rw [(process_of_refused d fresh hPayload hHandled).1]
            at hReply
          rw [hHandled] at hExplained
          exact .inr ⟨refusal, hExplained,
            (Option.some.inj hReply).symm⟩

/- No answer to a message carries a transform. -/
theorem transform?_of_process
    (d : Delegate σ)
    (fresh : String)
    (e : Envelope)
    (s : Session σ κ)
    {reply : Envelope}
    (hReply : (s.process d fresh e).result = some reply) :
    reply.transform? = none := by
  rcases process_result_cases d fresh e s hReply with
    ⟨_, rfl⟩ | ⟨payload, _, hAnswer | ⟨refusal, _, rfl⟩⟩
  · rfl
  · cases hAnswer with
    | _ => rfl
  · rfl

------------------------------------------------------------
-- What stays
------------------------------------------------------------

/-
  The server introduces itself as before, and as many
  messages have arrived.
-/
structure Steady
    (s s' : Session σ κ) : Prop where
  info_eq : s'.info = s.info
  received_eq : s'.received = s.received

/- To tell the application something keeps both. -/
theorem steady_announce
    {α : Type}
    {s s' : Session σ κ}
    (hSteady : Steady s s')
    (d : Delegate σ)
    (n : Notice)
    (result : α) :
    Steady s (s'.announce d n result).session := by
  cases hTold : (d.notify n s'.host).2 with
  | none =>
      rw [announce_of_heard result hTold]
      exact ⟨hSteady.info_eq, hSteady.received_eq⟩
  | some fault =>
      rw [announce_of_failed result hTold]
      exact ⟨hSteady.info_eq, hSteady.received_eq⟩

/- So does the end of a session. -/
theorem steady_shutdown
    (d : Delegate σ)
    (s : Session σ κ) :
    Steady s (s.shutdown d).session := by
  by_cases hOffline : s.state.status = .offline
  · simp only [shutdown, hOffline]
    exact ⟨rfl, rfl⟩
  · rw [shutdown_of_begun d hOffline]
    exact ⟨rfl, rfl⟩

/- What only an activated session does keeps what it keeps. -/
theorem steady_whenActive
    {kind : Kind}
    {s : Session σ κ}
    {act : Step σ κ (Except Refusal (Option Envelope))}
    (hAct : Steady s act.session) :
    Steady s (s.whenActive kind act).session := by
  by_cases hActive : s.state.status = .activated
  · rwa [whenActive_of_active kind act hActive]
  · rw [whenActive_of_inactive kind act hActive]
    exact ⟨rfl, rfl⟩

/- So does its beginning, if it begins. -/
theorem steady_start
    (fresh : String)
    (s : Session σ κ) :
    Steady s (s.start fresh).session := by
  unfold start
  cases s.state.status with
  | _ => exact ⟨rfl, rfl⟩

/- So does an activation, if it is one. -/
theorem steady_activate
    (d : Delegate σ)
    (profile : ClientProfile)
    (s : Session σ κ) :
    Steady s (s.activate d profile).session := by
  have hSame : Steady s s := ⟨rfl, rfl⟩
  unfold activate
  cases s.state.status with
  | offline => exact hSame
  | activated => exact hSame
  | starting =>
      by_cases hSpoken :
          profile.apiVersion = "" ∨
            s.info.speaksWith profile.apiVersion = true
      · simp only [hSpoken, if_true]
        apply steady_announce
        exact ⟨rfl, rfl⟩
      · simp only [hSpoken, if_false]
        exact hSame

/- So does every handler. -/
theorem steady_handle
    (d : Delegate σ)
    (fresh : String)
    (header : Header)
    (payload : Payload)
    (s : Session σ κ) :
    Steady s (s.handle d fresh header payload).session := by
  have hSame : Steady s s := ⟨rfl, rfl⟩
  cases payload with
  | sessionStart info => exact steady_start fresh s
  | sessionActivate profile => exact steady_activate d profile s
  | sessionShutdown => exact steady_shutdown d s
  | acknowledge =>
      simp only [handle]
      cases header.responseId with
      | none => exact hSame
      | some id => exact ⟨rfl, rfl⟩
  | error report => exact hSame
  | getCameraList => exact steady_whenActive hSame
  | setActiveCamera id =>
      apply steady_whenActive
      cases d.find? s.host id with
      | none => exact hSame
      | some camera =>
          unfold pickCamera
          apply steady_announce
          exact ⟨rfl, rfl⟩
  | motionSetMode mode =>
      apply steady_whenActive
      unfold changeMode
      cases s.state.mode.transition mode with
      | none => exact hSame
      | some next =>
          apply steady_announce
          exact ⟨rfl, rfl⟩
  | motionGetMode => exact steady_whenActive hSame
  | motionUpdate transform =>
      apply steady_whenActive
      unfold takeTransform
      cases s.state.mode.capturing with
      | false => exact ⟨rfl, rfl⟩
      | true =>
          apply steady_announce
          exact ⟨rfl, rfl⟩
  | cameraList cameras => exact hSame
  | activeCameraInfo camera => exact hSame
  | motionActiveMode mode => exact hSame
  | motionInfo mode transform => exact hSame

/- A refusal keeps both as well. -/
theorem steady_refuse
    (d : Delegate σ)
    (fresh : String)
    (header : Header)
    (refusal : Refusal)
    (s : Session σ κ) :
    Steady s (s.refuse d fresh header refusal).session := by
  by_cases hFatal : refusal.toFault.fatal = true
  · simp only [refuse, hFatal, if_true]
    have hEnded := steady_shutdown d s
    exact ⟨hEnded.info_eq, hEnded.received_eq⟩
  · simp only [refuse, hFatal]
    exact ⟨rfl, rfl⟩

/- Every message is counted once, whatever is in it. -/
theorem steady_process
    (d : Delegate σ)
    (fresh : String)
    (e : Envelope)
    (s : Session σ κ) :
    Steady { s with received := s.received + 1 }
      (s.process d fresh e).session := by
  cases hPayload : e.payload with
  | none =>
      simp only [process, hPayload]
      exact steady_refuse d fresh e.header _ _
  | some payload =>
      have hHandled :=
        steady_handle d fresh e.header payload
          { s with received := s.received + 1 }
      simp only [process, hPayload]
      cases (handle d fresh e.header payload
          { s with received := s.received + 1 }).result with
      | error refusal =>
          have hRefused :=
            steady_refuse d fresh e.header refusal
              (handle d fresh e.header payload
                { s with received := s.received + 1 }).session
          exact ⟨hRefused.info_eq.trans hHandled.info_eq,
            hRefused.received_eq.trans hHandled.received_eq⟩
      | ok answer =>
          cases answer with
          | none => exact hHandled
          | some reply =>
              exact ⟨hHandled.info_eq, hHandled.received_eq⟩

end Session

end CaptureLink
