import CaptureLink.Proofs.Session.Operation

/-
  What the counters of a session count.  They are kept in many
  places, some of them on the way to a refusal, and no end of
  the session sets them back; still they can be told from what
  happened, however long the session is used.

  Main statements:
    * `Session.Episode`
    * `Session.episodes`
    * `Session.Counted`
    * `Session.counted_handle`
    * `Session.counted_process`
    * `Session.counted_conduct`
    * `Session.counted_performAll`
    * `Session.counters_conserved`
-/

namespace CaptureLink

/- A transform is reported. -/
def Payload.moves : Payload → Bool
| .motionUpdate _ => true
| _ => false

namespace Session

variable {σ κ α β γ : Type}

------------------------------------------------------------
-- What is counted
------------------------------------------------------------

/- A message of the client is dealt with. -/
def Operation.arrives : Operation κ → Bool
| .process _ _ => true
| _ => false

/- The server sends a message that is no answer. -/
def Operation.sends : Operation κ → Bool
| .sendWithAck _ _ _ _ => true
| .motionInfo _ => true
| _ => false

/- The client reports a transform in a message. -/
def Operation.moves : Operation κ → Bool
| .process _ e => e.payload.any Payload.moves
| _ => false

/- A message is answered. -/
def Yield.answers : Yield → Bool
| .reply answer => answer.isSome
| _ => false

/- The application is told of a transform. -/
def Event.tells : Event κ → Bool
| .notice (.motion _) => true
| _ => false

/- The end of waiting for an acknowledgment is none. -/
theorem countP_tells_settled (settlements : List (Settlement κ)) :
    (settlements.map Event.settled).countP Event.tells = 0 := by
  rw [List.countP_map, List.countP_eq_zero]
  intro settlement _ hTells
  cases hTells

/- An operation, the session before it, and what it did. -/
structure Episode (σ κ : Type) where
  before : Session σ κ
  operation : Operation κ
  step : Step σ κ Yield

/- A message is answered in it. -/
def Episode.answers (episode : Episode σ κ) : Bool :=
  episode.step.result.answers

/- A transform is reported in an activated session. -/
def Episode.moves (episode : Episode σ κ) : Bool :=
  episode.operation.moves && episode.before.active

/- Some operations, one by one. -/
def episodes
    (d : Delegate σ) :
    Session σ κ → List (Operation κ) → List (Episode σ κ)
| _, [] => []
| s, op :: ops =>
    let step := s.conduct d op
    ⟨s, op, step⟩ :: episodes d step.session ops

------------------------------------------------------------
-- Counted steps
------------------------------------------------------------

/-
  A step counts some messages that arrived and some that left,
  every transform that the application was told of, and these
  together with what was dropped.
-/
structure Counted
    (s : Session σ κ)
    (step : Step σ κ α)
    (arrived left moved : Nat) : Prop where
  received_eq : step.session.received = s.received + arrived
  sent_eq : step.session.sent = s.sent + left
  updates_eq :
    step.session.updates =
      s.updates + step.events.countP Event.tells
  total_eq :
    step.session.updates + step.session.dropped =
      s.updates + s.dropped + moved

section Steps

variable {s s' : Session σ κ}
variable {arrived left moved : Nat}

/- What leaves the counters alone counts nothing. -/
theorem counted_quiet
    (s : Session σ κ)
    (result : α) :
    Counted s (.quiet s result) 0 0 0 :=
  ⟨rfl, rfl, rfl, rfl⟩

/- What is made of the answer does not matter. -/
theorem Counted.map
    {step : Step σ κ α}
    (hCounted : Counted s step arrived left moved)
    (result : β) :
    Counted s ⟨step.session, step.events, result⟩
      arrived left moved :=
  ⟨hCounted.received_eq, hCounted.sent_eq, hCounted.updates_eq,
    hCounted.total_eq⟩

/- One step and another behind it count together. -/
theorem Counted.append
    {step : Step σ κ α}
    {step' : Step σ κ β}
    {arrived' left' moved' : Nat}
    (result : γ)
    (hCounted : Counted s step arrived left moved)
    (hCounted' :
      Counted step.session step' arrived' left' moved') :
    Counted s
      ⟨step'.session, step.events ++ step'.events, result⟩
      (arrived + arrived') (left + left') (moved + moved') where
  received_eq := by
    rw [hCounted'.received_eq, hCounted.received_eq]
    omega
  sent_eq := by
    rw [hCounted'.sent_eq, hCounted.sent_eq]
    omega
  updates_eq := by
    rw [List.countP_append, hCounted'.updates_eq,
      hCounted.updates_eq]
    omega
  total_eq := by
    rw [hCounted'.total_eq, hCounted.total_eq]
    omega

/- A message is counted when it arrives. -/
theorem Counted.arrive
    {step : Step σ κ α}
    (hCounted :
      Counted { s with received := s.received + 1 } step
        arrived left moved) :
    Counted s step (arrived + 1) left moved where
  received_eq := by
    rw [hCounted.received_eq]
    exact Nat.add_right_comm s.received 1 arrived
  sent_eq := hCounted.sent_eq
  updates_eq := hCounted.updates_eq
  total_eq := hCounted.total_eq

/- A message is counted when it leaves. -/
theorem Counted.leave
    {step : Step σ κ α}
    (result : β)
    (hCounted : Counted s step arrived left moved) :
    Counted s ⟨step.session.countSent, step.events, result⟩
      arrived (left + 1) moved where
  received_eq := hCounted.received_eq
  sent_eq := by
    rw [← Nat.add_assoc, ← hCounted.sent_eq]
    rfl
  updates_eq := hCounted.updates_eq
  total_eq := hCounted.total_eq

/- Whether the application fails or not does not matter. -/
theorem counted_announce
    {n : Notice}
    {result : α}
    (d : Delegate σ)
    (hTold :
      Counted s (⟨s', [.notice n], result⟩ : Step σ κ α)
        arrived left moved) :
    Counted s (s'.announce d n result) arrived left moved := by
  rcases hTold with ⟨hReceived, hSent, hUpdates, hTotal⟩
  cases hFault : (d.notify n s'.host).2 with
  | none =>
      rw [announce_of_heard result hFault]
      exact ⟨hReceived, hSent, hUpdates, hTotal⟩
  | some fault =>
      rw [announce_of_failed result hFault]
      exact ⟨hReceived, hSent, hUpdates, hTotal⟩

/- What is refused before it is done counts nothing. -/
theorem counted_whenActive
    (kind : Kind)
    {act : Step σ κ (Except Refusal α)}
    (hAct : Counted s act 0 0 moved) :
    Counted s (s.whenActive kind act) 0 0
      (if s.active then moved else 0) := by
  by_cases hActive : s.state.status = .activated
  · rw [whenActive_of_active kind act hActive,
      if_pos (active_iff.mpr hActive)]
    exact hAct
  · rw [whenActive_of_inactive kind act hActive,
      if_neg fun hYes => hActive (active_iff.mp hYes)]
    exact counted_quiet s _

/- This is so if there is nothing to count. -/
theorem counted_whenActive_none
    (kind : Kind)
    {act : Step σ κ (Except Refusal α)}
    (hAct : Counted s act 0 0 0) :
    Counted s (s.whenActive kind act) 0 0 0 := by
  have hNone := counted_whenActive kind hAct
  rwa [ite_self] at hNone

end Steps

------------------------------------------------------------
-- Handlers
------------------------------------------------------------

section Handlers

variable (d : Delegate σ)
variable (fresh : String)
variable (header : Header)
variable (s : Session σ κ)

/- The introduction of the server is counted by who sends it. -/
theorem counted_start :
    Counted s (s.start fresh) 0 0 0 := by
  unfold start
  cases s.state.status with
  | _ => exact ⟨rfl, rfl, rfl, rfl⟩

/- An activation counts nothing. -/
theorem counted_activate (profile : ClientProfile) :
    Counted s (s.activate d profile) 0 0 0 := by
  unfold activate
  cases s.state.status with
  | offline => exact counted_quiet s _
  | activated => exact counted_quiet s _
  | starting =>
      by_cases hSpoken :
          profile.apiVersion = "" ∨
            s.info.speaksWith profile.apiVersion = true
      · simp only [hSpoken, if_true]
        exact counted_announce d ⟨rfl, rfl, rfl, rfl⟩
      · simp only [hSpoken, if_false]
        exact counted_quiet s _

/- The end of a session sets no counter back. -/
theorem counted_shutdown :
    Counted s (s.shutdown d) 0 0 0 := by
  by_cases hOffline : s.state.status = .offline
  · simp only [shutdown, hOffline]
    exact counted_quiet s ()
  · rw [shutdown_of_begun d hOffline]
    exact ⟨rfl, rfl, rfl, rfl⟩

/- A transform is told, or it is dropped. -/
theorem counted_takeTransform (transform : Transform) :
    Counted s (s.takeTransform d transform) 0 0 1 := by
  unfold takeTransform
  cases s.state.mode.capturing with
  | false => exact ⟨rfl, rfl, rfl, rfl⟩
  | true =>
      refine counted_announce d ⟨rfl, rfl, rfl, ?_⟩
      exact Nat.add_right_comm s.updates 1 s.dropped

/- Who reports no transform makes a handler count nothing. -/
theorem counted_handle_other
    {payload : Payload}
    (hOther : payload.moves = false) :
    Counted s (s.handle d fresh header payload) 0 0 0 := by
  cases payload with
  | sessionStart info => exact (counted_start fresh s).map _
  | sessionActivate profile =>
      exact (counted_activate d s profile).map _
  | sessionShutdown => exact (counted_shutdown d s).map _
  | acknowledge =>
      simp only [handle]
      cases header.responseId with
      | none => exact counted_quiet s _
      | some id =>
          refine ⟨rfl, rfl, ?_, rfl⟩
          rw [countP_tells_settled]
          rfl
  | error report => exact counted_quiet s _
  | getCameraList =>
      exact counted_whenActive_none _ (counted_quiet s _)
  | setActiveCamera id =>
      apply counted_whenActive_none
      cases d.find? s.host id with
      | none => exact counted_quiet s _
      | some camera =>
          exact counted_announce d ⟨rfl, rfl, rfl, rfl⟩
  | motionSetMode mode =>
      apply counted_whenActive_none
      unfold changeMode
      cases s.state.mode.transition mode with
      | none => exact counted_quiet s _
      | some next =>
          exact counted_announce d ⟨rfl, rfl, rfl, rfl⟩
  | motionGetMode =>
      exact counted_whenActive_none _ (counted_quiet s _)
  | motionUpdate transform => cases hOther
  | cameraList cameras => exact counted_quiet s _
  | activeCameraInfo camera => exact counted_quiet s _
  | motionActiveMode mode => exact counted_quiet s _
  | motionInfo mode transform => exact counted_quiet s _

/- A handler counts the transform that an activated session takes. -/
theorem counted_handle (payload : Payload) :
    Counted s (s.handle d fresh header payload) 0 0
      (if payload.moves && s.active then 1 else 0) := by
  cases hMoves : payload.moves with
  | false =>
      exact counted_handle_other d fresh header s hMoves
  | true =>
      cases payload with
      | motionUpdate transform =>
          exact counted_whenActive _
            (counted_takeTransform d s transform)
      | _ => cases hMoves

/- The report of a refusal leaves, if the session ends or not. -/
theorem counted_refuse (refusal : Refusal) :
    Counted s (s.refuse d fresh header refusal) 0 1 0 := by
  by_cases hFatal : refusal.toFault.fatal = true
  · simp only [refuse, hFatal, if_true]
    exact (counted_shutdown d s).leave _
  · simp only [refuse, hFatal]
    exact (counted_quiet s ()).leave _

end Handlers

------------------------------------------------------------
-- Operations
------------------------------------------------------------

section Operations

variable (d : Delegate σ)

/- Every message is counted, and with it its answer. -/
theorem counted_process
    (fresh : String)
    (e : Envelope)
    (s : Session σ κ) :
    let step := s.process d fresh e
    Counted s step 1
      (if step.result.isSome then 1 else 0)
      (if e.payload.any Payload.moves && s.active then 1
        else 0) := by
  intro step
  cases hPayload : e.payload with
  | none =>
      simp only [step, process, hPayload]
      exact ((counted_refuse d fresh e.header _ _).map _).arrive
  | some payload =>
      have hHandled :=
        counted_handle d fresh e.header
          { s with received := s.received + 1 } payload
      simp only [step, process, hPayload]
      cases (handle d fresh e.header payload
          { s with received := s.received + 1 }).result with
      | error refusal =>
          exact (hHandled.append _
            (counted_refuse d fresh e.header _ refusal)).arrive
      | ok answer =>
          cases answer with
          | none => exact (hHandled.map _).arrive
          | some reply => exact (hHandled.leave _).arrive

/- Every operation counts what it is. -/
theorem counted_conduct
    (s : Session σ κ)
    (op : Operation κ) :
    let episode : Episode σ κ := ⟨s, op, s.conduct d op⟩
    Counted s episode.step
      (if op.arrives then 1 else 0)
      ((if episode.answers then 1 else 0) +
        if op.sends then 1 else 0)
      (if episode.moves then 1 else 0) := by
  cases op with
  | process fresh e => exact (counted_process d fresh e s).map _
  | start fresh => exact (counted_start fresh s).map _
  | activate profile => exact (counted_activate d s profile).map _
  | shutdown => exact (counted_shutdown d s).map _
  | sendWithAck now fresh payload label =>
      exact ⟨rfl, rfl, rfl, rfl⟩
  | motionInfo fresh => exact ⟨rfl, rfl, rfl, rfl⟩
  | pollTimeouts now =>
      exact ⟨rfl, rfl, (countP_tells_settled _).symm ▸ rfl, rfl⟩

/- So do some operations, one by one. -/
theorem counted_performAll
    (s : Session σ κ)
    (ops : List (Operation κ)) :
    let lived := episodes d s ops
    Counted s (s.performAll d ops)
      (ops.countP Operation.arrives)
      (lived.countP Episode.answers + ops.countP Operation.sends)
      (lived.countP Episode.moves) := by
  induction ops generalizing s with
  | nil => exact counted_quiet s ()
  | cons op ops ih =>
      have hAll :=
        (counted_conduct d s op).append ()
          (ih (s.conduct d op).session)
      simp only [performAll, perform]
      refine ⟨?_, ?_, hAll.updates_eq, ?_⟩
      · rw [hAll.received_eq, List.countP_cons]
        omega
      · rw [hAll.sent_eq, episodes, List.countP_cons,
          List.countP_cons]
        omega
      · rw [hAll.total_eq, episodes, List.countP_cons]
        omega

end Operations

/-
  However a session is used, and whatever the application
  does: as many messages have been received as were dealt
  with, and as many sent as were answers and messages of the
  server's own; the application was told of as many transforms
  as are counted; and with the dropped ones these are the
  transforms that were reported in the activated session.
-/
theorem counters_conserved
    (d : Delegate σ)
    (info : ServerInfo)
    (ackTimeout : Option Nat)
    (host : σ)
    (ops : List (Operation κ)) :
    let start : Session σ κ := new info ackTimeout host
    let lived := episodes d start ops
    let run := start.performAll d ops
    let after := run.session
    after.received = ops.countP Operation.arrives ∧
      after.sent =
        lived.countP Episode.answers +
          ops.countP Operation.sends ∧
      after.updates = run.events.countP Event.tells ∧
      after.updates + after.dropped =
        lived.countP Episode.moves := by
  intro start lived run after
  have hCounted := counted_performAll d start ops
  refine ⟨?_, ?_, ?_, ?_⟩
  · exact hCounted.received_eq.trans (Nat.zero_add _)
  · exact hCounted.sent_eq.trans (Nat.zero_add _)
  · exact hCounted.updates_eq.trans (Nat.zero_add _)
  · exact hCounted.total_eq.trans (Nat.zero_add _)

end Session

end CaptureLink
