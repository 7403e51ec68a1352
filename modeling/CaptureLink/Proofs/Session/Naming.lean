import CaptureLink.Proofs.Session.Steps

/-
  The name of a new message is of no consequence.  What a
  session makes of a message, and what it answers, depends on
  the name only in so far as the answer has it.

  Main statements:
    * `Session.renamed_handle`
    * `Session.renamed_process`
    * `Session.process_of_silent`
-/

namespace CaptureLink

/- The same message with another name. -/
def Envelope.named
    (e : Envelope)
    (id : String) : Envelope :=
  ⟨⟨id, e.responseId⟩, e.payload⟩

namespace Session

variable {σ κ : Type}

/-
  Two operations that do the same, but for the name of the
  answer.
-/
structure Renamed
    (other : String)
    (step step' : Step σ κ (Except Refusal (Option Envelope))) :
    Prop where
  session_eq : step'.session = step.session
  events_eq : step'.events = step.events
  result_eq :
    step'.result = step.result.map (Option.map (·.named other))

/- An operation without an answer has no name in it. -/
theorem Renamed.of_unnamed
    (other : String)
    {step : Step σ κ (Except Refusal (Option Envelope))}
    (hUnnamed : ∀ e, step.result ≠ .ok (some e)) :
    Renamed other step step where
  session_eq := rfl
  events_eq := rfl
  result_eq := by
    cases hResult : step.result with
    | error refusal => rfl
    | ok answer =>
        cases answer with
        | none => rfl
        | some e => exact absurd hResult (hUnnamed e)

/- An announced answer keeps its name. -/
theorem renamed_announce
    {other : String}
    {answer answer' : Option Envelope}
    (d : Delegate σ)
    (n : Notice)
    (s : Session σ κ)
    (hAnswer : answer' = answer.map (·.named other)) :
    Renamed other
      (s.announce d n answer) (s.announce d n answer') := by
  cases hTold : (d.notify n s.host).2 with
  | none =>
      rw [announce_of_heard answer hTold,
        announce_of_heard answer' hTold, hAnswer]
      exact ⟨rfl, rfl, rfl⟩
  | some fault =>
      rw [announce_of_failed answer hTold,
        announce_of_failed answer' hTold]
      exact ⟨rfl, rfl, rfl⟩

/- So does an answer of activated sessions. -/
theorem renamed_whenActive
    {other : String}
    (kind : Kind)
    (s : Session σ κ)
    {act act' : Step σ κ (Except Refusal (Option Envelope))}
    (hAct : Renamed other act act') :
    Renamed other
      (s.whenActive kind act) (s.whenActive kind act') := by
  by_cases hActive : s.state.status = .activated
  · rwa [whenActive_of_active kind act hActive,
      whenActive_of_active kind act' hActive]
  · rw [whenActive_of_inactive kind act hActive,
      whenActive_of_inactive kind act' hActive]
    exact ⟨rfl, rfl, rfl⟩

/- Every handler does the same under another name. -/
theorem renamed_handle
    (d : Delegate σ)
    (fresh other : String)
    (header : Header)
    (payload : Payload)
    (s : Session σ κ) :
    Renamed other
      (s.handle d fresh header payload)
      (s.handle d other header payload) := by
  cases payload with
  | sessionStart info =>
      simp only [handle, start]
      cases s.state.status with
      | _ => exact ⟨rfl, rfl, rfl⟩
  | sessionActivate profile =>
      apply Renamed.of_unnamed
      intro e
      simp only [handle]
      cases (s.activate d profile).result with
      | ok _ =>
          intro hEq
          cases hEq
      | error refusal =>
          intro hEq
          cases hEq
  | acknowledge =>
      simp only [handle]
      cases header.responseId with
      | none => exact ⟨rfl, rfl, rfl⟩
      | some id => exact ⟨rfl, rfl, rfl⟩
  | getCameraList =>
      exact renamed_whenActive _ s ⟨rfl, rfl, rfl⟩
  | setActiveCamera id =>
      apply renamed_whenActive
      cases d.find? s.host id with
      | none => exact ⟨rfl, rfl, rfl⟩
      | some camera => exact renamed_announce d _ _ rfl
  | motionSetMode mode =>
      apply renamed_whenActive
      unfold changeMode
      cases s.state.mode.transition mode with
      | none => exact ⟨rfl, rfl, rfl⟩
      | some next => exact renamed_announce d _ _ rfl
  | motionGetMode =>
      exact renamed_whenActive _ s ⟨rfl, rfl, rfl⟩
  | motionUpdate transform =>
      apply renamed_whenActive
      unfold takeTransform
      cases s.state.mode.capturing with
      | false => exact ⟨rfl, rfl, rfl⟩
      | true => exact renamed_announce d _ _ rfl
  | _ => exact ⟨rfl, rfl, rfl⟩

/- So does a session with a message. -/
theorem renamed_process
    (d : Delegate σ)
    (fresh other : String)
    (e : Envelope)
    (s : Session σ κ) :
    s.process d other e =
      ⟨(s.process d fresh e).session,
        (s.process d fresh e).events,
        (s.process d fresh e).result.map (·.named other)⟩ := by
  cases hPayload : e.payload with
  | none =>
      simp only [process, hPayload]
      rfl
  | some payload =>
      rcases renamed_handle d fresh other e.header payload
          { s with received := s.received + 1 } with
        ⟨hSession, hEvents, hResult⟩
      simp only [process, hPayload, hSession, hEvents, hResult]
      cases (handle d fresh e.header payload
          { s with received := s.received + 1 }).result with
      | error refusal => rfl
      | ok answer =>
          cases answer with
          | none => rfl
          | some reply => rfl

/- A message that is not answered has the same effect under any name. -/
theorem process_of_silent
    (d : Delegate σ)
    {fresh : String}
    (other : String)
    {e : Envelope}
    {s : Session σ κ}
    (hSilent : (s.process d fresh e).result = none) :
    s.process d other e = s.process d fresh e := by
  rw [renamed_process d fresh other e s, hSilent,
    Option.map_none, ← hSilent]

end Session

end CaptureLink
