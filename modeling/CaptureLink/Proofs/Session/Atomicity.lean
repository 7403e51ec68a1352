import CaptureLink.Proofs.Session.Refusal

/-
  What a session answers with a report of a fault.  Either the
  fault is harmless, and nothing has happened but that two
  messages were counted, or it is fatal, and the session has
  ended, which the application was told last.  The session
  does not end in any other way unless the client asks for it.

  Main statements:
    * `Session.shutdown_of_begun`
    * `Session.refuse_of_harmless`
    * `Session.refuse_of_fatal`
    * `Session.process_atomic`
-/

namespace CaptureLink

namespace Session

variable {σ κ : Type}

------------------------------------------------------------
-- Ending a session
------------------------------------------------------------

/- A session that has begun is ended, and the application told. -/
theorem shutdown_of_begun
    (d : Delegate σ)
    {s : Session σ κ}
    (hBegun : s.state.status ≠ .offline) :
    s.shutdown d =
      ⟨{ s with
          acks := .empty
          state := .initial
          host := (d.notify .shutdown s.host).1 },
        [.notice .shutdown], ()⟩ := by
  unfold shutdown
  cases hStatus : s.state.status with
  | offline => exact absurd hStatus hBegun
  | starting => rfl
  | activated => rfl

/- A harmless refusal is reported, and that is all. -/
theorem refuse_of_harmless
    (d : Delegate σ)
    (fresh : String)
    (header : Header)
    {refusal : Refusal}
    (s : Session σ κ)
    (hHarmless : refusal.toFault.fatal = false) :
    s.refuse d fresh header refusal =
      ⟨s.countSent, [],
        .failure fresh (some header.id)
          refusal.toFault.report⟩ := by
  simp only [refuse, hHarmless, Bool.false_eq_true, if_false]
  rfl

/- A fatal refusal is reported, and ends the session. -/
theorem refuse_of_fatal
    (d : Delegate σ)
    (fresh : String)
    (header : Header)
    {refusal : Refusal}
    {s : Session σ κ}
    (hFatal : refusal.toFault.fatal = true)
    (hBegun : s.state.status ≠ .offline) :
    s.refuse d fresh header refusal =
      ⟨({ s with
          acks := .empty
          state := .initial
          host := (d.notify .shutdown s.host).1 }).countSent,
        [.notice .shutdown],
        .failure fresh (some header.id)
          refusal.toFault.report⟩ := by
  simp only [refuse, hFatal, if_true, shutdown_of_begun d hBegun]

------------------------------------------------------------
-- After a report
------------------------------------------------------------

/-
  Only the counters of messages have changed, nobody was told
  anything, and no acknowledgment was settled.
-/
def Untouched
    (s : Session σ κ)
    (step : Step σ κ (Option Envelope)) : Prop :=
  step.session =
      { s with
        received := s.received + 1
        sent := s.sent + 1 } ∧
    step.events = []

/-
  A session that had begun is as in the beginning, and nothing
  waits for an acknowledgment.  No acknowledgment was settled,
  and the last that the application was told, and once only,
  is that the session ends.
-/
structure Ended
    (s : Session σ κ)
    (step : Step σ κ (Option Envelope)) : Prop where
  begun :
    s.state.status = .starting ∨ s.state.status = .activated
  state_eq : step.session.state = .initial
  acks_eq : step.session.acks = .empty
  unsettled :
    ∀ settlement, Event.settled settlement ∉ step.events
  told :
    ∃ earlier,
      step.events = earlier ++ [.notice .shutdown] ∧
        Event.notice .shutdown ∉ earlier

/- A session that is not offline is in one of two states. -/
theorem starting_or_activated
    {status : Status}
    (hBegun : status ≠ .offline) :
    status = .starting ∨ status = .activated := by
  cases status with
  | offline => exact absurd rfl hBegun
  | starting => exact .inl rfl
  | activated => exact .inr rfl

------------------------------------------------------------
-- Messages
------------------------------------------------------------

/- A message without a payload is refused, and that is all. -/
theorem process_of_missing
    (d : Delegate σ)
    (fresh : String)
    {e : Envelope}
    (s : Session σ κ)
    (hMissing : e.payload = none) :
    Untouched s (s.process d fresh e) ∧
      (s.process d fresh e).result =
        some (.failure fresh (some e.header.id)
          Refusal.missingPayload.toFault.report) := by
  have hHarmless :
      Refusal.missingPayload.toFault.fatal = false := rfl
  have hProcess :
      s.process d fresh e =
        ⟨{ s with
            received := s.received + 1
            sent := s.sent + 1 },
          [],
          some (.failure fresh (some e.header.id)
            Refusal.missingPayload.toFault.report)⟩ := by
    simp only [process, hMissing,
      refuse_of_harmless d fresh e.header _ hHarmless]
    rfl
  rw [hProcess]
  exact ⟨⟨rfl, rfl⟩, rfl⟩

/-
  A message that its handler refuses is answered with the
  report of the refusal, which leaves the session untouched
  or ends it.
-/
theorem process_of_refused
    (d : Delegate σ)
    (fresh : String)
    {e : Envelope}
    {payload : Payload}
    {s : Session σ κ}
    {refusal : Refusal}
    (hPayload : e.payload = some payload)
    (hRefused :
      (handle d fresh e.header payload
          { s with received := s.received + 1 }).result =
        .error refusal) :
    (s.process d fresh e).result =
        some (.failure fresh (some e.header.id)
          refusal.toFault.report) ∧
      (refusal.toFault.fatal = false ∧
          Untouched s (s.process d fresh e) ∨
        refusal.toFault.fatal = true ∧
          Ended s (s.process d fresh e)) := by
  have hOther : payload ≠ .sessionShutdown := by
    intro hShutdown
    subst hShutdown
    cases hRefused
  have hGuarded :=
    guarded_handle d fresh e.header
      { s with received := s.received + 1 } hOther
  cases hFatal : refusal.toFault.fatal with
  | false =>
      rcases hGuarded.untouched refusal hRefused hFatal with
        ⟨hSession, hEvents⟩
      have hProcess :
          s.process d fresh e =
            ⟨{ s with
                received := s.received + 1
                sent := s.sent + 1 },
              [],
              some (.failure fresh (some e.header.id)
                refusal.toFault.report)⟩ := by
        simp only [process, hPayload, hRefused,
          refuse_of_harmless d fresh e.header _ hFatal, hSession,
          hEvents]
        rfl
      rw [hProcess]
      exact ⟨rfl, .inl ⟨rfl, rfl, rfl⟩⟩
  | true =>
      rcases hGuarded.begun refusal hRefused hFatal with
        ⟨hBegun, hBegun', hUnsettled⟩
      unfold process
      rw [hPayload]
      simp only [hRefused,
        refuse_of_fatal d fresh e.header hFatal hBegun', true_and]
      refine .inr
        { begun := starting_or_activated hBegun
          state_eq := rfl
          acks_eq := rfl
          unsettled := ?_
          told := ⟨_, rfl, hGuarded.silent⟩ }
      intro settlement hMem
      rcases List.mem_append.mp hMem with hEarlier | hLast
      · exact hUnsettled settlement hEarlier
      · rw [List.mem_singleton] at hLast
        cases hLast

/- A message that its handler does not refuse has its events. -/
theorem process_events_of_ok
    (d : Delegate σ)
    (fresh : String)
    {e : Envelope}
    {payload : Payload}
    {s : Session σ κ}
    {answer : Option Envelope}
    (hPayload : e.payload = some payload)
    (hAnswer :
      (handle d fresh e.header payload
          { s with received := s.received + 1 }).result =
        .ok answer) :
    (s.process d fresh e).result = answer ∧
      (s.process d fresh e).events =
        (handle d fresh e.header payload
          { s with received := s.received + 1 }).events := by
  cases answer with
  | none => simp [process, hPayload, hAnswer]
  | some reply => simp [process, hPayload, hAnswer]

/-
  If a message is answered with a report of a fault, the
  session is untouched but for its counters of messages, or
  the fault is fatal and the session has ended.  If it is
  not, the application is told that the session ends only
  because the client asked for it.
-/
theorem process_atomic
    (d : Delegate σ)
    (fresh : String)
    (e : Envelope)
    (s : Session σ κ) :
    let step := s.process d fresh e
    (∀ reply report,
      step.result = some reply →
      reply.payload = some (.error report) →
        (report.isFatal = false ∧ Untouched s step) ∨
        (report.isFatal = true ∧ Ended s step)) ∧
    ((∀ reply report,
      step.result = some reply →
      reply.payload ≠ some (.error report)) →
      Event.notice .shutdown ∈ step.events →
        e.payload = some .sessionShutdown) := by
  intro step
  cases hPayload : e.payload with
  | none =>
      rcases process_of_missing d fresh s hPayload with
        ⟨hUntouched, hResult⟩
      constructor
      · intro reply report hReply hReport
        rw [hResult] at hReply
        cases hReply
        cases hReport
        exact .inl ⟨rfl, hUntouched⟩
      · intro hErrorless
        exact absurd rfl (hErrorless _ _ hResult)
  | some payload =>
      cases hHandled :
          (handle d fresh e.header payload
            { s with received := s.received + 1 }).result with
      | error refusal =>
          rcases process_of_refused d fresh hPayload hHandled with
            ⟨hResult, hAtomic⟩
          constructor
          · intro reply report hReply hReport
            rw [hResult] at hReply
            cases hReply
            cases hReport
            exact hAtomic
          · intro hErrorless
            exact absurd rfl (hErrorless _ _ hResult)
      | ok answer =>
          rcases process_events_of_ok d fresh hPayload hHandled
            with ⟨hResult, hEvents⟩
          constructor
          · intro reply report hReply hReport
            have hErrorless :=
              errorless_handle d fresh e.header payload
                { s with received := s.received + 1 }
            rw [hResult] at hReply
            rw [hHandled, hReply] at hErrorless
            exact absurd hReport (hErrorless reply report rfl)
          · intro _ hTold
            by_cases hShutdown : payload = .sessionShutdown
            · rw [hShutdown]
            · have hGuarded :=
                guarded_handle d fresh e.header
                  { s with received := s.received + 1 } hShutdown
              rw [hEvents] at hTold
              exact absurd hTold hGuarded.silent

/- A session that has just begun, with one message that waits. -/
def begunSession : Session Unit Nat :=
  { (new .standard none () : Session Unit Nat) with
    state := { SessionState.initial with status := .starting }
    acks := AckTable.empty.expect ⟨"greeting", none, some 0⟩ }

/- A client with another version ends it. -/
theorem process_atomic_other_version :
    let e := Envelope.fresh "hello"
      (.sessionActivate ⟨"client", "2.0", .empty⟩)
    let step := begunSession.process .idle "answer" e
    step.result.isSome = true ∧ Ended begunSession step := by
  intro e step
  have hResult :
      step.result =
        some (.failure "answer" (some "hello")
          (Refusal.versionMismatch "2.0" "1.0").toFault.report) := by
    decide
  refine ⟨by rw [hResult]; rfl, ?_⟩
  rcases (process_atomic .idle "answer" e begunSession).1 _ _
      hResult rfl with ⟨hHarmless, _⟩ | ⟨_, hEnded⟩
  · cases hHarmless
  · exact hEnded

end Session

end CaptureLink
