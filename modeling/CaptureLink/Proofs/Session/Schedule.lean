import CaptureLink.Proofs.Session.Likeness
import CaptureLink.Proofs.Session.Naming
import CaptureLink.Proofs.Session.Operation

/-
  Requests of the client among other traffic.  Messages of the
  server, ticks of the clock, acknowledgments and faults that
  the client reports may come at any places between the
  requests.  What comes of a request is what comes of it when
  there is nothing else.

  Main statements:
    * `Session.Operation.Aside`
    * `Session.Slot`
    * `Session.exchanges`
    * `Session.alike_aside`
    * `Session.exchanges_of_alike`
    * `Session.alike_performAll`
-/

namespace CaptureLink

namespace Session

variable {σ κ : Type}

------------------------------------------------------------
-- Schedules
------------------------------------------------------------

/- Operations that go on beside the requests of the client. -/
inductive Operation.Aside : Operation κ → Prop where
/- The client acknowledges a message that it names. -/
| acknowledgment (fresh id responseId : String) :
    Aside
      (.process fresh ⟨⟨id, some responseId⟩, some .acknowledge⟩)
/- The client reports a fault of its own. -/
| report
    (fresh : String)
    (header : Header)
    (report : ErrorReport) :
    Aside (.process fresh ⟨header, some (.error report)⟩)
/- The server sends a message that waits for an acknowledgment. -/
| sendWithAck
    (now : Nat)
    (fresh : String)
    (payload : Payload)
    (label : Option κ) :
    Aside (.sendWithAck now fresh payload label)
/- The server reports mode and transform. -/
| motionInfo (fresh : String) : Aside (.motionInfo fresh)
/- The clock ticks. -/
| pollTimeouts (now : Nat) : Aside (.pollTimeouts now)

/- A place in a schedule. -/
inductive Slot (κ : Type) where
/- A request, with a name for its answer. -/
| request (fresh : String) (e : Envelope)
/- Something else. -/
| aside (op : Operation κ) (hAside : op.Aside)

namespace Slot

/- The operation at a place. -/
def operation : Slot κ → Operation κ
| .request fresh e => .process fresh e
| .aside op _ => op

/- The request at a place, if there is one. -/
def request? : Slot κ → Option Envelope
| .request _ e => some e
| .aside _ _ => none

end Slot

/- The requests in a schedule, in order. -/
def requests (slots : List (Slot κ)) : List Envelope :=
  slots.filterMap Slot.request?

------------------------------------------------------------
-- Exchanges
------------------------------------------------------------

/-
  What comes of a request: the answer without its name, the
  state of the session and of the application behind it, and
  what the application was told.
-/
structure Exchange (σ : Type) where
  answer : Option Envelope
  state : SessionState
  host : σ
  told : List Notice

/- What comes of one request. -/
def exchange
    (d : Delegate σ)
    (fresh : String)
    (e : Envelope)
    (s : Session σ κ) : Exchange σ :=
  let step := s.process d fresh e
  ⟨step.result.map (·.named ""), step.session.state,
    step.session.host, notices step.events⟩

/- What comes of the request at a place, if there is one. -/
def Slot.exchange?
    (d : Delegate σ)
    (s : Session σ κ) :
    Slot κ → Option (Exchange σ)
| .request fresh e => some (s.exchange d fresh e)
| .aside _ _ => none

/- What comes of every request in a schedule. -/
def exchanges
    (d : Delegate σ) :
    Session σ κ → List (Slot κ) → List (Exchange σ)
| _, [] => []
| s, slot :: slots =>
    (slot.exchange? d s).toList ++
      (s.perform d slot.operation).session.exchanges d slots

/- What comes of requests with nothing between them. -/
def conversation
    (d : Delegate σ)
    (s : Session σ κ)
    (es : List Envelope) : List (Exchange σ) :=
  s.exchanges d (es.map (.request ""))

/- The session after requests with nothing between them. -/
def converse
    (d : Delegate σ)
    (s : Session σ κ)
    (es : List Envelope) : Step σ κ Unit :=
  s.performAll d (es.map (.process ""))

/- What comes of some places, and of others behind them. -/
theorem exchanges_append
    (d : Delegate σ)
    (s : Session σ κ)
    (slots slots' : List (Slot κ)) :
    s.exchanges d (slots ++ slots') =
      s.exchanges d slots ++
        (s.performAll d
          (slots.map Slot.operation)).session.exchanges d
            slots' := by
  induction slots generalizing s with
  | nil => rfl
  | cons slot slots ih =>
      simp only [List.cons_append, exchanges, ih, List.map_cons,
        performAll, List.append_assoc]

section Exchanging

variable {d : Delegate σ}
variable {s s' : Session σ κ}

/- Nothing comes of what goes on beside the requests. -/
theorem alike_aside
    {op : Operation κ}
    (hAside : op.Aside)
    (hAlike : Alike s s') :
    Alike s (s'.perform d op).session ∧
      notices (s'.perform d op).events = [] := by
  rcases hAlike with
    ⟨hInfo, hState, hHost, hUpdates, hDropped⟩
  cases hAside with
  | acknowledgment fresh id responseId =>
      exact ⟨⟨hInfo, hState, hHost, hUpdates, hDropped⟩,
        notices_settled _⟩
  | pollTimeouts now =>
      exact ⟨⟨hInfo, hState, hHost, hUpdates, hDropped⟩,
        notices_settled _⟩
  | _ =>
      exact ⟨⟨hInfo, hState, hHost, hUpdates, hDropped⟩, rfl⟩

/- A request does the same in sessions that are alike. -/
theorem alike_request
    (fresh other : String)
    (e : Envelope)
    (hAlike : Alike s s') :
    AlikeStep (s.perform d (.process other e))
      (s'.perform d (.process fresh e)) := by
  have hProcess :=
    alike_process (d := d) fresh e hAlike
  have hNamed := renamed_process d fresh other e s
  refine ⟨?_, ?_, rfl⟩
  · simp only [perform, conduct, hNamed]
    exact hProcess.session_alike
  · simp only [perform, conduct, hNamed]
    exact hProcess.notices_eq

/- The same comes of it, whatever its answer is called. -/
theorem exchange_of_alike
    (fresh other : String)
    (e : Envelope)
    (hAlike : Alike s s') :
    s'.exchange d fresh e = s.exchange d other e := by
  have hProcess :=
    alike_process (d := d) fresh e hAlike
  have hNamed := renamed_process d fresh other e s
  simp only [exchange, hNamed, hProcess.result_eq,
    hProcess.session_alike.state_eq,
    hProcess.session_alike.host_eq, hProcess.notices_eq]
  cases (s.process d fresh e).result with
  | none => rfl
  | some reply => rfl

/-
  The same comes of the requests in a schedule as if there
  were nothing else, in any session that is alike.
-/
theorem exchanges_of_alike
    (slots : List (Slot κ))
    (hAlike : Alike s s') :
    s'.exchanges d slots = s.conversation d (requests slots) := by
  induction slots generalizing s s' with
  | nil => rfl
  | cons slot slots ih =>
      cases slot with
      | request fresh e =>
          have hStep :=
            alike_request (d := d) fresh "" e hAlike
          exact congrArg₂ List.cons
            (exchange_of_alike fresh "" e hAlike)
            (ih hStep.session_alike)
      | aside op hAside => exact ih (alike_aside hAside hAlike).1

/- So the session goes on as if there were nothing else. -/
theorem alike_performAll
    (slots : List (Slot κ))
    (hAlike : Alike s s') :
    AlikeStep (s.converse d (requests slots))
      (s'.performAll d (slots.map Slot.operation)) := by
  induction slots generalizing s s' with
  | nil => exact ⟨hAlike, rfl, rfl⟩
  | cons slot slots ih =>
      cases slot with
      | request fresh e =>
          have hStep :=
            alike_request (d := d) fresh "" e hAlike
          have hRest := ih hStep.session_alike
          refine ⟨hRest.session_alike, ?_, rfl⟩
          simp only [notices, converse, requests, performAll,
            List.map_cons, List.filterMap_cons, Slot.request?,
            List.filterMap_append]
          exact congrArg₂ (· ++ ·) hStep.notices_eq
            hRest.notices_eq
      | aside op hAside =>
          rcases alike_aside (d := d) hAside hAlike with
            ⟨hStep, hQuiet⟩
          have hRest := ih hStep
          refine ⟨hRest.session_alike, ?_, rfl⟩
          have hNotices :
              notices
                  (s'.performAll d
                    ((.aside op hAside :: slots).map
                      Slot.operation)).events =
                notices (s'.perform d op).events ++
                  notices
                    ((s'.perform d op).session.performAll d
                      (slots.map Slot.operation)).events :=
            List.filterMap_append
          rw [hNotices, hQuiet, List.nil_append]
          exact hRest.notices_eq

end Exchanging

end Session

end CaptureLink
