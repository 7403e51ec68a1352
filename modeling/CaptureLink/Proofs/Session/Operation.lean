import CaptureLink.Proofs.Session.Following

/-
  Everything that can be done with a session.  A session deals
  with messages of its client, is started, activated and ended
  by the server itself, sends messages of its own, and gives
  up on acknowledgments, in any order.

  Main declarations:
    * `Session.Operation`
    * `Session.Yield`
    * `Session.conduct`
    * `Session.perform`
    * `Session.performAll`
    * `Session.performAll_append`
-/

namespace CaptureLink

namespace Session

variable {σ κ : Type}

/- Something to be done with a session. -/
inductive Operation (κ : Type) where
/- Deal with a message. -/
| process (fresh : String) (e : Envelope)
/- Introduce the server. -/
| start (fresh : String)
/- Accept for the client. -/
| activate (profile : ClientProfile)
/- End the session. -/
| shutdown
/- Send a payload that waits for an acknowledgment. -/
| sendWithAck
    (now : Nat)
    (fresh : String)
    (payload : Payload)
    (label : Option κ)
/- Report mode and transform. -/
| motionInfo (fresh : String)
/- Give up on acknowledgments. -/
| pollTimeouts (now : Nat)

/- What an operation gives back. -/
inductive Yield where
/- The answer to a message, if there is one. -/
| reply (answer : Option Envelope)
/- The server's introduction, or why there is none. -/
| introduction (result : Except Refusal Envelope)
/- Whether the client was accepted. -/
| acceptance (result : Except Refusal Unit)
/- A message of the server. -/
| message (e : Envelope)
/- The number of messages given up. -/
| count (n : Nat)
| nothing
deriving DecidableEq

/- The session after an operation, the events, and what it gives. -/
def conduct
    (d : Delegate σ)
    (s : Session σ κ) :
    Operation κ → Step σ κ Yield
| .process fresh e =>
    let step := s.process d fresh e
    ⟨step.session, step.events, .reply step.result⟩
| .start fresh =>
    let step := s.start fresh
    ⟨step.session, step.events, .introduction step.result⟩
| .activate profile =>
    let step := s.activate d profile
    ⟨step.session, step.events, .acceptance step.result⟩
| .shutdown =>
    let step := s.shutdown d
    ⟨step.session, step.events, .nothing⟩
| .sendWithAck now fresh payload label =>
    let (s', e) := s.sendWithAck now fresh payload label
    .quiet s' (.message e)
| .motionInfo fresh =>
    let (s', e) := s.motionInfo fresh
    .quiet s' (.message e)
| .pollTimeouts now =>
    let step := s.pollTimeouts now
    ⟨step.session, step.events, .count step.result⟩

/- An operation, but for what it gives. -/
def perform
    (d : Delegate σ)
    (s : Session σ κ)
    (op : Operation κ) : Step σ κ Unit :=
  let step := s.conduct d op
  ⟨step.session, step.events, ()⟩

/- The session after some operations, and all their events. -/
def performAll
    (d : Delegate σ) :
    Session σ κ → List (Operation κ) → Step σ κ Unit
| s, [] => .quiet s ()
| s, op :: ops =>
    let step := s.perform d op
    let rest := step.session.performAll d ops
    ⟨rest.session, step.events ++ rest.events, ()⟩

section Performing

variable (d : Delegate σ)
variable (s : Session σ κ)

/- Some operations and others are all of them. -/
theorem performAll_append (ops ops' : List (Operation κ)) :
    s.performAll d (ops ++ ops') =
      let step := s.performAll d ops
      let rest := step.session.performAll d ops'
      ⟨rest.session, step.events ++ rest.events, ()⟩ := by
  induction ops generalizing s with
  | nil => rfl
  | cons op ops ih =>
      simp only [List.cons_append, performAll, ih,
        List.append_assoc]

/- One operation is all of itself. -/
theorem performAll_singleton (op : Operation κ) :
    s.performAll d [op] = s.perform d op := by
  simp only [performAll, Step.quiet, List.append_nil]

end Performing

end Session

end CaptureLink
