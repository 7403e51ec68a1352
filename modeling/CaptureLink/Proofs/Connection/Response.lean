import CaptureLink.Connection

/-
  What a connection does with an arrival.  An open connection
  carries out the response of its session: the session goes
  on, something happens, and a message may leave.  A broken
  connection deals with nothing.

  Main statements:
    * `Connection.respond`
    * `Connection.carryOut_open`
    * `Connection.exists_sent_carryOut`
    * `Connection.exists_sent_takeAll`
    * `Connection.introduce`
    * `Connection.establish_initiated`
    * `Connection.exists_closed_serveStream`
    * `Connection.take_of_open`
    * `Connection.takeAll_of_broken`
    * `Connection.takeAll_append`
-/

namespace CaptureLink

namespace Connection

variable {σ κ β : Type}

------------------------------------------------------------
-- What an open connection does
------------------------------------------------------------

/-
  What an open connection does with an arrival: the session
  goes on, something happens, and a message may leave, or the
  connection ends.
-/
structure Response (σ κ : Type) where
  session : Session σ κ
  events : List (Session.Event κ)
  answer : Except Fault (Option Envelope)

/-
  The response of a session, with a name for its message and
  words for what cannot be read.
-/
def respond
    (d : Delegate σ)
    (words : Diagnosis)
    (fresh : String)
    (s : Session σ κ) :
    Arrival κ → Response σ κ
| .envelope e =>
    let step := s.process d fresh e
    ⟨step.session, step.events, .ok step.result⟩
| .undecodable defect =>
    let fault := defect.toFault words
    if defect.recoverable then
      ⟨s, [], .ok (some (.failure fresh none fault.report))⟩
    else
      ⟨s, [], .error fault⟩
| .sendWithAck now payload label =>
    let (session, e) := s.sendWithAck now fresh payload label
    ⟨session, [], .ok (some e)⟩
| .motionInfo =>
    let (session, e) := s.motionInfo fresh
    ⟨session, [], .ok (some e)⟩
| .tick now =>
    let step := s.pollTimeouts now
    ⟨step.session, step.events, .ok none⟩

/- What gives no message is not the session's business. -/
theorem respond_undecodable
    (d : Delegate σ)
    (words : Diagnosis)
    (fresh : String)
    (s : Session σ κ)
    (defect : Frame.Defect) :
    let r := respond d words fresh s (.undecodable defect)
    r.session = s ∧ r.events = [] := by
  cases hRecoverable : defect.recoverable with
  | _ => simp [respond, hRecoverable]

/- The connection after a response. -/
def carryOut
    (c : Connection σ κ β)
    (setting : Setting σ β)
    (r : Response σ κ) : Connection σ κ β :=
  match r.answer with
  | .ok answer =>
      (c.proceed r.session r.events).sendSome setting answer
  | .error fault =>
      { c.proceed r.session r.events with broken := some fault }

section CarryingOut

variable {setting : Setting σ β}
variable {c : Connection σ κ β}
variable {r : Response σ κ}

/- A message that leaves counts as issued. -/
theorem carryOut_of_spoken
    {e : Envelope}
    {unit : β}
    (hAnswer : r.answer = .ok (some e))
    (hCarry : setting.port.carry e = .ok unit) :
    c.carryOut setting r =
      { c.proceed r.session r.events with
        issued := c.issued + 1
        outgoing := c.outgoing ++ [unit] } := by
  simp only [carryOut, hAnswer, sendSome, send, hCarry]
  rfl

/- A message that cannot leave breaks the connection. -/
theorem carryOut_of_refused
    {e : Envelope}
    {defect : Frame.Defect}
    (hAnswer : r.answer = .ok (some e))
    (hCarry : setting.port.carry e = .error defect) :
    c.carryOut setting r =
      { c.proceed r.session r.events with
        broken := some (defect.toFault setting.words) } := by
  simp only [carryOut, hAnswer, sendSome, send, hCarry]

/- Without a message, the connection only goes on. -/
theorem carryOut_of_silent
    (hAnswer : r.answer = .ok none) :
    c.carryOut setting r = c.proceed r.session r.events := by
  simp only [carryOut, hAnswer, sendSome]

/- So does a fault. -/
theorem carryOut_of_fault
    {fault : Fault}
    (hAnswer : r.answer = .error fault) :
    c.carryOut setting r =
      { c.proceed r.session r.events with
        broken := some fault } := by
  simp only [carryOut, hAnswer]

/- A connection that stays open has sent its message, if any. -/
theorem carryOut_open
    (hOpen : (c.carryOut setting r).broken = none) :
    (∃ e unit,
      r.answer = .ok (some e) ∧
        setting.port.carry e = .ok unit) ∨
    r.answer = .ok none := by
  cases hAnswer : r.answer with
  | error fault =>
      rw [carryOut_of_fault hAnswer] at hOpen
      cases hOpen
  | ok answer =>
      cases answer with
      | none => exact .inr rfl
      | some e =>
          left
          cases hCarry : setting.port.carry e with
          | ok unit => exact ⟨e, unit, rfl, hCarry⟩
          | error defect =>
              rw [carryOut_of_refused hAnswer hCarry] at hOpen
              cases hOpen

end CarryingOut

/-
  Whatever the response, the session goes on with it, what
  happened comes to what happened before, and one message
  leaves at most.
-/
theorem exists_sent_carryOut
    (setting : Setting σ β)
    (c : Connection σ κ β)
    (r : Response σ κ) :
    ∃ (sent : List β) (broken : Option Fault),
      sent.length ≤ 1 ∧
        c.carryOut setting r =
          { session := r.session
            issued := c.issued + sent.length
            outgoing := c.outgoing ++ sent
            events := c.events ++ r.events
            broken := broken } := by
  cases hAnswer : r.answer with
  | error fault =>
      refine ⟨[], some fault, Nat.zero_le _, ?_⟩
      rw [carryOut_of_fault hAnswer, List.append_nil]
      rfl
  | ok answer =>
      cases answer with
      | none =>
          refine ⟨[], c.broken, Nat.zero_le _, ?_⟩
          rw [carryOut_of_silent hAnswer, List.append_nil]
          rfl
      | some e =>
          cases hCarry : setting.port.carry e with
          | ok unit =>
              refine ⟨[unit], c.broken, Nat.le_refl _, ?_⟩
              rw [carryOut_of_spoken hAnswer hCarry]
              rfl
          | error defect =>
              refine ⟨[], some (defect.toFault setting.words),
                Nat.zero_le _, ?_⟩
              rw [carryOut_of_refused hAnswer hCarry,
                List.append_nil]
              rfl

section CarriedOut

variable (setting : Setting σ β)
variable (c : Connection σ κ β)
variable (r : Response σ κ)

@[simp] theorem carryOut_session :
    (c.carryOut setting r).session = r.session := by
  rcases exists_sent_carryOut setting c r with ⟨_, _, _, hCarry⟩
  rw [hCarry]

@[simp] theorem carryOut_events :
    (c.carryOut setting r).events = c.events ++ r.events := by
  rcases exists_sent_carryOut setting c r with ⟨_, _, _, hCarry⟩
  rw [hCarry]

end CarriedOut

/- To go on without anything happening is to stay. -/
theorem proceed_self (c : Connection σ κ β) :
    c.proceed c.session [] = c := by
  simp only [proceed, List.append_nil]

section Runs

variable {setting : Setting σ β}
variable {c : Connection σ κ β}

/- An open connection carries out the response of its session. -/
theorem take_of_open
    (arrival : Arrival κ)
    (hOpen : c.broken = none) :
    c.take setting arrival =
      c.carryOut setting
        (respond setting.delegate setting.words
          (c.nextName setting) c.session arrival) := by
  unfold take carryOut
  rw [hOpen, if_neg (by decide)]
  cases arrival with
  | undecodable defect =>
      simp only [Frame.Defect.recoverable_toFault]
      cases hRecoverable : defect.recoverable with
      | true =>
          simp only [respond, hRecoverable, if_true, proceed_self]
          rfl
      | false =>
          simp only [respond, hRecoverable, Bool.false_eq_true,
            if_false, proceed_self]
  | _ => rfl

/- A broken connection deals with nothing. -/
theorem take_of_broken
    (arrival : Arrival κ)
    (hBroken : c.broken ≠ none) :
    c.take setting arrival = c := by
  unfold take
  rw [if_pos (Option.isSome_iff_ne_none.mpr hBroken)]

/- What arrives first is dealt with first. -/
theorem takeAll_cons
    (arrival : Arrival κ)
    (arrivals : List (Arrival κ)) :
    c.takeAll setting (arrival :: arrivals) =
      (c.take setting arrival).takeAll setting arrivals :=
  rfl

/- It stays broken, whatever arrives. -/
theorem takeAll_of_broken
    (arrivals : List (Arrival κ))
    (hBroken : c.broken ≠ none) :
    c.takeAll setting arrivals = c := by
  induction arrivals with
  | nil => rfl
  | cons arrival arrivals ih =>
      rw [takeAll_cons, take_of_broken arrival hBroken, ih]

/- What arrives in two parts is dealt with in two parts. -/
theorem takeAll_append
    (before after : List (Arrival κ)) :
    c.takeAll setting (before ++ after) =
      (c.takeAll setting before).takeAll setting after :=
  List.foldl_append

end Runs

/-
  Whatever arrives, no message is taken back, and one message
  leaves at most for each arrival.
-/
theorem exists_sent_takeAll
    (setting : Setting σ β)
    (c : Connection σ κ β)
    (arrivals : List (Arrival κ)) :
    ∃ sent : List β,
      sent.length ≤ arrivals.length ∧
        (c.takeAll setting arrivals).issued =
          c.issued + sent.length ∧
        (c.takeAll setting arrivals).outgoing =
          c.outgoing ++ sent := by
  induction arrivals generalizing c with
  | nil => exact ⟨[], Nat.le_refl _, rfl, (List.append_nil _).symm⟩
  | cons arrival arrivals ih =>
      have hNow :
          ∃ now : List β,
            now.length ≤ 1 ∧
              (c.take setting arrival).issued =
                c.issued + now.length ∧
              (c.take setting arrival).outgoing =
                c.outgoing ++ now := by
        by_cases hOpen : c.broken = none
        · rw [take_of_open arrival hOpen]
          rcases exists_sent_carryOut setting c
              (respond setting.delegate setting.words
                (c.nextName setting) c.session arrival) with
            ⟨now, _, hOne, hCarry⟩
          rw [hCarry]
          exact ⟨now, hOne, rfl, rfl⟩
        · rw [take_of_broken arrival hOpen]
          exact ⟨[], Nat.zero_le _, rfl,
            (List.append_nil _).symm⟩
      rcases hNow with ⟨now, hOne, hIssued, hOutgoing⟩
      rcases ih (c.take setting arrival) with
        ⟨later, hLater, hIssued', hOutgoing'⟩
      refine ⟨now ++ later, ?_, ?_, ?_⟩
      · rw [List.length_append, List.length_cons]
        omega
      · rw [takeAll_cons, hIssued', hIssued, List.length_append,
          Nat.add_assoc]
      · rw [takeAll_cons, hOutgoing', hOutgoing,
          List.append_assoc]

section TakenAll

variable (setting : Setting σ β)
variable (c : Connection σ κ β)
variable (arrivals : List (Arrival κ))

/- No message is taken back. -/
theorem issued_le_takeAll :
    c.issued ≤ (c.takeAll setting arrivals).issued := by
  rcases exists_sent_takeAll setting c arrivals with
    ⟨_, _, hIssued, _⟩
  rw [hIssued]
  exact Nat.le_add_right _ _

/- No more messages leave than there are arrivals. -/
theorem issued_takeAll_le :
    (c.takeAll setting arrivals).issued ≤
      c.issued + arrivals.length := by
  rcases exists_sent_takeAll setting c arrivals with
    ⟨_, hFew, hIssued, _⟩
  rw [hIssued]
  exact Nat.add_le_add_left hFew _

/- What has left stays in front. -/
theorem exists_outgoing_takeAll :
    ∃ later,
      (c.takeAll setting arrivals).outgoing =
        c.outgoing ++ later := by
  rcases exists_sent_takeAll setting c arrivals with
    ⟨sent, _, _, hOutgoing⟩
  exact ⟨sent, hOutgoing⟩

end TakenAll

------------------------------------------------------------
-- The introduction
------------------------------------------------------------

/- A connection in which nothing has happened yet. -/
def opened
    (issued : Nat)
    (s : Session σ κ) : Connection σ κ β :=
  ⟨s, issued, [], [], none⟩

/- What a server does to introduce itself unasked. -/
def introduce
    (fresh : String)
    (s : Session σ κ) : Response σ κ :=
  let step := s.start fresh
  match step.result with
  | .ok e => ⟨step.session, step.events, .ok (some e)⟩
  | .error refusal =>
      ⟨step.session, step.events, .error refusal.toFault⟩

/- The session starts, whether it succeeds or not. -/
theorem introduce_start
    (fresh : String)
    (s : Session σ κ) :
    (introduce fresh s).session = (s.start fresh).session ∧
      (introduce fresh s).events = (s.start fresh).events := by
  cases hResult : (s.start fresh).result with
  | _ => simp [introduce, hResult]

/- It carries this out before anything arrives. -/
theorem establish_initiated
    (setting : Setting σ β)
    (issued : Nat)
    (s : Session σ κ) :
    establish setting true issued s =
      (opened issued s).carryOut setting
        (introduce (setting.name (issued + 1)) s) := by
  cases hStatus : s.state.status with
  | _ =>
      simp only [establish, if_true, introduce, Session.start,
        hStatus, Session.Step.quiet]
      rfl

------------------------------------------------------------
-- The end of a stream
------------------------------------------------------------

/-
  To serve a stream is to take what it gives and to close; how
  the stream ends is seen in the fault only.
-/
theorem exists_closed_serveStream
    (setting : Setting σ (List UInt8))
    (limit : Nat)
    (c : Connection σ κ (List UInt8))
    (pieces : List (List UInt8)) :
    ∃ broken,
      c.serveStream setting limit pieces =
        { (c.takeAll setting
            (Arrival.ofStream limit pieces).1).close setting with
          broken := broken } := by
  simp only [serveStream]
  rcases c.takeAll setting (Arrival.ofStream limit pieces).1
    with ⟨session, issued, outgoing, events, broken⟩
  cases broken with
  | none => exact ⟨(Arrival.ofStream limit pieces).2, rfl⟩
  | some fault => exact ⟨some fault, rfl⟩

end Connection

end CaptureLink
