import CaptureLink.Frame.Receiver
import CaptureLink.Session

/-
  A connection drives one session.  What arrives is dealt
  with one after the other: messages of the peer, frames that
  give no message, requests of the server's own program, and
  ticks of the clock.  When nothing arrives any more, the
  session is shut down.

  Key definitions include:
    * `Arrival`
    * `Port`
    * `Connection`
    * `Connection.establish`
    * `Connection.take`
    * `Connection.takeAll`
    * `Connection.Report`
    * `Connection.close`
    * `Arrival.ofStream`
-/

namespace CaptureLink

------------------------------------------------------------
-- What arrives and what leaves
------------------------------------------------------------

/- What a connection deals with. -/
inductive Arrival (κ : Type) where
/- A message of the peer. -/
| envelope (e : Envelope)
/- A frame without a message. -/
| undecodable (defect : Frame.Defect)
/- A message of the server that waits for an acknowledgment. -/
| sendWithAck (now : Nat) (payload : Payload) (label : Option κ)
/- A report of mode and transform. -/
| motionInfo
/- The clock ticks. -/
| tick (now : Nat)

/- How messages leave: as units of some kind, if they can. -/
structure Port (β : Type) where
  carry : Envelope → Except Frame.Defect β

namespace Port

/- Messages leave as they are. -/
def direct : Port Envelope :=
  ⟨.ok⟩

/- Messages leave as frames. -/
def framed (limit : Nat) : Port (List UInt8) :=
  ⟨Frame.encode limit⟩

end Port

------------------------------------------------------------
-- Connections
------------------------------------------------------------

/-
  A running connection: its session, the number of messages
  sent so far, the units in which they left, what happened,
  and the fault that broke the connection, if one did.
-/
structure Connection (σ κ β : Type) where
  session : Session σ κ
  issued : Nat
  outgoing : List β
  events : List (Session.Event κ)
  broken : Option Fault

namespace Connection

variable {σ κ β : Type}

/- What a connection needs from outside. -/
structure Setting (σ β : Type) where
  delegate : Delegate σ
  port : Port β
  /- What is said about frames that give no message. -/
  words : Diagnosis
  /- The name of each message of the server, counted from one. -/
  name : Nat → String

/- The name of the next message. -/
def nextName
    (c : Connection σ κ β)
    (setting : Setting σ β) : String :=
  setting.name (c.issued + 1)

/- Go on with another session, in which something has happened. -/
def proceed
    (c : Connection σ κ β)
    (session : Session σ κ)
    (events : List (Session.Event κ)) : Connection σ κ β :=
  { c with session := session, events := c.events ++ events }

/- Send a message; one that cannot leave breaks the connection. -/
def send
    (c : Connection σ κ β)
    (setting : Setting σ β)
    (e : Envelope) : Connection σ κ β :=
  match setting.port.carry e with
  | .ok unit =>
      { c with
        issued := c.issued + 1
        outgoing := c.outgoing ++ [unit] }
  | .error defect =>
      { c with broken := some (defect.toFault setting.words) }

/- Send a message if there is one. -/
def sendSome
    (c : Connection σ κ β)
    (setting : Setting σ β) :
    Option Envelope → Connection σ κ β
| none => c
| some e => c.send setting e

/-
  Establish a connection, after some messages of earlier ones.
  The server may introduce itself unasked.
-/
def establish
    (setting : Setting σ β)
    (initiate : Bool)
    (issued : Nat)
    (session : Session σ κ) : Connection σ κ β :=
  let c : Connection σ κ β := ⟨session, issued, [], [], none⟩
  if initiate then
    let step := session.start (c.nextName setting)
    match step.result with
    | .ok e => (c.proceed step.session step.events).send setting e
    | .error refusal => { c with broken := some refusal.toFault }
  else
    c

/- Deal with what arrives, unless the connection is broken. -/
def take
    (setting : Setting σ β)
    (c : Connection σ κ β)
    (arrival : Arrival κ) : Connection σ κ β :=
  if c.broken.isSome then c
  else
    let fresh := c.nextName setting
    match arrival with
    | .envelope e =>
        let step := c.session.process setting.delegate fresh e
        (c.proceed step.session step.events).sendSome setting
          step.result
    | .undecodable defect =>
        let fault := defect.toFault setting.words
        if fault.recoverable then
          c.send setting (.failure fresh none fault.report)
        else
          { c with broken := some fault }
    | .sendWithAck now payload label =>
        let (session, e) :=
          c.session.sendWithAck now fresh payload label
        (c.proceed session []).send setting e
    | .motionInfo =>
        let (session, e) := c.session.motionInfo fresh
        (c.proceed session []).send setting e
    | .tick now =>
        let step := c.session.pollTimeouts now
        c.proceed step.session step.events

/- Deal with everything that arrives. -/
def takeAll
    (setting : Setting σ β)
    (c : Connection σ κ β)
    (arrivals : List (Arrival κ)) : Connection σ κ β :=
  arrivals.foldl (take setting) c

------------------------------------------------------------
-- The end
------------------------------------------------------------

/- What is known of a session at its end. -/
structure Report where
  status : Status
  received : Nat
  sent : Nat
  updates : Nat
  dropped : Nat
  pending : Nat
deriving DecidableEq, Repr

/- The report on a session as it is. -/
def Report.ofSession (s : Session σ κ) : Report where
  status := s.state.status
  received := s.received
  sent := s.sent
  updates := s.updates
  dropped := s.dropped
  pending := s.acks.size

/- Nothing arrives any more: shut the session down. -/
def close
    (setting : Setting σ β)
    (c : Connection σ κ β) : Connection σ κ β :=
  let step := c.session.shutdown setting.delegate
  c.proceed step.session step.events

/- How a closed connection ended. -/
def outcome (c : Connection σ κ β) : Except Fault Report :=
  match c.broken with
  | some fault => .error fault
  | none => .ok (.ofSession c.session)

/- The fault of a request to a closed connection. -/
def closedFault : Fault :=
  .network "connection closed"

end Connection

------------------------------------------------------------
-- Byte streams
------------------------------------------------------------

/- What a stream gives, frame by frame. -/
def Arrival.ofResult
    {κ : Type} :
    Except Frame.Defect Envelope → Arrival κ
| .ok e => .envelope e
| .error defect => .undecodable defect

/-
  What arrives when pieces of a stream do, and the fault with
  which the stream ends, unless it ends between two frames.
-/
def Arrival.ofStream
    {κ : Type}
    (limit : Nat)
    (pieces : List (List UInt8)) :
    List (Arrival κ) × Option Fault :=
  let harvest := (Frame.Receiver.empty limit).feed pieces
  let arrivals := harvest.results.map Arrival.ofResult
  match harvest.halted with
  | some defect => (arrivals ++ [.undecodable defect], none)
  | none => (arrivals, harvest.receiver.ending)

/- Serve one byte stream to its end. -/
def Connection.serveStream
    {σ κ : Type}
    (setting : Connection.Setting σ (List UInt8))
    (limit : Nat)
    (pieces : List (List UInt8))
    (c : Connection σ κ (List UInt8)) :
    Connection σ κ (List UInt8) :=
  let (arrivals, ending) := Arrival.ofStream limit pieces
  let c := c.takeAll setting arrivals
  let c := if c.broken.isSome then c else { c with broken := ending }
  c.close setting

end CaptureLink
