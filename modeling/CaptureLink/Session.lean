import CaptureLink.AckTable
import CaptureLink.Delegate

/-
  A session with one client.  Each operation takes a session
  to the next one, says what happened on the way, and gives
  its answer; the names of new messages and the time come
  from outside.

  Key definitions include:
    * `Status`
    * `SessionState`
    * `Session`
    * `Session.Refusal`
    * `Session.Step`
    * `Session.start`
    * `Session.activate`
    * `Session.shutdown`
    * `Session.handle`
    * `Session.process`
    * `Session.sendWithAck`
    * `Session.pollTimeouts`
    * `Session.motionInfo`
-/

namespace CaptureLink

------------------------------------------------------------
-- State
------------------------------------------------------------

/- How far a session has come. -/
inductive Status where
/- There is no session. -/
| offline
/- The server has introduced itself. -/
| starting
/- The client has accepted. -/
| activated
deriving DecidableEq, Repr

/- The name of a status. -/
def Status.name : Status → String
| .offline => "offline"
| .starting => "starting"
| .activated => "activated"

/- What a session remembers of its client. -/
structure SessionState where
  status : Status
  camera : Option Camera
  mode : MotionMode
  transform : Transform
  profile : Option ClientProfile
deriving DecidableEq, Repr

/- Before anything has happened. -/
def SessionState.initial : SessionState where
  status := .offline
  camera := none
  mode := .off
  transform := .zero
  profile := none

/-
  A session: its state, the messages that wait for an
  acknowledgment, the state of the application behind it, and
  counters of messages and transforms.
-/
structure Session (σ κ : Type) where
  info : ServerInfo
  ackTimeout : Option Nat
  state : SessionState
  acks : AckTable κ
  host : σ
  received : Nat
  sent : Nat
  updates : Nat
  dropped : Nat

namespace Session

variable {σ κ : Type}

/- A session in which nothing has happened yet. -/
def new
    (info : ServerInfo)
    (ackTimeout : Option Nat)
    (host : σ) : Session σ κ where
  info := info
  ackTimeout := ackTimeout
  state := .initial
  acks := .empty
  host := host
  received := 0
  sent := 0
  updates := 0
  dropped := 0

/- The client may use cameras and motion. -/
def active (s : Session σ κ) : Bool :=
  s.state.status = .activated

------------------------------------------------------------
-- Refusals
------------------------------------------------------------

/- Why an operation is refused. -/
inductive Refusal where
/- The message has no payload. -/
| missingPayload
/- The session has been started already. -/
| alreadyStarted (status : Status)
/- The session has not been started. -/
| notStarted
/- The session has been activated already. -/
| alreadyActivated
/- The client speaks another version. -/
| versionMismatch (requested spoken : String)
/- An acknowledgment names no message. -/
| unnamedAcknowledgment
/- The message needs an activated session. -/
| notActive (kind : Kind) (status : Status)
/- There is no such camera. -/
| unknownCamera (id : String)
/- Only servers send messages of this kind. -/
| noHandler (kind : Kind)
/- The application failed when it was told. -/
| delegateFailed (fault : Fault)
deriving DecidableEq, Repr

namespace Refusal

/- A failure of the application, whatever it says it was. -/
def ofDelegate : Fault → Fault
| .delegate detail => .delegate detail
| fault => .delegate fault.message

/- A refusal as a fault. -/
def toFault : Refusal → Fault
| .missingPayload => .malformedMessage "message payload is missing"
| .alreadyStarted status =>
    .invalidMessage ("cannot start session while " ++ status.name)
| .notStarted =>
    .invalidMessage
      "session must be started before it can be activated"
| .alreadyActivated =>
    .invalidMessage "session is already activated"
| .versionMismatch requested spoken =>
    .versionNotSupported
      ("client requested " ++ requested ++ ", server speaks " ++
        spoken)
| .unnamedAcknowledgment =>
    .invalidMessage
      "acknowledgment does not name the message it acknowledges"
| .notActive kind status =>
    .sessionNotActive
      ("cannot process " ++ kind.name ++ " while session is " ++
        status.name)
| .unknownCamera id => .cameraNotFound id
| .noHandler kind =>
    .unhandledPayload ("no handler for " ++ kind.name ++ " messages")
| .delegateFailed fault => ofDelegate fault

end Refusal

------------------------------------------------------------
-- Steps
------------------------------------------------------------

/- What happens on the way. -/
inductive Event (κ : Type) where
/- The application was told something. -/
| notice (n : Notice)
/- Waiting for an acknowledgment ended. -/
| settled (s : Settlement κ)
deriving DecidableEq, Repr

/- The session after an operation, the events, and the answer. -/
structure Step (σ κ α : Type) where
  session : Session σ κ
  events : List (Event κ)
  result : α

/- An operation without events. -/
def Step.quiet
    {α : Type}
    (s : Session σ κ)
    (result : α) : Step σ κ α :=
  ⟨s, [], result⟩

/- Tell the application something. -/
def notify
    (d : Delegate σ)
    (n : Notice)
    (s : Session σ κ) : Step σ κ (Option Fault) :=
  let (host, fault) := d.notify n s.host
  ⟨{ s with host := host }, [.notice n], fault⟩

/- Tell the application something, and go on if it does not fail. -/
def announce
    {α : Type}
    (d : Delegate σ)
    (n : Notice)
    (s : Session σ κ)
    (result : α) : Step σ κ (Except Refusal α) :=
  let step := s.notify d n
  match step.result with
  | none => ⟨step.session, step.events, .ok result⟩
  | some fault =>
      ⟨step.session, step.events, .error (.delegateFailed fault)⟩

------------------------------------------------------------
-- The life of a session
------------------------------------------------------------

/- The server introduces itself, in the message named `fresh`. -/
def start
    (fresh : String)
    (s : Session σ κ) : Step σ κ (Except Refusal Envelope) :=
  match s.state.status with
  | .offline =>
      .quiet
        { s with state := { s.state with status := .starting } }
        (.ok (.fresh fresh (.sessionStart s.info)))
  | status => .quiet s (.error (.alreadyStarted status))

/- The client accepts; a client without a version speaks any. -/
def activate
    (d : Delegate σ)
    (profile : ClientProfile)
    (s : Session σ κ) : Step σ κ (Except Refusal Unit) :=
  match s.state.status with
  | .offline => .quiet s (.error .notStarted)
  | .activated => .quiet s (.error .alreadyActivated)
  | .starting =>
      if profile.apiVersion = "" ∨
          s.info.speaksWith profile.apiVersion then
        let state :=
          { s.state with
            status := .activated
            profile := some profile }
        ({ s with state := state }).announce d (.activated profile) ()
      else
        .quiet s
          (.error (.versionMismatch
            profile.apiVersion s.info.apiVersion))

/-
  End the session, if there is one.  The application is told
  first; then everything is as in the beginning.
-/
def shutdown
    (d : Delegate σ)
    (s : Session σ κ) : Step σ κ Unit :=
  match s.state.status with
  | .offline => .quiet s ()
  | _ =>
      let step := s.notify d .shutdown
      ⟨{ step.session with acks := .empty, state := .initial },
        step.events, ()⟩

------------------------------------------------------------
-- Messages from the client
------------------------------------------------------------

/- Count a message that leaves. -/
def countSent (s : Session σ κ) : Session σ κ :=
  { s with sent := s.sent + 1 }

/- Do something in an activated session only. -/
def whenActive
    {α : Type}
    (kind : Kind)
    (s : Session σ κ)
    (act : Step σ κ (Except Refusal α)) :
    Step σ κ (Except Refusal α) :=
  if s.active then act
  else .quiet s (.error (.notActive kind s.state.status))

/- The client picks a camera. -/
def pickCamera
    (d : Delegate σ)
    (camera : Camera)
    (reply : Envelope)
    (s : Session σ κ) :
    Step σ κ (Except Refusal (Option Envelope)) :=
  let state := { s.state with camera := some camera }
  ({ s with state := state }).announce d (.camera camera) (some reply)

/- The client asks for a mode. -/
def changeMode
    (d : Delegate σ)
    (requested : MotionMode)
    (reply : Envelope)
    (s : Session σ κ) :
    Step σ κ (Except Refusal (Option Envelope)) :=
  match s.state.mode.transition requested with
  | none => .quiet s (.ok (some reply))
  | some mode =>
      let state := { s.state with mode := mode }
      ({ s with state := state }).announce d (.mode mode) (some reply)

/- A transform arrives; only some modes take it. -/
def takeTransform
    (d : Delegate σ)
    (transform : Transform)
    (s : Session σ κ) :
    Step σ κ (Except Refusal (Option Envelope)) :=
  if s.state.mode.capturing then
    let state := { s.state with transform := transform }
    ({ s with state := state, updates := s.updates + 1 }).announce
      d (.motion transform) none
  else
    .quiet { s with dropped := s.dropped + 1 } (.ok none)

/- Deal with a payload.  An answer gets the name `fresh`. -/
def handle
    (d : Delegate σ)
    (fresh : String)
    (header : Header)
    (payload : Payload)
    (s : Session σ κ) :
    Step σ κ (Except Refusal (Option Envelope)) :=
  let reply := Envelope.reply fresh header.id
  match payload with
  | .sessionStart _ =>
      let step := s.start fresh
      ⟨step.session, step.events, step.result.map some⟩
  | .sessionActivate profile =>
      let step := s.activate d profile
      ⟨step.session, step.events, step.result.map fun _ => none⟩
  | .sessionShutdown =>
      let step := s.shutdown d
      ⟨step.session, step.events, .ok none⟩
  | .acknowledge =>
      match header.responseId with
      | none => .quiet s (.error .unnamedAcknowledgment)
      | some id =>
          let (acks, settled, _) := s.acks.acknowledge id
          ⟨{ s with acks := acks }, settled.map .settled, .ok none⟩
  | .error _ => .quiet s (.ok none)
  | .getCameraList =>
      s.whenActive .getCameraList
        (.quiet s (.ok (some (reply (.cameraList (d.cameras s.host))))))
  | .setActiveCamera id =>
      s.whenActive .setActiveCamera
        (match d.find? s.host id with
        | none => .quiet s (.error (.unknownCamera id))
        | some camera =>
            s.pickCamera d camera (reply (.activeCameraInfo camera)))
  | .motionSetMode mode =>
      s.whenActive .motionSetMode
        (s.changeMode d mode (reply .acknowledge))
  | .motionGetMode =>
      s.whenActive .motionGetMode
        (.quiet s (.ok (some (reply (.motionActiveMode s.state.mode)))))
  | .motionUpdate transform =>
      s.whenActive .motionUpdate (s.takeTransform d transform)
  | .cameraList _ => .quiet s (.error (.noHandler .cameraList))
  | .activeCameraInfo _ =>
      .quiet s (.error (.noHandler .activeCameraInfo))
  | .motionActiveMode _ =>
      .quiet s (.error (.noHandler .motionActiveMode))
  | .motionInfo _ _ => .quiet s (.error (.noHandler .motionInfo))

/- Report a refusal to the client; a fatal one ends the session. -/
def refuse
    (d : Delegate σ)
    (fresh : String)
    (header : Header)
    (refusal : Refusal)
    (s : Session σ κ) : Step σ κ Envelope :=
  let fault := refusal.toFault
  let report := Envelope.failure fresh (some header.id) fault.report
  let step := if fault.fatal then s.shutdown d else .quiet s ()
  ⟨step.session.countSent, step.events, report⟩

/- Deal with a message, and answer it at most once. -/
def process
    (d : Delegate σ)
    (fresh : String)
    (e : Envelope)
    (s : Session σ κ) : Step σ κ (Option Envelope) :=
  let s := { s with received := s.received + 1 }
  match e.payload with
  | none =>
      let step := s.refuse d fresh e.header .missingPayload
      ⟨step.session, step.events, some step.result⟩
  | some payload =>
      let step := s.handle d fresh e.header payload
      match step.result with
      | .ok none => ⟨step.session, step.events, none⟩
      | .ok (some reply) =>
          ⟨step.session.countSent, step.events, some reply⟩
      | .error refusal =>
          let refused :=
            step.session.refuse d fresh e.header refusal
          ⟨refused.session, step.events ++ refused.events,
            some refused.result⟩

------------------------------------------------------------
-- Messages from the server
------------------------------------------------------------

/-
  Send a payload and wait for its acknowledgment.  The clock
  has no bound here.  A real one cannot hold a deadline some
  2^63 seconds ahead, and to compute one ends the program:
  that end is left out.
-/
def sendWithAck
    (now : Nat)
    (fresh : String)
    (payload : Payload)
    (label : Option κ)
    (s : Session σ κ) : Session σ κ × Envelope :=
  let record : AckRecord κ :=
    ⟨fresh, s.ackTimeout.map (now + ·), label⟩
  ( ({ s with acks := s.acks.expect record }).countSent,
    .fresh fresh payload )

/- Give up on acknowledgments whose deadline is over. -/
def pollTimeouts
    (now : Nat)
    (s : Session σ κ) : Step σ κ Nat :=
  let (acks, settled, count) := s.acks.expire now
  ⟨{ s with acks := acks }, settled.map .settled, count⟩

/- Report mode and transform. -/
def motionInfo
    (fresh : String)
    (s : Session σ κ) : Session σ κ × Envelope :=
  ( s.countSent,
    .fresh fresh (.motionInfo s.state.mode s.state.transform) )

end Session

end CaptureLink
