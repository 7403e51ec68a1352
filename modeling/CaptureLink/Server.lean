import CaptureLink.Connection
import CaptureLink.ServerSettings

/-
  A server deals with one client after the other.  Each gets
  an application and a session of its own, and what the
  policy says decides whether there is a next one.

  Key definitions include:
    * `Server`
    * `Server.Reach`
    * `Server.Visit`
    * `Server.sessionFor`
    * `Server.visit`
    * `Server.serve`
-/

namespace CaptureLink

/- A server: its settings, its application, and what the application starts from. -/
structure Server (σ : Type) where
  settings : ServerSettings
  delegate : Delegate σ
  fresh : σ
  /- What is said about frames that give no message. -/
  words : Diagnosis
  /- Report mode and transform to every client that connects. -/
  reportsMotion : Bool

namespace Server

variable {σ κ : Type}

/- Whether clients get through to the server. -/
inductive Reach where
| reachable
/- They do not, for some reason that the network gives. -/
| unreachable (reason : String)
deriving DecidableEq, Repr

/- The fault that a client meets when it does not get through. -/
def connectFault (address reason : String) : Fault :=
  .network
    ("Failed to connect to " ++ address ++ ": " ++ reason)

/- What became of a client. -/
inductive Visit (σ κ : Type) where
/- It did not get through. -/
| turnedAway (reason : String)
/- It was served to the end of its stream. -/
| served (connection : Connection σ κ (List UInt8))

/- The session of a client. -/
def sessionFor (server : Server σ) : Session σ κ :=
  .new server.settings.info server.settings.ackTimeout server.fresh

/- The longest body of a frame. -/
def limit (server : Server σ) : Nat :=
  server.settings.maxFrameSize.toNat

/- What a connection to the server needs from outside. -/
def setting
    (server : Server σ)
    (name : Nat → String) :
    Connection.Setting σ (List UInt8) :=
  ⟨server.delegate, .framed server.limit, server.words, name⟩

/- Serve one client that sends pieces of a stream and then nothing more. -/
def visit
    (server : Server σ)
    (name : Nat → String)
    (issued : Nat)
    (pieces : List (List UInt8)) :
    Connection σ κ (List UInt8) :=
  let setting := server.setting name
  let c :=
    Connection.establish setting server.settings.initiate issued
      server.sessionFor
  let c :=
    if server.reportsMotion then c.take setting .motionInfo else c
  c.serveStream setting server.limit pieces

/- Serve clients one after the other, as long as the policy says so. -/
def serve
    (server : Server σ)
    (name : Nat → String)
    (reach : Reach) :
    Nat → List (List (List UInt8)) → List (Visit σ κ)
| _, [] => []
| issued, pieces :: clients =>
    match reach with
    | .unreachable reason =>
        .turnedAway reason :: serve server name reach issued clients
    | .reachable =>
        let c := server.visit name issued pieces
        .served c ::
          match server.settings.policy with
          | .terminate => []
          | .restartAlways =>
              serve server name reach c.issued clients

end Server

end CaptureLink
