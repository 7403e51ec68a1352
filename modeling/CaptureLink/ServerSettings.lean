import CaptureLink.Capability
import CaptureLink.Fault
import CaptureLink.Frame
import CaptureLink.Net.Address

/-
  What a running server has to know.

  Key definitions include:
    * `DisconnectPolicy`
    * `DisconnectPolicy.ofText?`
    * `ServerSettings`
    * `ServerSettings.standard`
-/

namespace CaptureLink

------------------------------------------------------------
-- After a client
------------------------------------------------------------

/- What a server does when its client has gone. -/
inductive DisconnectPolicy where
/- It waits for the next one. -/
| restartAlways
/- It stops. -/
| terminate
deriving DecidableEq, Repr

namespace DisconnectPolicy

/- The name of a policy. -/
def name : DisconnectPolicy → String
| .restartAlways => "restart_always"
| .terminate => "terminate"

/- The policy with a given name. -/
def ofName? : String → Option DisconnectPolicy
| "restart_always" => some .restartAlways
| "terminate" => some .terminate
| _ => none

/- A text as names are spelled: small letters and no hyphens. -/
def normalized (text : String) : String :=
  text.toLower.map fun c => if c = '-' then '_' else c

/-
  The policy a user means.  Letters may be of either case,
  hyphens stand for underscores, and restarting has a short
  name.
-/
def ofText? (text : String) : Except Fault DisconnectPolicy :=
  match normalized text with
  | "restart" => .ok .restartAlways
  | name =>
      match ofName? name with
      | some policy => .ok policy
      | none =>
          .error (.config ("unknown disconnect behavior: " ++ name))

end DisconnectPolicy

------------------------------------------------------------
-- Settings
------------------------------------------------------------

/- The settings of a server, with times in milliseconds. -/
structure ServerSettings where
  address : Net.SocketAddress
  policy : DisconnectPolicy
  /- How long to wait for acknowledgments; without it, forever. -/
  ackTimeout : Option Nat
  /- The time between two looks at the deadlines. -/
  pollInterval : Nat
  /- The longest body of a frame. -/
  maxFrameSize : UInt64
  /- The server introduces itself to every client. -/
  initiate : Bool
  info : ServerInfo
deriving DecidableEq

/- The port on which clients expect a server. -/
def defaultPort : UInt16 := 7766

namespace ServerSettings

/- What holds unless something else is said. -/
def standard : ServerSettings where
  address := .v4 .loopback defaultPort
  policy := .restartAlways
  ackTimeout := some 5000
  pollInterval := 250
  maxFrameSize := UInt64.ofNat Frame.defaultLimit
  initiate := false
  info := .standard

/- Another port. -/
def withPort
    (s : ServerSettings)
    (port : UInt16) : ServerSettings :=
  { s with address := s.address.withPort port }

/- All addresses of the machine. -/
def bindAll (s : ServerSettings) : ServerSettings :=
  { s with address := .v4 .anywhere s.address.port }

/- Other features. -/
def withFeatures
    (s : ServerSettings)
    (features : FeatureSet) : ServerSettings :=
  { s with info := { s.info with features := features } }

end ServerSettings

end CaptureLink
