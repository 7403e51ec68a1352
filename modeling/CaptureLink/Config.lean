import CaptureLink.ServerSettings
import CaptureLink.Text.Quoted

/-
  The configuration of a server as its owner writes it.  Each
  layer says something about some settings; where a layer
  differs from the defaults, it overrides the layers in front.

  Key definitions include:
    * `Config`
    * `Config.standard`
    * `Config.merge`
    * `Config.Environment`
    * `Config.ofEnvironment`
    * `Config.listenAddress`
    * `Config.serverSettings`
    * `Config.defaultPath?`
-/

namespace CaptureLink

------------------------------------------------------------
-- Configurations
------------------------------------------------------------

/- Where and how a server listens. -/
structure ServerSection where
  host : String
  port : UInt16
  policy : DisconnectPolicy
  initiate : Bool
  maxFrameSize : UInt64
deriving DecidableEq, Repr

/- How sessions are held. -/
structure SessionSection where
  /- Zero seconds mean that deadlines do not exist. -/
  ackTimeoutSecs : UInt64
  ackPollIntervalMs : UInt64
  apiVersion : String
  features : UInt32
deriving DecidableEq, Repr

/- A configuration with the cameras of the scene. -/
structure Config where
  server : ServerSection
  session : SessionSection
  cameras : List String
deriving DecidableEq, Repr

/- The defaults of the listener. -/
def ServerSection.standard : ServerSection where
  host := "127.0.0.1"
  port := defaultPort
  policy := .restartAlways
  initiate := false
  maxFrameSize := UInt64.ofNat Frame.defaultLimit

/- The defaults of sessions. -/
def SessionSection.standard : SessionSection where
  ackTimeoutSecs := 5
  ackPollIntervalMs := 250
  apiVersion := CaptureLink.apiVersion
  features := 0

namespace Config

/- What holds unless something else is said. -/
def standard : Config :=
  ⟨.standard, .standard, []⟩

------------------------------------------------------------
-- Layers
------------------------------------------------------------

/- The second of two values, unless it is the default. -/
def pick
    {α : Type}
    [DecidableEq α]
    (default first second : α) : α :=
  if second = default then first else second

/- The listener of two layers. -/
def mergeServer (a b : ServerSection) : ServerSection :=
  let d := ServerSection.standard
  { host := pick d.host a.host b.host
    port := pick d.port a.port b.port
    policy := pick d.policy a.policy b.policy
    initiate := a.initiate || b.initiate
    maxFrameSize := pick d.maxFrameSize a.maxFrameSize b.maxFrameSize }

/- The sessions of two layers; features add up. -/
def mergeSession (a b : SessionSection) : SessionSection :=
  let d := SessionSection.standard
  { ackTimeoutSecs :=
      pick d.ackTimeoutSecs a.ackTimeoutSecs b.ackTimeoutSecs
    ackPollIntervalMs :=
      pick d.ackPollIntervalMs a.ackPollIntervalMs b.ackPollIntervalMs
    apiVersion := pick d.apiVersion a.apiVersion b.apiVersion
    features := a.features ||| b.features }

/- Two layers, the second over the first. -/
def merge (a b : Config) : Config where
  server := mergeServer a.server b.server
  session := mergeSession a.session b.session
  cameras := pick [] a.cameras b.cameras

------------------------------------------------------------
-- The environment
------------------------------------------------------------

/- The variables of the environment that matter. -/
structure Environment where
  host : Option String
  port : Option String
  ackTimeoutSecs : Option String
deriving DecidableEq, Repr

/- A number below `bound` in decimal; a plus sign may stand in front. -/
def number?
    (bound : Nat)
    (s : String) : Option Nat :=
  let ds :=
    match s.toList with
    | '+' :: ds => ds
    | ds => ds
  if ds.isEmpty then none
  else do
    let n := Text.spelled 10 (← ds.mapM Text.digit?)
    if n < bound then some n else none

/- A variable that spells a number; another one counts as unset. -/
def numberOr
    (bound default : Nat)
    (value : Option String) : Nat :=
  ((value.bind (number? bound))).getD default

/- What the environment says. -/
def ofEnvironment (env : Environment) : Config :=
  let d := standard
  let port := numberOr UInt16.size d.server.port.toNat env.port
  let secs :=
    numberOr UInt64.size d.session.ackTimeoutSecs.toNat
      env.ackTimeoutSecs
  { d with
    server :=
      { d.server with
        host := env.host.getD d.server.host
        port := UInt16.ofNat port }
    session :=
      { d.session with ackTimeoutSecs := UInt64.ofNat secs } }

------------------------------------------------------------
-- What follows from a configuration
------------------------------------------------------------

/- Host and port as one text. -/
def listenAddress (c : Config) : String :=
  c.server.host ++ ":" ++ c.server.port.toNat.repr

/- The settings of the server, if its host is an address. -/
def serverSettings (c : Config) : Except Fault ServerSettings :=
  match Net.IpAddress.ofText? c.server.host with
  | none =>
      .error (.config
        ("invalid host " ++ Text.quoted c.server.host ++
          ": invalid IP address syntax"))
  | some ip =>
      let secs := c.session.ackTimeoutSecs.toNat
      .ok
        { address := .of ip c.server.port
          policy := c.server.policy
          ackTimeout := if secs = 0 then none else some (secs * 1000)
          pollInterval := max c.session.ackPollIntervalMs.toNat 1
          maxFrameSize := c.server.maxFrameSize
          initiate := c.server.initiate
          info := ⟨c.session.apiVersion, ⟨c.session.features⟩⟩ }

------------------------------------------------------------
-- Where configurations are kept
------------------------------------------------------------

/- A name inside a directory. -/
def join (directory name : String) : String :=
  if directory = "" ∨ directory.endsWith "/" then
    directory ++ name
  else
    directory ++ "/" ++ name

/-
  The directory for configurations: the one that was named,
  if its name is absolute, else the usual one at home.  The
  user may say where that is, or else the system may know.
-/
def directory?
    (known home xdg : Option String) : Option String :=
  match xdg.filter (·.startsWith "/") with
  | some named => some named
  | none =>
      let home := (home.filter (· ≠ "")).or known
      home.map (join · ".config")

/- The file in which a configuration is looked for, if any. -/
def defaultPath?
    (known home xdg : Option String) : Option String :=
  (directory? known home xdg).map fun directory =>
    join (join directory "mocap") "config.toml"

end Config

end CaptureLink
