import CaptureLink.Config
import CaptureLink.Toml.Layout

/-
  Configurations as TOML.  Writing gives every setting;
  reading knows a default for each, and passes over what it
  does not know.  Sections may also be given as arrays, with
  their settings in order.

  Key definitions include:
    * `Config.ofToml?`
    * `Config.toToml?`
    * `Config.printed?`
-/

namespace CaptureLink

open Toml (Value Entries)

------------------------------------------------------------
-- Reading values
------------------------------------------------------------

namespace Toml

namespace Value

/- The text that a value is. -/
def text? : Value → Option String
| .string s => some s
| _ => none

/- The truth value that a value is. -/
def bool? : Value → Option Bool
| .bool b => some b
| _ => none

/- The number that a value is, if it lies below a bound. -/
def natural?
    (bound : Nat) :
    Value → Option Nat
| .integer n =>
    if 0 ≤ n ∧ n < bound then some n.toNat else none
| _ => none

/- The texts in an array. -/
def texts? : Value → Option (List String)
| .array items => items.mapM text?
| .collection [] => some []
| _ => none

/- Nothing is in the value, which is a table or an array. -/
def isHollow : Value → Bool
| .array items => items.isEmpty
| .collection elements => elements.isEmpty
| .inline _ entries => entries.isEmpty
| .table _ entries => entries.isEmpty
| _ => false

/- A name that a value is, or that is its only key without anything in it. -/
def name? : Value → Option String
| .string s => some s
| .inline _ [(key, value)] =>
    if value.isHollow then some key else none
| .table _ [(key, value)] =>
    if value.isHollow then some key else none
| _ => none

/- The fields with the given names, by name or by place. -/
def fields?
    (names : List String) :
    Value → Option (List (Option Value))
| .inline _ entries => some (names.map (Entries.find? entries))
| .table _ entries => some (names.map (Entries.find? entries))
| .array items =>
    some ((List.range names.length).map fun i => items[i]?)
| .collection elements =>
    some ((List.range names.length).map fun i =>
      elements[i]?.map (.table .header))
| .moment => some (names.map fun _ => none)
| _ => none

end Value

/- A field with a default. -/
def withDefault
    {α : Type}
    (default : α)
    (read : Value → Option α) :
    Option Value → Option α
| some value => read value
| none => some default

end Toml

------------------------------------------------------------
-- Reading configurations
------------------------------------------------------------

open Toml (withDefault)

/- A policy by its exact name. -/
def DisconnectPolicy.ofToml? (v : Value) : Option DisconnectPolicy :=
  v.name?.bind DisconnectPolicy.ofName?

/- The listener. -/
def ServerSection.ofToml? (v : Value) : Option ServerSection := do
  let d := ServerSection.standard
  match ← v.fields?
      [ "host", "port", "disconnect_behavior",
        "initiate_handshake", "max_frame_size" ] with
  | [host, port, policy, initiate, size] =>
      let host ← withDefault d.host Value.text? host
      let port ←
        withDefault d.port.toNat (Value.natural? UInt16.size) port
      let policy ←
        withDefault d.policy DisconnectPolicy.ofToml? policy
      let initiate ← withDefault d.initiate Value.bool? initiate
      let size ←
        withDefault d.maxFrameSize.toNat
          (Value.natural? UInt64.size) size
      some
        ⟨host, UInt16.ofNat port, policy, initiate, UInt64.ofNat size⟩
  | _ => none

/- The sessions. -/
def SessionSection.ofToml? (v : Value) : Option SessionSection := do
  let d := SessionSection.standard
  match ← v.fields?
      [ "ack_timeout_secs", "ack_poll_interval_ms", "api_version",
        "features" ] with
  | [secs, interval, version, features] =>
      let secs ←
        withDefault d.ackTimeoutSecs.toNat
          (Value.natural? UInt64.size) secs
      let interval ←
        withDefault d.ackPollIntervalMs.toNat
          (Value.natural? UInt64.size) interval
      let version ← withDefault d.apiVersion Value.text? version
      let features ←
        withDefault d.features.toNat (Value.natural? UInt32.size)
          features
      some
        ⟨UInt64.ofNat secs, UInt64.ofNat interval, version,
          UInt32.ofNat features⟩
  | _ => none

/- The cameras of the scene. -/
def Config.camerasOfToml? (v : Value) : Option (List String) := do
  match ← v.fields? ["cameras"] with
  | [cameras] => withDefault [] Value.texts? cameras
  | _ => none

/- The configuration in the entries of a document. -/
def Config.ofEntries? (entries : Entries) : Option Config := do
  let d := Config.standard
  let server ←
    withDefault d.server ServerSection.ofToml?
      (entries.find? "server")
  let session ←
    withDefault d.session SessionSection.ofToml?
      (entries.find? "session")
  let cameras ←
    withDefault d.cameras Config.camerasOfToml?
      (entries.find? "scene")
  some ⟨server, session, cameras⟩

/- The configuration that a text spells. -/
def Config.ofToml? (text : String) : Option Config :=
  (Toml.ofChars? text.toList).bind Config.ofEntries?

------------------------------------------------------------
-- Writing configurations
------------------------------------------------------------

/- The listener under its header. -/
def ServerSection.toToml? (s : ServerSection) : Option (List Char) := do
  let port ← Toml.integerText? s.port.toNat
  let size ← Toml.integerText? s.maxFrameSize.toNat
  some (Toml.tableText "server"
    [ Toml.line "host" (Toml.stringText s.host),
      Toml.line "port" port,
      Toml.line "disconnect_behavior" (Toml.stringText s.policy.name),
      Toml.line "initiate_handshake" (Toml.boolText s.initiate),
      Toml.line "max_frame_size" size ])

/- The sessions under their header. -/
def SessionSection.toToml?
    (s : SessionSection) : Option (List Char) := do
  let secs ← Toml.integerText? s.ackTimeoutSecs.toNat
  let interval ← Toml.integerText? s.ackPollIntervalMs.toNat
  let features ← Toml.integerText? s.features.toNat
  some (Toml.tableText "session"
    [ Toml.line "ack_timeout_secs" secs,
      Toml.line "ack_poll_interval_ms" interval,
      Toml.line "api_version" (Toml.stringText s.apiVersion),
      Toml.line "features" features ])

/- The scene under its header. -/
def Config.sceneToToml (cameras : List String) : List Char :=
  Toml.tableText "scene"
    [Toml.line "cameras" (Toml.arrayText cameras)]

/-
  The text of a configuration, with empty lines between its
  tables.  There is none if a number is too great for TOML.
-/
def Config.toToml? (c : Config) : Option (List Char) := do
  let server ← c.server.toToml?
  let session ← c.session.toToml?
  some (server ++ ('\n' :: (session ++
    ('\n' :: Config.sceneToToml c.cameras))))

/- The text of a configuration without blanks at its end. -/
def Config.printed? (c : Config) : Option (List Char) :=
  c.toToml?.map Text.trimEnd

end CaptureLink
