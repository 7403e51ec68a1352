import CaptureLink.CommandLine.Options
import CaptureLink.Config.File
import CaptureLink.Frame

/-
  What the program does.  It reads and writes by way of a
  machine, which may be the real one or one in memory.

  Key definitions include:
    * `CommandLine.Machine`
    * `CommandLine.Failure`
    * `CommandLine.Outcome`
    * `CommandLine.frameOf`
    * `CommandLine.envelopeOf`
    * `CommandLine.loadConfig`
    * `CommandLine.run`
-/

namespace CaptureLink

namespace CommandLine

------------------------------------------------------------
-- Machines
------------------------------------------------------------

/- What the program can do on its surroundings. -/
structure Machine (m : Type → Type) where
  read : String → m (Except FileProblem (List UInt8))
  write : String → List UInt8 → m (Except FileProblem Unit)
  present : String → m Bool
  /- Everything on standard input. -/
  input : m (List UInt8)
  /- The value of a variable of the environment. -/
  setting : String → m (Option String)
  /- The home of the user, as far as the system knows. -/
  home : m (Option String)
  /- What is said about texts that cannot be read. -/
  words : Diagnosis
  /- Serve clients until told to stop, if that can be begun. -/
  listen : ServerSettings → List Camera → m (Except Fault Unit)

/- Why the program fails. -/
inductive Failure where
| fault (f : Fault)
| file (problem : FileProblem)
/- The text to write as a frame is no envelope. -/
| invalidEnvelope (detail : String)
/- The configuration has a number that TOML cannot hold. -/
| numberTooGreat
deriving DecidableEq, Repr

/- A failure in words. -/
def Failure.message : Failure → String
| .fault f => f.message
| .file problem => problem.message
| .invalidEnvelope detail => "Invalid envelope JSON: " ++ detail
| .numberTooGreat => "out-of-range value for u64 type"

/- What is left when the program has ended. -/
structure Outcome where
  code : UInt8
  output : String
  errors : String
deriving DecidableEq, Repr

namespace Outcome

/- The program has done its work and printed something. -/
def printed (text : String) : Outcome :=
  ⟨0, text, ""⟩

/- The program has failed. -/
def failed (f : Failure) : Outcome :=
  ⟨1, "", "Error: " ++ f.message ++ "\n"⟩

end Outcome

------------------------------------------------------------
-- Texts of frames and envelopes
------------------------------------------------------------

/- The frame, as text, of the envelope that a text spells. -/
def frameOf
    (words : Diagnosis)
    (content : String) : Except Failure String :=
  let text := Text.trim content.toList
  match Envelope.ofJson? text with
  | none => .error (.invalidEnvelope (words.noEnvelope text))
  | some e =>
      (Frame.encodeText Frame.defaultLimit e).mapError
        fun defect => .fault (defect.toFault words)

/- The envelope, as text, of the frame that a text spells. -/
def envelopeOf
    (words : Diagnosis)
    (pretty : Bool)
    (content : String) : Except Failure String :=
  match Frame.decodeText Frame.defaultLimit content with
  | .error defect => .error (.fault (defect.toFault words))
  | .ok e => .ok (if pretty then e.toPrettyJson else e.toJson)

/- The text of a configuration. -/
def configText (c : Config) : Except Failure String :=
  match c.printed? with
  | some text => .ok (String.ofList text)
  | none => .error .numberTooGreat

/- A configuration with what the command line says. -/
def ServeOptions.apply
    (o : ServeOptions)
    (c : Config) : Config where
  server :=
    { c.server with
      host := if o.bindAll then "0.0.0.0" else o.host.getD c.server.host
      port := o.port.getD c.server.port
      policy := if o.once then .terminate else c.server.policy
      initiate := o.initiate || c.server.initiate }
  session := c.session
  cameras := if o.cameras.isEmpty then c.cameras else o.cameras

------------------------------------------------------------
-- Commands on a machine
------------------------------------------------------------

section Commands

variable {m : Type → Type} [Monad m] (machine : Machine m)

/- Something that can fail. -/
abbrev Task (m : Type → Type) := ExceptT Failure m

/- What the environment says about the configuration. -/
def environment : Task m Config.Environment := do
  let host ← machine.setting "MOCAP_HOST"
  let port ← machine.setting "MOCAP_PORT"
  let secs ← machine.setting "MOCAP_ACK_TIMEOUT_SECS"
  return ⟨host, port, secs⟩

/- The configuration in a file. -/
def configFile (name : String) : Task m Config := do
  let content ← machine.read name
  match Config.ofFile machine.words name content with
  | .ok config => return config
  | .error f => throw (.fault f)

/-
  The configuration in force: that of the file that is named,
  or else of the usual file if it exists, and the environment
  over it.
-/
def loadConfig (named : Option String) : Task m Config := do
  let file : Config ←
    match named with
    | some name => configFile machine name
    | none => do
        let home ← machine.setting "HOME"
        let xdg ← machine.setting "XDG_CONFIG_HOME"
        let known ← machine.home
        match Config.defaultPath? known home xdg with
        | none => pure Config.standard
        | some usual =>
            if ← machine.present usual then
              configFile machine usual
            else
              pure Config.standard
  return file.effective (← environment machine)

/- A text, wherever it comes from. -/
def readText (t : Transfer) : Task m String := do
  let text (content : List UInt8) : Task m String :=
    match FileProblem.textOf content with
    | .ok text => pure text
    | .error problem => throw (.file problem)
  match t.file with
  | some name =>
      match ← machine.read name with
      | .ok content => text content
      | .error problem => throw (.file problem)
  | none =>
      match t.input.filter (· ≠ "-") with
      | some given => return given
      | none => text (← machine.input)

/- Write a result to a file, or print it on a line of its own. -/
def writeText
    (output : Option String)
    (text : String) : Task m Outcome := do
  match output with
  | none => return .printed (text ++ "\n")
  | some name =>
      match ← machine.write name (Text.bytes text) with
      | .ok () => return .printed ""
      | .error problem => throw (.file problem)

/- Do what a command says. -/
def execute : Command → Task m Outcome
| .serve options => do
    let config ← loadConfig machine options.config
    let config := options.apply config
    match config.serverSettings with
    | .error f => throw (.fault f)
    | .ok settings =>
        match ← machine.listen settings (config.cameras.map Camera.mk) with
        | .ok () => return .printed ""
        | .error f => throw (.fault f)
| .encode transfer => do
    let content ← readText machine transfer
    let text ← liftExcept (frameOf machine.words content)
    writeText machine transfer.output text
| .decode transfer pretty => do
    let content ← readText machine transfer
    let text ←
      liftExcept (envelopeOf machine.words pretty content)
    writeText machine transfer.output text
| .config file => do
    let config ← loadConfig machine file
    let text ← liftExcept (configText config)
    writeText machine none text
where
  /- A result that may be a failure. -/
  liftExcept {α : Type} : Except Failure α → Task m α
  | .ok a => pure a
  | .error f => throw f

/- The version of the program. -/
def version : String := "0.1.0"

/- How the program is used. -/
def usage : String :=
  "Usage: mocap <serve|encode|decode|config> [OPTIONS]\n"

/- Do what the arguments of the program say. -/
def run (arguments : List String) : m Outcome :=
  match Request.ofArguments arguments with
  | .misuse => pure ⟨2, "", usage⟩
  | .help => pure (.printed usage)
  | .version => pure (.printed ("mocap " ++ version ++ "\n"))
  | .run command => do
      match ← (execute machine command).run with
      | .ok outcome => return outcome
      | .error failure => return .failed failure

end Commands

/- What is done on a machine in memory is done first. -/
theorem run_liftM_bind
    {α β : Type}
    (action : Id α)
    (task : α → Task Id β) :
    ((liftM action : Task Id α) >>= task).run =
      (task action).run :=
  rfl

end CommandLine

end CaptureLink
