import CaptureLink.Config

/-
  Commands and their options as they are written on a command
  line.  An option has a long name and perhaps a letter; its
  value follows it, or is attached to it.

  Key definitions include:
    * `CommandLine.Command`
    * `CommandLine.Request`
    * `CommandLine.OptionSpec`
    * `CommandLine.Given`
    * `CommandLine.scan`
    * `CommandLine.Request.ofArguments`
-/

namespace CaptureLink

namespace CommandLine

------------------------------------------------------------
-- Commands
------------------------------------------------------------

/- What may be said about a server on the command line. -/
structure ServeOptions where
  config : Option String
  host : Option String
  port : Option UInt16
  bindAll : Bool
  cameras : List String
  once : Bool
  initiate : Bool
deriving DecidableEq, Repr

/- Where a text comes from and where the result goes. -/
structure Transfer where
  input : Option String
  file : Option String
  output : Option String
deriving DecidableEq, Repr

/- What the program can be told to do. -/
inductive Command where
/- Serve clients. -/
| serve (options : ServeOptions)
/- Write the frame of an envelope. -/
| encode (transfer : Transfer)
/- Read a frame and write its envelope. -/
| decode (transfer : Transfer) (pretty : Bool)
/- Write the configuration in force. -/
| config (file : Option String)
deriving DecidableEq, Repr

/- What a command line asks for. -/
inductive Request where
| run (command : Command)
| version
| help
/- The command line breaks the rules. -/
| misuse
deriving DecidableEq, Repr

------------------------------------------------------------
-- Options
------------------------------------------------------------

/- What follows an option. -/
inductive Takes where
| nothing
| text
/- The name of a file, which is not empty. -/
| path
/- The number of a port. -/
| port
deriving DecidableEq, Repr

/- An option; some may be given several times. -/
structure OptionSpec where
  name : String
  letter : Option Char
  takes : Takes
  repeats : Bool
deriving DecidableEq, Repr

/- The options and other arguments that were given, in order. -/
structure Given where
  options : List (String × String)
  inputs : List String
deriving DecidableEq, Repr

/- Why reading a command line ends early. -/
inductive Stop where
| misuse
| help
| version
deriving DecidableEq, Repr

/- The options of a command, and how many other arguments it takes. -/
structure Rules where
  options : List OptionSpec
  inputs : Nat

/- The port that a text names. -/
def port? (s : String) : Option UInt16 :=
  match s.toList with
  | '-' :: ds =>
      if !ds.isEmpty && ds.all (· = '0') then some 0 else none
  | _ => (Config.number? 65536 s).map UInt16.ofNat

/- A value that an option can take. -/
def Takes.admits (takes : Takes) (value : String) : Bool :=
  match takes with
  | .nothing => false
  | .text => true
  | .path => value ≠ ""
  | .port => (port? value).isSome

namespace Given

/- Nothing was given. -/
def empty : Given :=
  ⟨[], []⟩

/- The values of an option. -/
def valuesOf (g : Given) (name : String) : List String :=
  (g.options.filter (·.1 = name)).map (·.2)

/- The value of an option that is given once at most. -/
def value? (g : Given) (name : String) : Option String :=
  (g.valuesOf name).head?

/- The option was given. -/
def has (g : Given) (name : String) : Bool :=
  !(g.valuesOf name).isEmpty

/- An option is given with a value. -/
def withOption
    (g : Given)
    (spec : OptionSpec)
    (value : String) : Except Stop Given :=
  if g.has spec.name && !spec.repeats then
    .error .misuse
  else if spec.takes = .nothing || spec.takes.admits value then
    .ok { g with options := g.options ++ [(spec.name, value)] }
  else
    .error .misuse

/- Another argument is given. -/
def withInput
    (g : Given)
    (rules : Rules)
    (value : String) : Except Stop Given :=
  if g.inputs.length < rules.inputs then
    .ok { g with inputs := g.inputs ++ [value] }
  else
    .error .misuse

/- Only arguments that are no options follow. -/
def withInputs
    (g : Given)
    (rules : Rules)
    (values : List String) : Except Stop Given :=
  values.foldlM (fun g value => g.withInput rules value) g

end Given

/- A text that is read as an option or as the end of options. -/
def looksLikeOption (argument : String) : Bool :=
  match argument.toList with
  | '-' :: _ :: _ => true
  | _ => false

/- What reading one argument leads to. -/
inductive Reading where
/- The argument is complete. -/
| done (g : Given)
/- The value of an option has to follow. -/
| awaits (g : Given) (spec : OptionSpec)

/- A long option, behind its hyphens. -/
def longOption
    (rules : Rules)
    (g : Given)
    (body : List Char) : Except Stop Reading :=
  let name := String.ofList (body.takeWhile (· ≠ '='))
  match body.dropWhile (· ≠ '=') with
  | [] =>
      if name = "help" then .error .help
      else
        match rules.options.find? (·.name = name) with
        | none => .error .misuse
        | some spec =>
            if spec.takes = .nothing then
              (g.withOption spec "").map .done
            else
              .ok (.awaits g spec)
  | _ :: value =>
      match rules.options.find? (·.name = name) with
      | none => .error .misuse
      | some spec =>
          if spec.takes = .nothing then .error .misuse
          else (g.withOption spec (String.ofList value)).map .done

/- Letters of options in one argument, behind its hyphen. -/
def letterOptions
    (rules : Rules)
    (g : Given) :
    List Char → Except Stop Reading
| [] => .ok (.done g)
| letter :: rest =>
    if letter = 'h' then .error .help
    else
      match rules.options.find? (·.letter = some letter) with
      | none => .error .misuse
      | some spec =>
          if spec.takes = .nothing then
            match g.withOption spec "" with
            | .ok g => letterOptions rules g rest
            | .error stop => .error stop
          else
            match rest with
            | [] => .ok (.awaits g spec)
            | '=' :: value =>
                (g.withOption spec (String.ofList value)).map .done
            | value =>
                (g.withOption spec (String.ofList value)).map .done

/- Read the arguments of a command. -/
def scan
    (rules : Rules)
    (g : Given) :
    List String → Except Stop Given
| [] => .ok g
| argument :: rest =>
    let read : Except Stop Reading :=
      match argument.toList with
      | '-' :: '-' :: body => longOption rules g body
      | '-' :: letter :: letters =>
          letterOptions rules g (letter :: letters)
      | _ => (g.withInput rules argument).map .done
    if argument = "--" then
      g.withInputs rules rest
    else
      match read with
      | .error stop => .error stop
      | .ok (.done g) => scan rules g rest
      | .ok (.awaits g spec) =>
          match rest with
          | [] => .error .misuse
          | value :: rest =>
              if looksLikeOption value then .error .misuse
              else
                match g.withOption spec value with
                | .ok g => scan rules g rest
                | .error stop => .error stop

------------------------------------------------------------
-- The options of each command
------------------------------------------------------------

/- An option that names a file. -/
def fileOption (name : String) (letter : Char) : OptionSpec :=
  ⟨name, some letter, .path, false⟩

/- An option without a value. -/
def switch (name : String) : OptionSpec :=
  ⟨name, none, .nothing, false⟩

/- The rules for serving. -/
def serveRules : Rules where
  options :=
    [ fileOption "config" 'c',
      ⟨"host", none, .text, false⟩,
      ⟨"port", some 'p', .port, false⟩,
      switch "bind-all",
      ⟨"camera", none, .text, true⟩,
      switch "once",
      switch "initiate",
      ⟨"log-level", none, .text, false⟩,
      switch "json-logs" ]
  inputs := 0

/- The rules for writing frames. -/
def encodeRules : Rules where
  options := [fileOption "file" 'f', fileOption "output" 'o']
  inputs := 1

/- The rules for reading frames. -/
def decodeRules : Rules where
  options :=
    [fileOption "file" 'f', fileOption "output" 'o', switch "pretty"]
  inputs := 1

/- The rules for the configuration. -/
def configRules : Rules where
  options := [fileOption "config" 'c']
  inputs := 0

namespace Given

/- What was said about a server. -/
def serveOptions (g : Given) : ServeOptions where
  config := g.value? "config"
  host := g.value? "host"
  port := (g.value? "port").bind port?
  bindAll := g.has "bind-all"
  cameras := g.valuesOf "camera"
  once := g.has "once"
  initiate := g.has "initiate"

/- What was said about a text and its result. -/
def transfer (g : Given) : Transfer where
  input := g.inputs.head?
  file := g.value? "file"
  output := g.value? "output"

end Given

------------------------------------------------------------
-- Whole command lines
------------------------------------------------------------

namespace Request

/- What is asked for when reading the arguments ends early. -/
def ofStop : Stop → Request
| .misuse => .misuse
| .help => .help
| .version => .version

/- The command that its arguments make. -/
def ofGiven
    (rules : Rules)
    (arguments : List String)
    (command : Given → Command) : Request :=
  match scan rules .empty arguments with
  | .ok g => .run (command g)
  | .error stop => ofStop stop

/- The names that help can be asked for. -/
def topics : List String :=
  ["serve", "encode", "decode", "config", "help"]

/- What a call for help asks for; it has one topic at most. -/
def ofTopics : List String → Request
| [] => .help
| [topic] => if topic ∈ topics then .help else .misuse
| _ => .misuse

/- What letters in front of all commands ask for. -/
def ofLetters : List Char → Request
| 'h' :: _ => .help
| 'V' :: _ => .version
| _ => .misuse

/- What a command line asks for. -/
def ofArguments : List String → Request
| "serve" :: arguments =>
    ofGiven serveRules arguments fun g => .serve g.serveOptions
| "encode" :: arguments =>
    ofGiven encodeRules arguments fun g => .encode g.transfer
| "decode" :: arguments =>
    ofGiven decodeRules arguments fun g =>
      .decode g.transfer (g.has "pretty")
| "config" :: arguments =>
    ofGiven configRules arguments fun g => .config (g.value? "config")
| "help" :: names => ofTopics names
| "--help" :: _ => .help
| "--version" :: _ => .version
| argument :: _ =>
    match argument.toList with
    | '-' :: letters => ofLetters letters
    | _ => .misuse
| [] => .misuse

end Request

end CommandLine

end CaptureLink
