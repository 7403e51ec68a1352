import CaptureLink.CommandLine

/-
  The configuration in force, setting by setting.  What a
  variable of the environment says holds if it differs from
  the default.  Otherwise the file decides, and where the file
  says nothing, the default holds.

  Main statements:
    * `Config.Setting`
    * `Config.get_effective_of_said`
    * `Config.get_effective_of_unsaid`
    * `Config.withDefault_given?`
    * `CommandLine.run_loadConfig`
    * `CommandLine.loadConfig_layered`
-/

namespace CaptureLink

open Toml (Value Entries withDefault)

namespace Config

------------------------------------------------------------
-- Settings
------------------------------------------------------------

/- The settings of a configuration. -/
inductive Setting where
| host
| port
| policy
| initiate
| maxFrameSize
| ackTimeoutSecs
| ackPollIntervalMs
| apiVersion
| features
| cameras
deriving DecidableEq, Repr

/- What a setting can be set to. -/
abbrev Setting.Choice : Setting → Type
| host => String
| port => UInt16
| policy => DisconnectPolicy
| initiate => Bool
| maxFrameSize => UInt64
| ackTimeoutSecs => UInt64
| ackPollIntervalMs => UInt64
| apiVersion => String
| features => UInt32
| cameras => List String

/- What it is set to in a configuration. -/
def get (c : Config) : (setting : Setting) → setting.Choice
| .host => c.server.host
| .port => c.server.port
| .policy => c.server.policy
| .initiate => c.server.initiate
| .maxFrameSize => c.server.maxFrameSize
| .ackTimeoutSecs => c.session.ackTimeoutSecs
| .ackPollIntervalMs => c.session.ackPollIntervalMs
| .apiVersion => c.session.apiVersion
| .features => c.session.features
| .cameras => c.cameras

/- The sections of a file. -/
inductive Section where
| server
| session
| scene
deriving DecidableEq, Repr

/- The name of a section. -/
def Section.name : Section → String
| server => "server"
| session => "session"
| scene => "scene"

/- The names of its settings in order. -/
def Section.fields : Section → List String
| server =>
    [ "host", "port", "disconnect_behavior",
      "initiate_handshake", "max_frame_size" ]
| session =>
    [ "ack_timeout_secs", "ack_poll_interval_ms", "api_version",
      "features" ]
| scene => ["cameras"]

namespace Setting

/- The section of a setting. -/
def home : Setting → Section
| host => .server
| port => .server
| policy => .server
| initiate => .server
| maxFrameSize => .server
| ackTimeoutSecs => .session
| ackPollIntervalMs => .session
| apiVersion => .session
| features => .session
| cameras => .scene

/- Its name there. -/
def name : Setting → String
| host => "host"
| port => "port"
| policy => "disconnect_behavior"
| initiate => "initiate_handshake"
| maxFrameSize => "max_frame_size"
| ackTimeoutSecs => "ack_timeout_secs"
| ackPollIntervalMs => "ack_poll_interval_ms"
| apiVersion => "api_version"
| features => "features"
| cameras => "cameras"

/- What a value of a file sets it to. -/
def read? : (setting : Setting) → Value → Option setting.Choice
| host, v => v.text?
| port, v => (v.natural? UInt16.size).map UInt16.ofNat
| policy, v => DisconnectPolicy.ofToml? v
| initiate, v => v.bool?
| maxFrameSize, v => (v.natural? UInt64.size).map UInt64.ofNat
| ackTimeoutSecs, v => (v.natural? UInt64.size).map UInt64.ofNat
| ackPollIntervalMs, v => (v.natural? UInt64.size).map UInt64.ofNat
| apiVersion, v => v.text?
| features, v => (v.natural? UInt32.size).map UInt32.ofNat
| cameras, v => v.texts?

/- What a section says about a setting, if it says anything. -/
def within?
    (setting : Setting)
    (table : Value) : Option Value :=
  (table.fields? setting.home.fields).bind fun values =>
    ((setting.home.fields.zip values).lookup setting.name).join

end Setting

/- What a file says about a setting, if it says anything. -/
def given?
    (entries : Entries)
    (setting : Setting) : Option Value :=
  (entries.find? setting.home.name).bind setting.within?

------------------------------------------------------------
-- Files
------------------------------------------------------------

/- What is made of a field with a default. -/
theorem map_withDefault
    {α β : Type}
    {default a : α}
    {read : Value → Option α}
    {value : Option Value}
    (f : α → β)
    (hRead : withDefault default read value = some a) :
    withDefault (f default) (fun v => (read v).map f) value =
      some (f a) := by
  cases value with
  | none =>
      cases hRead
      rfl
  | some v =>
      change (read v).map f = some (f a)
      rw [show read v = some a from hRead, Option.map_some]

/- A section sets its settings as it says, or to the default. -/
def Sets
    (table : Option Value)
    (c : Config)
    (setting : Setting) : Prop :=
  withDefault (standard.get setting) setting.read?
    (table.bind setting.within?) = some (c.get setting)

section Sections

variable {table : Option Value}
variable {setting : Setting}

/- This holds of the section of the listener. -/
theorem sets_server
    {c : Config}
    (hRead :
      withDefault ServerSection.standard ServerSection.ofToml?
        table = some c.server)
    (hHome : setting.home = .server) :
    Sets table c setting := by
  obtain ⟨server, session, cameras⟩ := c
  cases table with
  | none =>
      cases hRead
      cases setting with
      | host => rfl
      | port => rfl
      | policy => rfl
      | initiate => rfl
      | maxFrameSize => rfl
      | _ => cases hHome
  | some v =>
      change ServerSection.ofToml? v = some server at hRead
      simp only [ServerSection.ofToml?, Option.bind_eq_bind,
        Option.bind_eq_some_iff] at hRead
      rcases hRead with ⟨values, hFields, hRead⟩
      split at hRead
      · rename_i host port policy initiate size
        simp only [Option.bind_eq_some_iff, Option.some.injEq]
          at hRead
        rcases hRead with
          ⟨host', hHost, port', hPort, policy', hPolicy,
            initiate', hInitiate, size', hSize, rfl⟩
        have hValues :
            v.fields? setting.home.fields =
              some [host, port, policy, initiate, size] := by
          rw [hHome]
          exact hFields
        rw [Sets, Option.bind_some, Setting.within?, hValues]
        cases setting with
        | host => exact hHost
        | port => exact map_withDefault UInt16.ofNat hPort
        | policy => exact hPolicy
        | initiate => exact hInitiate
        | maxFrameSize => exact map_withDefault UInt64.ofNat hSize
        | _ => cases hHome
      · cases hRead

/- It holds of the section of sessions. -/
theorem sets_session
    {c : Config}
    (hRead :
      withDefault SessionSection.standard SessionSection.ofToml?
        table = some c.session)
    (hHome : setting.home = .session) :
    Sets table c setting := by
  obtain ⟨server, session, cameras⟩ := c
  cases table with
  | none =>
      cases hRead
      cases setting with
      | ackTimeoutSecs => rfl
      | ackPollIntervalMs => rfl
      | apiVersion => rfl
      | features => rfl
      | _ => cases hHome
  | some v =>
      change SessionSection.ofToml? v = some session at hRead
      simp only [SessionSection.ofToml?, Option.bind_eq_bind,
        Option.bind_eq_some_iff] at hRead
      rcases hRead with ⟨values, hFields, hRead⟩
      split at hRead
      · rename_i secs interval version features
        simp only [Option.bind_eq_some_iff, Option.some.injEq]
          at hRead
        rcases hRead with
          ⟨secs', hSecs, interval', hInterval, version',
            hVersion, features', hFeatures, rfl⟩
        have hValues :
            v.fields? setting.home.fields =
              some [secs, interval, version, features] := by
          rw [hHome]
          exact hFields
        rw [Sets, Option.bind_some, Setting.within?, hValues]
        cases setting with
        | ackTimeoutSecs =>
            exact map_withDefault UInt64.ofNat hSecs
        | ackPollIntervalMs =>
            exact map_withDefault UInt64.ofNat hInterval
        | apiVersion => exact hVersion
        | features => exact map_withDefault UInt32.ofNat hFeatures
        | _ => cases hHome
      · cases hRead

/- It holds of the section of the scene. -/
theorem sets_scene
    {c : Config}
    (hRead :
      withDefault [] camerasOfToml? table = some c.cameras) :
    Sets table c .cameras := by
  obtain ⟨server, session, cameras⟩ := c
  cases table with
  | none =>
      cases hRead
      rfl
  | some v =>
      change camerasOfToml? v = some cameras at hRead
      simp only [camerasOfToml?, Option.bind_eq_bind,
        Option.bind_eq_some_iff] at hRead
      rcases hRead with ⟨values, hFields, hRead⟩
      split at hRead
      · rename_i cameras
        have hValues :
            v.fields? Setting.cameras.home.fields =
              some [cameras] := hFields
        rw [Sets, Option.bind_some, Setting.within?, hValues]
        exact hRead
      · cases hRead

end Sections

/-
  What a file says about a setting is read and holds in its
  configuration.  Where it says nothing, the default holds.
-/
theorem withDefault_given?
    {entries : Entries}
    {c : Config}
    (hRead : ofEntries? entries = some c)
    (setting : Setting) :
    withDefault (standard.get setting) setting.read?
      (given? entries setting) = some (c.get setting) := by
  simp only [ofEntries?, Option.bind_eq_bind,
    Option.bind_eq_some_iff, Option.some.injEq] at hRead
  rcases hRead with
    ⟨server, hServer, session, hSession, cameras, hCameras, rfl⟩
  cases hHome : setting.home with
  | server =>
      rw [given?, hHome]
      exact sets_server hServer hHome
  | session =>
      rw [given?, hHome]
      exact sets_session hSession hHome
  | scene =>
      cases setting with
      | cameras => exact sets_scene hCameras
      | _ => cases hHome

------------------------------------------------------------
-- The environment
------------------------------------------------------------

/-
  What the environment says about a setting: the host as it
  is, and a number if the variable spells one that is small
  enough.
-/
def Environment.choice?
    (env : Environment) :
    (setting : Setting) → Option setting.Choice
| .host => env.host
| .port =>
    (env.port.bind (number? UInt16.size)).map UInt16.ofNat
| .ackTimeoutSecs =>
    (env.ackTimeoutSecs.bind (number? UInt64.size)).map
      UInt64.ofNat
| _ => none

/- Nothing, or nothing but the default, is said about a setting. -/
def Environment.Leaves
    (env : Environment)
    (setting : Setting) : Prop :=
  ∀ choice,
    env.choice? setting = some choice →
      choice = standard.get setting

/- What is not said in the environment is as by default there. -/
theorem get_ofEnvironment
    (env : Environment)
    (setting : Setting) :
    (ofEnvironment env).get setting =
      (env.choice? setting).getD (standard.get setting) := by
  cases setting with
  | port =>
      simp only [get, ofEnvironment, numberOr, Environment.choice?]
      cases env.port.bind (number? UInt16.size) with
      | none => exact UInt16.ofNat_toNat
      | some n => rfl
  | ackTimeoutSecs =>
      simp only [get, ofEnvironment, numberOr, Environment.choice?]
      cases env.ackTimeoutSecs.bind (number? UInt64.size) with
      | none => exact UInt64.ofNat_toNat
      | some n => rfl
  | _ => rfl

------------------------------------------------------------
-- Layers
------------------------------------------------------------

/- A default leaves the first of two values. -/
theorem pick_default
    {α : Type}
    [DecidableEq α]
    (default first : α) : pick default first default = first := by
  rw [pick, if_pos rfl]

/- Another value replaces it. -/
theorem pick_of_ne
    {α : Type}
    [DecidableEq α]
    {default second : α}
    (first : α)
    (hOther : second ≠ default) :
    pick default first second = second := by
  rw [pick, if_neg hOther]

/- A layer leaves the settings that it has by default. -/
theorem get_merge_of_standard
    (a : Config)
    {b : Config}
    {setting : Setting}
    (hStandard : b.get setting = standard.get setting) :
    (a.merge b).get setting = a.get setting := by
  cases setting with
  | initiate =>
      have hOff : b.server.initiate = false := hStandard
      simp only [get, merge, mergeServer, hOff, Bool.or_false]
  | features =>
      have hNone : b.session.features = 0 := hStandard
      simp only [get, merge, mergeSession, hNone]
      exact UInt32.or_zero
  | _ =>
      simp only [get] at hStandard
      simp only [get, merge, mergeServer, mergeSession, hStandard]
      exact pick_default _ _

/- It replaces the others, but for features, which add up. -/
theorem get_merge_of_other
    (a : Config)
    {b : Config}
    {setting : Setting}
    (hOther : b.get setting ≠ standard.get setting)
    (hSingle : setting ≠ .features) :
    (a.merge b).get setting = b.get setting := by
  cases setting with
  | initiate =>
      have hOn : b.server.initiate = true := by
        rw [← Bool.not_eq_false]
        exact hOther
      simp only [get, merge, mergeServer, hOn, Bool.or_true]
  | features => exact absurd rfl hSingle
  | _ => exact pick_of_ne _ hOther

/- What the environment says holds, unless it is the default. -/
theorem get_effective_of_said
    (file : Config)
    {env : Environment}
    {setting : Setting}
    {choice : setting.Choice}
    (hSaid : env.choice? setting = some choice)
    (hOther : choice ≠ standard.get setting) :
    (file.effective env).get setting = choice := by
  have hGet : (ofEnvironment env).get setting = choice := by
    rw [get_ofEnvironment, hSaid, Option.getD_some]
  have hSingle : setting ≠ .features := by
    rintro rfl
    cases hSaid
  rw [effective, get_merge_of_other file (hGet ▸ hOther) hSingle,
    hGet]

/- All other settings are those of the file. -/
theorem get_effective_of_unsaid
    (file : Config)
    {env : Environment}
    {setting : Setting}
    (hLeaves : env.Leaves setting) :
    (file.effective env).get setting = file.get setting := by
  apply get_merge_of_standard
  rw [get_ofEnvironment]
  cases hSaid : env.choice? setting with
  | none => rfl
  | some choice => exact hLeaves choice hSaid

/- A file gives a configuration if it can be read so far. -/
theorem ofFile_eq_ok_iff
    (words : Diagnosis)
    (name : String)
    (content : Except FileProblem (List UInt8))
    (c : Config) :
    ofFile words name content = .ok c ↔
      ∃ bytes text entries,
        content = .ok bytes ∧
          Text.ofBytes? bytes = some text ∧
            Toml.ofChars? text.toList = some entries ∧
              ofEntries? entries = some c := by
  cases content with
  | error problem =>
      constructor
      · intro hOk
        cases hOk
      · rintro ⟨_, _, _, hOk, _⟩
        cases hOk
  | ok bytes =>
      have hContent :
          Except.ok bytes >>= FileProblem.textOf =
            FileProblem.textOf bytes := rfl
      rw [ofFile, hContent, FileProblem.textOf]
      cases hText : Text.ofBytes? bytes with
      | none => simp [hText]
      | some text =>
          cases hEntries : Toml.ofChars? text.toList with
          | none => simp [hText, ofToml?, hEntries]
          | some entries =>
              cases hFile : ofEntries? entries with
              | none => simp [hText, ofToml?, hEntries, hFile]
              | some c' => simp [hText, ofToml?, hEntries, hFile]

/- A configuration is what its settings are. -/
theorem eq_of_get
    {c c' : Config}
    (hGet : ∀ setting, c.get setting = c'.get setting) :
    c = c' := by
  obtain ⟨⟨⟩, ⟨⟩, cameras⟩ := c
  obtain ⟨⟨⟩, ⟨⟩, cameras'⟩ := c'
  have hHost := hGet .host
  have hPort := hGet .port
  have hPolicy := hGet .policy
  have hInitiate := hGet .initiate
  have hSize := hGet .maxFrameSize
  have hSecs := hGet .ackTimeoutSecs
  have hInterval := hGet .ackPollIntervalMs
  have hVersion := hGet .apiVersion
  have hFeatures := hGet .features
  have hCameras := hGet .cameras
  simp only [get] at *
  subst_vars
  rfl

/-
  What the environment says about a setting holds in the
  configuration, if it is not the default.  All other settings
  are as the file says, or as by default where it says
  nothing.
-/
structure Layered
    (entries : Entries)
    (env : Environment)
    (c : Config) : Prop where
  said :
    ∀ setting choice,
      env.choice? setting = some choice →
      choice ≠ standard.get setting →
        c.get setting = choice
  unsaid :
    ∀ setting,
      env.Leaves setting →
        withDefault (standard.get setting) setting.read?
          (given? entries setting) = some (c.get setting)

/- This is what the environment over a file amounts to. -/
theorem layered_effective
    {entries : Entries}
    {file : Config}
    (hFile : ofEntries? entries = some file)
    (env : Environment) :
    Layered entries env (file.effective env) where
  said := by
    intro setting choice hSaid hOther
    exact get_effective_of_said file hSaid hOther
  unsaid := by
    intro setting hLeaves
    rw [get_effective_of_unsaid file hLeaves]
    exact withDefault_given? hFile setting

/- There is only one such configuration. -/
theorem Layered.unique
    {entries : Entries}
    {env : Environment}
    {c c' : Config}
    (hLayered : Layered entries env c)
    (hLayered' : Layered entries env c') : c = c' := by
  apply eq_of_get
  intro setting
  by_cases hLeaves : env.Leaves setting
  · have hGet := hLayered.unsaid setting hLeaves
    rw [hLayered'.unsaid setting hLeaves] at hGet
    exact (Option.some.inj hGet).symm
  · simp only [Environment.Leaves, Classical.not_forall]
      at hLeaves
    rcases hLeaves with ⟨choice, hSaid, hOther⟩
    rw [hLayered.said setting choice hSaid hOther,
      hLayered'.said setting choice hSaid hOther]

end Config

------------------------------------------------------------
-- Loading
------------------------------------------------------------

namespace CommandLine

open Config (Layered)

/- What a machine's environment says about the configuration. -/
def Machine.environment
    (machine : Machine Id) : Config.Environment where
  host := machine.setting "MOCAP_HOST"
  port := machine.setting "MOCAP_PORT"
  ackTimeoutSecs := machine.setting "MOCAP_ACK_TIMEOUT_SECS"

/- The file in which a machine's user keeps a configuration. -/
def Machine.usual? (machine : Machine Id) : Option String :=
  Config.defaultPath? machine.home (machine.setting "HOME")
    (machine.setting "XDG_CONFIG_HOME")

/- The file that is read: a named one, or the usual one if it exists. -/
def Machine.file?
    (machine : Machine Id)
    (named : Option String) : Option String :=
  match named with
  | some name => some name
  | none =>
      machine.usual?.filter fun usual =>
        (machine.present usual).run

/- The configuration without the environment. -/
def Machine.base
    (machine : Machine Id)
    (named : Option String) : Except Failure Config :=
  match machine.file? named with
  | none => .ok .standard
  | some name =>
      (Config.ofFile machine.words name (machine.read name)).mapError
        .fault

/- A configuration from somewhere, and the environment over it. -/
def overlaid
    (machine : Machine Id)
    (task : Task Id Config) : Task Id Config := do
  let file ← task
  return file.effective (← CommandLine.environment machine)

section Machines

variable (machine : Machine Id)

/- The environment does not fail. -/
theorem run_overlaid (task : Task Id Config) :
    (overlaid machine task).run =
      task.run.map (·.effective machine.environment) := by
  have hRun :
      ∀ result : Except Failure Config,
        (overlaid machine (.mk result)).run =
          result.map (·.effective machine.environment) := by
    intro result
    cases result with
    | ok file => rfl
    | error failure => rfl
  exact hRun task.run

/- A file is read, or the reason is told why it cannot be. -/
theorem run_configFile (name : String) :
    (configFile machine name).run =
      (Config.ofFile machine.words name
        (machine.read name)).mapError Failure.fault := by
  refine (run_liftM_bind (machine.read name) _).trans ?_
  cases Config.ofFile machine.words name (machine.read name) with
  | ok config => rfl
  | error f => rfl

/- Loading is reading the file, and the environment over it. -/
theorem run_loadConfig (named : Option String) :
    (loadConfig machine named).run =
      (machine.base named).map
        (·.effective machine.environment) := by
  cases named with
  | some name =>
      have hTask :
          loadConfig machine (some name) =
            overlaid machine (configFile machine name) := rfl
      rw [hTask, run_overlaid, run_configFile]
      rfl
  | none =>
      have hTask :
          loadConfig machine none =
            match machine.usual? with
            | none => overlaid machine (pure .standard)
            | some usual =>
                if (machine.present usual).run then
                  overlaid machine (configFile machine usual)
                else
                  overlaid machine (pure .standard) := rfl
      rw [hTask, Machine.base]
      cases hUsual : machine.usual? with
      | none =>
          have hFile : machine.file? none = none := by
            rw [Machine.file?, hUsual]
            rfl
          rw [hFile]
          exact run_overlaid machine (pure .standard)
      | some usual =>
          have hFile :
              machine.file? none =
                if (machine.present usual).run then some usual
                else none := by
            rw [Machine.file?, hUsual]
            rfl
          rw [hFile]
          by_cases hPresent : (machine.present usual).run = true
          · rw [if_pos hPresent]
            simp only [if_pos hPresent, run_overlaid,
              run_configFile]
          · rw [if_neg hPresent]
            simp only [if_neg hPresent, run_overlaid]
            rfl

end Machines

/- The entries of the file that is read, or none if there is none. -/
inductive Machine.Holds
    (machine : Machine Id)
    (named : Option String) : Toml.Entries → Prop where
| nothing
    (hNone : machine.file? named = none) :
    Holds machine named []
| file
    {name text : String}
    {content : List UInt8}
    {entries : Toml.Entries}
    (hName : machine.file? named = some name)
    (hRead : machine.read name = .ok content)
    (hText : Text.ofBytes? content = some text)
    (hEntries : Toml.ofChars? text.toList = some entries) :
    Holds machine named entries

/- A failure in other words is a failure. -/
theorem mapError_eq_ok_iff
    {result : Except Fault Config}
    {c : Config} :
    result.mapError Failure.fault = .ok c ↔ result = .ok c := by
  cases result with
  | ok c' =>
      constructor
      · intro hOk
        cases hOk
        rfl
      · intro hOk
        cases hOk
        rfl
  | error f =>
      constructor
      · intro hOk
        cases hOk
      · intro hOk
        cases hOk

/- Reading gives a configuration exactly if the entries do. -/
theorem base_eq_ok_iff
    (machine : Machine Id)
    (named : Option String)
    (c : Config) :
    machine.base named = .ok c ↔
      ∃ entries,
        machine.Holds named entries ∧
          Config.ofEntries? entries = some c := by
  cases hName : machine.file? named with
  | none =>
      rw [Machine.base, hName]
      constructor
      · intro hBase
        cases hBase
        exact ⟨[], .nothing hName, rfl⟩
      · rintro ⟨entries, hHolds, hEntries⟩
        cases hHolds with
        | nothing hNone =>
            cases hEntries
            rfl
        | file hSome =>
            rw [hName] at hSome
            cases hSome
  | some name =>
      have hBase :
          machine.base named =
            (Config.ofFile machine.words name
              (machine.read name)).mapError Failure.fault := by
        rw [Machine.base, hName]
      rw [hBase, mapError_eq_ok_iff, Config.ofFile_eq_ok_iff]
      constructor
      · rintro
          ⟨content, text, entries, hRead, hText, hParsed,
            hEntries⟩
        exact ⟨entries, .file hName hRead hText hParsed,
          hEntries⟩
      · rintro ⟨entries, hHolds, hEntries⟩
        cases hHolds with
        | nothing hNone =>
            rw [hName] at hNone
            cases hNone
        | file hSome hRead hText hParsed =>
            rw [hName] at hSome
            cases hSome
            exact ⟨_, _, entries, hRead, hText, hParsed,
              hEntries⟩

/- What is loaded is what is read, and the environment over it. -/
theorem loadConfig_eq_ok_iff
    (machine : Machine Id)
    (named : Option String)
    (c : Config) :
    (loadConfig machine named).run = .ok c ↔
      ∃ file,
        machine.base named = .ok file ∧
          file.effective machine.environment = c := by
  rw [run_loadConfig]
  cases machine.base named with
  | ok file =>
      constructor
      · intro hOk
        exact ⟨file, rfl, Except.ok.inj hOk⟩
      · rintro ⟨file', hBase, rfl⟩
        cases hBase
        rfl
  | error failure =>
      constructor
      · intro hOk
        cases hOk
      · rintro ⟨_, hOk, _⟩
        cases hOk

/-
  A configuration is loaded exactly if there is one in the
  file, or there is no file, and then it is this one with the
  environment over it, setting by setting.
-/
theorem loadConfig_layered
    (machine : Machine Id)
    (named : Option String)
    (c : Config) :
    (loadConfig machine named).run = .ok c ↔
      ∃ entries,
        machine.Holds named entries ∧
          (Config.ofEntries? entries).isSome = true ∧
            Layered entries machine.environment c := by
  rw [loadConfig_eq_ok_iff]
  constructor
  · rintro ⟨file, hBase, rfl⟩
    rcases (base_eq_ok_iff machine named file).mp hBase with
      ⟨entries, hHolds, hFile⟩
    refine ⟨entries, hHolds, ?_, ?_⟩
    · rw [hFile]
      rfl
    · exact Config.layered_effective hFile _
  · rintro ⟨entries, hHolds, hSome, hLayered⟩
    rcases Option.isSome_iff_exists.mp hSome with ⟨file, hFile⟩
    refine ⟨file, ?_, ?_⟩
    · exact (base_eq_ok_iff machine named file).mpr
        ⟨entries, hHolds, hFile⟩
    · exact (Config.layered_effective hFile _).unique hLayered

/- A file that sets the port. -/
def portFile : String := "[server]\nport = 9000\n"

/- There is this file, and a variable with the default port. -/
def defaultPortMachine : Machine Id where
  read := fun _ => .ok (Text.bytes portFile)
  write := fun _ _ => .ok ()
  present := fun _ => false
  input := []
  setting := fun name =>
    if name = "MOCAP_PORT" then some "7766" else none
  home := none
  words := .constant ""
  listen := fun _ _ => .ok ()

/- The variable does not override the file. -/
theorem loadConfig_default_port :
    let loaded :=
      (loadConfig defaultPortMachine (some "c.toml")).run
    defaultPortMachine.environment.port = some "7766" ∧
      Config.number? UInt16.size "7766" = some 7766 ∧
        ∃ c,
          loaded = .ok c ∧
            c.server.port = 9000 ∧ c.server.port ≠ 7766 := by
  intro loaded
  let file : Config :=
    ⟨{ ServerSection.standard with port := 9000 }, .standard, []⟩
  have hFile :
      Config.ofFile defaultPortMachine.words "c.toml"
          (.ok (Text.bytes portFile)) =
        .ok file :=
    (Config.ofFile_eq_ok_iff ..).mpr
      ⟨_, portFile, _, rfl, Text.ofBytes?_bytes portFile, rfl,
        rfl⟩
  have hBase :
      defaultPortMachine.base (some "c.toml") = .ok file :=
    mapError_eq_ok_iff.mpr hFile
  have hLoaded :
      loaded =
        .ok (file.effective defaultPortMachine.environment) := by
    refine (run_loadConfig ..).trans ?_
    rw [hBase]
    rfl
  exact ⟨rfl, rfl, _, hLoaded, rfl, by decide⟩

end CommandLine

end CaptureLink
