import CaptureLink.Proofs.Config.Layering
import CaptureLink.Proofs.Text.Blank
import CaptureLink.Proofs.Toml.Tables

/-
  Printed configurations, read back.  Whatever texts are in a
  configuration, its printed form is a document of three
  tables, and as a file this is the same configuration again.

  Main statements:
    * `Config.Fits`
    * `Config.toToml?_eq`
    * `Config.ofEntries?_tables`
    * `Config.printed?_eq`
    * `Config.ofToml?_lines`
    * `CommandLine.printed_config_read_back`
-/

namespace CaptureLink

open Toml (Entries Field Line Table Value withDefault)

------------------------------------------------------------
-- Settings
------------------------------------------------------------

/- Where there is a value, the default does not matter. -/
theorem Toml.withDefault_some
    {α : Type}
    (default : α)
    (read : Value → Option α)
    (v : Value) : withDefault default read (some v) = read v := rfl

/- A number below a bound is read as it is. -/
theorem Toml.withDefault_natural
    {n bound : Nat}
    (default : Nat)
    (hBound : n < bound) :
    withDefault default (Value.natural? bound)
      (some (.integer n)) = some n := by
  rw [Toml.withDefault_some, Value.natural?,
    if_pos ⟨Int.natCast_nonneg n, by omega⟩, Int.toNat_natCast]

/- Texts in an array are read one by one. -/
theorem Toml.Value.texts?_strings (items : List String) :
    (Value.array (items.map .string)).texts? = some items := by
  rw [Value.texts?]
  induction items with
  | nil => rfl
  | cons s items ih =>
      rw [List.map_cons, List.mapM_cons, ih]
      rfl

/- The fields of a table are found by their keys. -/
theorem Toml.Table.fields?_entry (t : Table) :
    t.entry.2.fields? (t.fields.map Field.key) =
      some (t.fields.map fun f => some f.value) := by
  have hFind :
      ∀ f ∈ t.fields,
        Entries.find? (t.fields.map Field.entry) f.key =
          some f.value :=
    fun _ hMem => Entries.find?_map t.distinct hMem
  rw [Table.entry, Value.fields?, List.map_map, Option.some.injEq]
  exact List.map_congr_left hFind

/- A policy is read by its name. -/
theorem DisconnectPolicy.ofToml?_name (policy : DisconnectPolicy) :
    ofToml? (.string policy.name) = some policy := by
  cases policy with
  | _ => rfl

------------------------------------------------------------
-- Sections
------------------------------------------------------------

/- No number of so few bits is too great for TOML. -/
theorem le_maxInteger_of_lt
    {n : Nat}
    (hSmall : n < UInt32.size) : n ≤ Toml.maxInteger := by
  have hSize : UInt32.size ≤ Toml.maxInteger := by decide
  omega

namespace ServerSection

/- The port is not too great. -/
theorem port_le (s : ServerSection) :
    s.port.toNat ≤ Toml.maxInteger :=
  le_maxInteger_of_lt (Nat.lt_trans s.port.toNat_lt (by decide))

/- The listener as a table. -/
def table
    (s : ServerSection)
    (hSize : s.maxFrameSize.toNat ≤ Toml.maxInteger) : Table where
  name := "server"
  bare := by decide
  fields :=
    [ .ofString "host" (by decide) s.host,
      .ofNat "port" (by decide) s.port.toNat s.port_le,
      .ofString "disconnect_behavior" (by decide) s.policy.name,
      .ofBool "initiate_handshake" (by decide) s.initiate,
      .ofNat "max_frame_size" (by decide) s.maxFrameSize.toNat
        hSize ]
  distinct := by
    change List.Nodup
      [ "host", "port", "disconnect_behavior",
        "initiate_handshake", "max_frame_size" ]
    decide

variable (s : ServerSection)
variable (hSize : s.maxFrameSize.toNat ≤ Toml.maxInteger)

/- This is how it is written. -/
theorem toToml?_eq :
    s.toToml? = some (Line.joined (s.table hSize).lines) := by
  simp only [toToml?, Toml.integerText?, if_pos s.port_le,
    if_pos hSize, Option.bind_eq_bind, Option.bind_some,
    Toml.joined_table]
  rfl

/- This is how it is read. -/
theorem ofToml?_table :
    ofToml? (s.table hSize).entry.2 = some s := by
  have hFields :
      (s.table hSize).entry.2.fields?
          [ "host", "port", "disconnect_behavior",
            "initiate_handshake", "max_frame_size" ] =
        some
          [ some (.string s.host), some (.integer s.port.toNat),
            some (.string s.policy.name), some (.bool s.initiate),
            some (.integer s.maxFrameSize.toNat) ] :=
    (s.table hSize).fields?_entry
  rw [ofToml?, hFields, Option.bind_eq_bind, Option.bind_some]
  dsimp only
  -- The bounds of numbers are too great to be unfolded.
  rw [Toml.withDefault_natural _ s.port.toNat_lt_size,
    Toml.withDefault_natural _ s.maxFrameSize.toNat_lt_size]
  simp only [withDefault, Value.text?, Value.bool?,
    DisconnectPolicy.ofToml?_name, Option.bind_eq_bind,
    Option.bind_some, UInt16.ofNat_toNat, UInt64.ofNat_toNat]

end ServerSection

namespace SessionSection

/- The features are not too great a number. -/
theorem features_le (s : SessionSection) :
    s.features.toNat ≤ Toml.maxInteger :=
  le_maxInteger_of_lt s.features.toNat_lt

/- The sessions as a table. -/
def table
    (s : SessionSection)
    (hSecs : s.ackTimeoutSecs.toNat ≤ Toml.maxInteger)
    (hInterval : s.ackPollIntervalMs.toNat ≤ Toml.maxInteger) :
    Table where
  name := "session"
  bare := by decide
  fields :=
    [ .ofNat "ack_timeout_secs" (by decide)
        s.ackTimeoutSecs.toNat hSecs,
      .ofNat "ack_poll_interval_ms" (by decide)
        s.ackPollIntervalMs.toNat hInterval,
      .ofString "api_version" (by decide) s.apiVersion,
      .ofNat "features" (by decide) s.features.toNat
        s.features_le ]
  distinct := by
    change List.Nodup
      [ "ack_timeout_secs", "ack_poll_interval_ms", "api_version",
        "features" ]
    decide

variable (s : SessionSection)
variable (hSecs : s.ackTimeoutSecs.toNat ≤ Toml.maxInteger)
variable (hInterval : s.ackPollIntervalMs.toNat ≤ Toml.maxInteger)

/- This is how they are written. -/
theorem toToml?_eq :
    s.toToml? =
      some (Line.joined (s.table hSecs hInterval).lines) := by
  simp only [toToml?, Toml.integerText?, if_pos hSecs,
    if_pos hInterval, if_pos s.features_le, Option.bind_eq_bind,
    Option.bind_some, Toml.joined_table]
  rfl

/- This is how they are read. -/
theorem ofToml?_table :
    ofToml? (s.table hSecs hInterval).entry.2 = some s := by
  have hFields :
      (s.table hSecs hInterval).entry.2.fields?
          [ "ack_timeout_secs", "ack_poll_interval_ms",
            "api_version", "features" ] =
        some
          [ some (.integer s.ackTimeoutSecs.toNat),
            some (.integer s.ackPollIntervalMs.toNat),
            some (.string s.apiVersion),
            some (.integer s.features.toNat) ] :=
    (s.table hSecs hInterval).fields?_entry
  rw [ofToml?, hFields, Option.bind_eq_bind, Option.bind_some]
  dsimp only
  rw [Toml.withDefault_natural _ s.ackTimeoutSecs.toNat_lt_size,
    Toml.withDefault_natural _ s.ackPollIntervalMs.toNat_lt_size,
    Toml.withDefault_natural _ s.features.toNat_lt_size]
  simp only [withDefault, Value.text?, Option.bind_eq_bind,
    Option.bind_some, UInt32.ofNat_toNat, UInt64.ofNat_toNat]

end SessionSection

namespace Config

------------------------------------------------------------
-- Documents
------------------------------------------------------------

/- The scene as a table. -/
def sceneTable (cameras : List String) : Table where
  name := "scene"
  bare := by decide
  fields := [.ofStrings "cameras" (by decide) cameras]
  distinct := List.nodup_singleton _

/- This is how it is written. -/
theorem sceneToToml_eq (cameras : List String) :
    sceneToToml cameras = Line.joined (sceneTable cameras).lines := by
  rw [Toml.joined_table]
  rfl

/- This is how it is read. -/
theorem camerasOfToml?_sceneTable (cameras : List String) :
    camerasOfToml? (sceneTable cameras).entry.2 = some cameras := by
  have hFields :
      (sceneTable cameras).entry.2.fields? ["cameras"] =
        some [some (.array (cameras.map .string))] :=
    (sceneTable cameras).fields?_entry
  simp only [camerasOfToml?, hFields, Option.bind_eq_bind,
    Option.bind_some, withDefault, Value.texts?_strings]

/- No number is too great for TOML. -/
structure Fits (c : Config) : Prop where
  maxFrameSize : c.server.maxFrameSize.toNat ≤ Toml.maxInteger
  ackTimeoutSecs : c.session.ackTimeoutSecs.toNat ≤ Toml.maxInteger
  ackPollIntervalMs :
    c.session.ackPollIntervalMs.toNat ≤ Toml.maxInteger

/- The tables of a configuration. -/
def tables
    (c : Config)
    (hFits : c.Fits) : List Table :=
  [ c.server.table hFits.maxFrameSize,
    c.session.table hFits.ackTimeoutSecs hFits.ackPollIntervalMs,
    sceneTable c.cameras ]

/- Their lines, without the empty one at the end. -/
def lines
    (c : Config)
    (hFits : c.Fits) : List Line :=
  (c.server.table hFits.maxFrameSize).lines ++
    ((c.session.table hFits.ackTimeoutSecs
        hFits.ackPollIntervalMs).lines ++
      [ .header "scene" (by decide),
        .field (.ofStrings "cameras" (by decide) c.cameras) ])

variable {c : Config}
variable (hFits : c.Fits)

/- With it, these are all lines. -/
theorem lines_append_blank :
    c.lines hFits ++ [.blank] =
      (c.tables hFits).flatMap Table.lines := by
  simp only [lines, tables, List.flatMap_cons, List.flatMap_nil,
    List.append_nil, List.append_assoc]
  rfl

/- The empty line is no more than a break. -/
theorem joined_append_blank :
    Line.joined (c.lines hFits ++ [.blank]) =
      Line.joined (c.lines hFits) ++ ['\n'] :=
  Toml.joined_append _ (List.cons_ne_nil _ _)

/- A configuration is written as these tables. -/
theorem toToml?_eq :
    c.toToml? =
      some (Line.joined ((c.tables hFits).flatMap Table.lines)) := by
  have hServer := c.server.toToml?_eq hFits.maxFrameSize
  have hSession :=
    c.session.toToml?_eq hFits.ackTimeoutSecs
      hFits.ackPollIntervalMs
  simp only [toToml?, hServer, hSession, sceneToToml_eq, tables,
    Option.bind_eq_bind, Option.bind_some, List.flatMap_cons,
    List.flatMap_nil, List.append_nil, Toml.joined_append,
    Table.lines_ne_nil, ne_eq, not_false_eq_true,
    Line.broken_append, Toml.broken_table, List.cons_append]

/- The last sign is the bracket behind the cameras. -/
theorem exists_joined_lines_eq :
    ∃ cs, Line.joined (c.lines hFits) = cs ++ [']'] := by
  rcases Toml.exists_arrayText_eq c.cameras with ⟨cs, hText⟩
  let front :=
    (c.server.table hFits.maxFrameSize).lines ++
      ((c.session.table hFits.ackTimeoutSecs
          hFits.ackPollIntervalMs).lines ++
        [.header "scene" (by decide)])
  have hLines :
      c.lines hFits =
        front ++
          [.field (.ofStrings "cameras" (by decide) c.cameras)] := by
    simp only [lines, front, List.append_assoc, List.cons_append,
      List.nil_append]
  have hSome : front ≠ [] := List.cons_ne_nil _ _
  refine
    ⟨Line.joined front ++
      '\n' :: ("cameras".toList ++ ' ' :: '=' :: ' ' :: '[' :: cs),
      ?_⟩
  rw [hLines, Toml.joined_append _ hSome]
  simp only [Line.broken_cons, Line.broken_nil, Line.text,
    Field.ofStrings, hText, List.append_assoc, List.cons_append,
    List.append_nil]

/- Only the last break is a blank at the end. -/
theorem printed?_eq :
    c.printed? = some (Line.joined (c.lines hFits)) := by
  rcases exists_joined_lines_eq hFits with ⟨cs, hLast⟩
  rw [printed?, toToml?_eq hFits, Option.map_some,
    ← lines_append_blank, joined_append_blank,
    Text.trimEnd_append]
  · simp [Text.isBlank]
  · rw [hLast, List.getLast?_concat]
    rintro c ⟨⟩
    rfl

/- The tables have distinct names. -/
theorem nodup_tables : ((c.tables hFits).map Table.name).Nodup := by
  change List.Nodup ["server", "session", "scene"]
  decide

/- They are read as the configuration. -/
theorem ofEntries?_tables :
    ofEntries? ((c.tables hFits).map Table.entry) = some c := by
  have hFind :
      ∀ t ∈ c.tables hFits,
        Entries.find? ((c.tables hFits).map Table.entry) t.name =
          some t.entry.2 :=
    fun _ hMem => Entries.find?_map (nodup_tables hFits) hMem
  have hServer :
      Entries.find? ((c.tables hFits).map Table.entry) "server" =
        some (c.server.table hFits.maxFrameSize).entry.2 :=
    hFind _ List.mem_cons_self
  have hSession :
      Entries.find? ((c.tables hFits).map Table.entry) "session" =
        some (c.session.table hFits.ackTimeoutSecs
          hFits.ackPollIntervalMs).entry.2 :=
    hFind (c.session.table hFits.ackTimeoutSecs
      hFits.ackPollIntervalMs) (by simp [tables])
  have hScene :
      Entries.find? ((c.tables hFits).map Table.entry) "scene" =
        some (sceneTable c.cameras).entry.2 :=
    hFind (sceneTable c.cameras) (by simp [tables])
  have hServer' := c.server.ofToml?_table hFits.maxFrameSize
  have hSession' :=
    c.session.ofToml?_table hFits.ackTimeoutSecs
      hFits.ackPollIntervalMs
  rw [ofEntries?, hServer, hSession, hScene,
    Toml.withDefault_some, Toml.withDefault_some,
    Toml.withDefault_some, hServer', hSession',
    camerasOfToml?_sceneTable]
  rfl

/- So is their text, with or without a break behind it. -/
theorem ofToml?_lines
    {ls : List Line}
    (hLines :
      ls = c.lines hFits ∨ ls = c.lines hFits ++ [.blank]) :
    ofToml? (String.ofList (Line.joined ls)) = some c := by
  have hTables :
      ls = (c.tables hFits).flatMap Table.lines ∨
        ls ++ [.blank] = (c.tables hFits).flatMap Table.lines := by
    rw [← lines_append_blank]
    rcases hLines with rfl | rfl
    · exact .inr rfl
    · exact .inl rfl
  rw [ofToml?, String.toList_ofList,
    Toml.ofChars?_tables _ (nodup_tables hFits) hTables,
    Option.bind_some, ofEntries?_tables]

/- A file with this text holds the configuration. -/
theorem ofFile_bytes
    {text : String}
    (words : Diagnosis)
    (name : String)
    (hText : ofToml? text = some c) :
    ofFile words name (.ok (Text.bytes text)) = .ok c := by
  have hContent :
      Except.ok (Text.bytes text) >>= FileProblem.textOf =
        .ok text := by
    change FileProblem.textOf (Text.bytes text) = .ok text
    rw [FileProblem.textOf, Text.ofBytes?_bytes]
  rw [ofFile, hContent]
  dsimp only
  rw [hText]

end Config

------------------------------------------------------------
-- Printing
------------------------------------------------------------

namespace CommandLine

/- A configuration that is loaded is printed on lines of its own. -/
theorem run_of_loaded
    {machine : Machine Id}
    {arguments : List String}
    {named : Option String}
    {c : Config}
    {text : String}
    (hAsked : Request.ofArguments arguments = .run (.config named))
    (hLoaded : (loadConfig machine named).run = .ok c)
    (hText : configText c = .ok text) :
    run machine arguments = .printed (text ++ "\n") := by
  have hPure : loadConfig machine named = pure c := hLoaded
  simp only [run, hAsked, execute, hPure, pure_bind, hText]
  rfl

/-
  A configuration whose numbers are not too great is printed,
  and what is printed is the same configuration again as a
  file, with or without the line break at its end.
-/
theorem printed_config_read_back
    {c : Config}
    (hFits : c.Fits) :
    ∃ text,
      configText c = .ok text ∧
        (∀ (machine : Machine Id) arguments named,
          Request.ofArguments arguments = .run (.config named) →
          (loadConfig machine named).run = .ok c →
            run machine arguments = .printed (text ++ "\n")) ∧
          ∀ words name,
            Config.ofFile words name (.ok (Text.bytes text)) =
                .ok c ∧
              Config.ofFile words name
                  (.ok (Text.bytes (text ++ "\n"))) =
                .ok c := by
  have hText :
      configText c =
        .ok (String.ofList (Line.joined (c.lines hFits))) := by
    rw [configText, Config.printed?_eq hFits]
  have hBreak :
      String.ofList (Line.joined (c.lines hFits)) ++ "\n" =
        String.ofList (Line.joined (c.lines hFits ++ [.blank])) := by
    rw [Config.joined_append_blank, String.ofList_append]
  refine ⟨_, hText, ?_, fun words name => ⟨?_, ?_⟩⟩
  · intro machine arguments named hAsked hLoaded
    exact run_of_loaded hAsked hLoaded hText
  · exact Config.ofFile_bytes words name
      (Config.ofToml?_lines hFits (.inl rfl))
  · rw [hBreak]
    exact Config.ofFile_bytes words name
      (Config.ofToml?_lines hFits (.inr rfl))

/- A configuration with texts that are hard to write. -/
def oddConfig : Config where
  server :=
    { host := "\"a\"\x27\x27\x27\\\n\x07"
      port := 65535
      policy := .terminate
      initiate := true
      maxFrameSize := 9223372036854775807 }
  session :=
    { ackTimeoutSecs := 0
      ackPollIntervalMs := 1
      apiVersion := "C:\\é"
      features := 3 }
  cameras := ["", "it\x27s \"2\"", "\r\n", "[server]"]

/- Its text. -/
def oddText : String :=
  "[server]\n"
    ++ "host = \"\"\"\n\"a\"\x27\x27\x27\\\\\n\\u0007\"\"\"\n"
    ++ "port = 65535\n"
    ++ "disconnect_behavior = \"terminate\"\n"
    ++ "initiate_handshake = true\n"
    ++ "max_frame_size = 9223372036854775807\n\n"
    ++ "[session]\n"
    ++ "ack_timeout_secs = 0\n"
    ++ "ack_poll_interval_ms = 1\n"
    ++ "api_version = \x27C:\\é\x27\n"
    ++ "features = 3\n\n"
    ++ "[scene]\n"
    ++ "cameras = [\n"
    ++ "    \"\",\n"
    ++ "    \"\"\"it\x27s \"2\"\"\"\",\n"
    ++ "    \"\"\"\n\\r\n\"\"\",\n"
    ++ "    \"[server]\",\n"
    ++ "]"

/- A machine on which every file holds a text. -/
def Machine.filed (text : String) : Machine Id where
  read := fun _ => .ok (Text.bytes text)
  write := fun _ _ => .error .missing
  present := fun _ => true
  input := []
  setting := fun _ => none
  home := none
  words := .constant ""
  listen := fun _ _ => .ok ()

/- There a file gives the configuration that its text spells. -/
theorem base_filed
    {text name : String}
    {c : Config}
    (hFile :
      Config.ofFile (Machine.filed text).words name
          (.ok (Text.bytes text)) =
        .ok c) :
    (Machine.filed text).base (some name) = .ok c :=
  mapError_eq_ok_iff.mpr hFile

/- Where a file holds what was printed, the same is printed again. -/
theorem printed_config_read_back_odd :
    oddConfig.Fits ∧
      configText oddConfig = .ok oddText ∧
        run (.filed (oddText ++ "\n")) ["config", "-c", "c.toml"] =
          .printed (oddText ++ "\n") := by
  have hFits : oddConfig.Fits :=
    ⟨by decide, by decide, by decide⟩
  have hOdd : configText oddConfig = .ok oddText := by
    decide +kernel
  rcases printed_config_read_back hFits with
    ⟨text, hText, hPrinted, hFile⟩
  obtain rfl : text = oddText :=
    Except.ok.inj (hText.symm.trans hOdd)
  have hLoaded :
      (loadConfig (.filed (oddText ++ "\n")) (some "c.toml")).run =
        .ok oddConfig :=
    (loadConfig_eq_ok_iff ..).mpr
      ⟨oddConfig, base_filed (hFile _ "c.toml").2, by decide +kernel⟩
  exact ⟨hFits, hOdd,
    hPrinted _ _ (some "c.toml") (by decide +kernel) hLoaded⟩

end CommandLine

end CaptureLink
