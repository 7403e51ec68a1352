import CaptureLink.CommandLine
import CaptureLink.Proofs.Envelope.Text
import CaptureLink.Proofs.Frame.Text

/-
  Converting texts on the command line.  What the program
  prints for an envelope it reads back: the line of a frame
  gives the envelope's text in its one form, and this text
  gives the same line again, whatever blanks are around them.

  Main declarations:
    * `Envelope.json`
    * `Envelope.ofJson?_of_padded`
    * `CommandLine.Conversion`
    * `CommandLine.Converts`
    * `CommandLine.run_of_converts`
    * `CommandLine.frameOf_eq_ok_iff`
    * `CommandLine.encode_decode_inverse`
-/

namespace CaptureLink

open Json

------------------------------------------------------------
-- Texts of envelopes
------------------------------------------------------------

/- A record begins and ends with a brace. -/
theorem Json.Tree.bare_write_record
    (layout : Layout)
    (fields : List (String × Tree)) :
    Text.Bare ((Tree.record fields).write layout) := by
  cases fields with
  | nil => exact Text.bare_between [] (by decide) (by decide)
  | cons field fields =>
      exact Text.bare_between (_ ++ _) (by decide) (by decide)

namespace Envelope

/- The text of an envelope in one of its two layouts. -/
def json (e : Envelope) (pretty : Bool) : String :=
  if pretty then e.toPrettyJson else e.toJson

/- It is the tree of the envelope that is written. -/
theorem exists_json_eq
    (e : Envelope)
    (pretty : Bool) :
    ∃ layout, (e.json pretty).toList = e.toTree.write layout := by
  cases pretty with
  | false => exact ⟨.compact, String.toList_ofList⟩
  | true => exact ⟨.lines 0, String.toList_ofList⟩

/- An envelope is a record. -/
theorem bare_write_toTree
    (e : Envelope)
    (layout : Layout) :
    Text.Bare (e.toTree.write layout) := by
  unfold toTree
  cases e.payload with
  | _ => exact Tree.bare_write_record layout _

/- An envelope is read of its text, with blanks around it. -/
theorem ofJson?_of_padded
    {e : Envelope}
    {pretty : Bool}
    {text : String}
    (hFinite : ∀ t, e.transform? = some t → t.isFinite = true)
    (hPadded : Text.Padded text.toList (e.json pretty).toList) :
    ofJson? (Text.trim text.toList) = some e := by
  rcases e.exists_json_eq pretty with ⟨layout, hJson⟩
  rw [hJson] at hPadded
  rw [Text.trim_of_padded hPadded (e.bare_write_toTree layout),
    ofJson?_write]
  exact ofTree?_toTree .anyRecord hFinite

end Envelope

namespace CommandLine

------------------------------------------------------------
-- Calls that convert a text
------------------------------------------------------------

/- What the program can make of a text. -/
inductive Conversion where
/- The frame of an envelope. -/
| encode
/- The envelope of a frame. -/
| decode (pretty : Bool)

namespace Conversion

/- The command that says so. -/
def command : Conversion → Transfer → Command
| .encode, transfer => .encode transfer
| .decode pretty, transfer => .decode transfer pretty

/- What it makes of a text. -/
def result
    (words : Diagnosis) :
    Conversion → String → Except Failure String
| .encode => frameOf words
| .decode pretty => envelopeOf words pretty

end Conversion

/- A result is printed on a line of its own, or the program fails. -/
def Outcome.ofResult : Except Failure String → Outcome
| .ok text => .printed (text ++ "\n")
| .error failure => .failed failure

/-
  The arguments ask for a conversion whose result is printed,
  and on this machine they lead to this text, be it given
  itself, or in a file, or on standard input.
-/
def Converts
    (machine : Machine Id)
    (arguments : List String)
    (conversion : Conversion)
    (text : String) : Prop :=
  ∃ transfer,
    Request.ofArguments arguments =
        .run (conversion.command transfer) ∧
      transfer.output = none ∧
      (readText machine transfer).run = .ok text

section Running

variable {machine : Machine Id}
variable {arguments : List String}
variable {conversion : Conversion}
variable {text : String}

/- Such a call prints what the conversion makes of the text. -/
theorem run_of_converts
    (hConverts : Converts machine arguments conversion text) :
    run machine arguments =
      Outcome.ofResult (conversion.result machine.words text) := by
  rcases hConverts with ⟨transfer, hAsked, hPrinted, hRead⟩
  have hPure : readText machine transfer = pure text := hRead
  have hExecute :
      execute machine (conversion.command transfer) =
        (execute.liftExcept
          (conversion.result machine.words text) >>=
            writeText machine none) := by
    rw [← hPrinted]
    cases conversion with
    | encode => simp only [Conversion.command, execute, hPure,
        pure_bind, Conversion.result]
    | decode pretty => simp only [Conversion.command, execute,
        hPure, pure_bind, Conversion.result]
  simp only [run, hAsked, hExecute]
  cases conversion.result machine.words text with
  | ok line => rfl
  | error failure => rfl

/- It does not fail exactly if the conversion does not. -/
theorem code_eq_zero_iff
    (hConverts : Converts machine arguments conversion text) :
    (run machine arguments).code = 0 ↔
      ∃ line, conversion.result machine.words text = .ok line := by
  rw [run_of_converts hConverts]
  cases conversion.result machine.words text with
  | ok line => exact ⟨fun _ => ⟨line, rfl⟩, fun _ => rfl⟩
  | error failure =>
      constructor
      · intro hZero
        cases hZero
      · rintro ⟨_, hOk⟩
        cases hOk

/- This is how a text on standard input is converted. -/
theorem converts_input
    (hInput : machine.input = Text.bytes text) :
    Converts machine ["encode"] .encode text ∧
      Converts machine ["decode"] (.decode false) text ∧
      Converts machine ["decode", "--pretty"] (.decode true)
        text := by
  have hText : FileProblem.textOf machine.input = .ok text := by
    rw [FileProblem.textOf, hInput, Text.ofBytes?_bytes]
  have hRead :
      (readText machine ⟨none, none, none⟩).run = .ok text := by
    refine (run_liftM_bind machine.input _).trans ?_
    simp only [hText]
    rfl
  exact ⟨⟨_, by decide +kernel, rfl, hRead⟩,
    ⟨_, by decide +kernel, rfl, hRead⟩,
    ⟨_, by decide +kernel, rfl, hRead⟩⟩

end Running

------------------------------------------------------------
-- There and back
------------------------------------------------------------

/- A text gives the line of the envelope that it spells. -/
theorem frameOf_eq_ok_iff
    (words : Diagnosis)
    (text line : String) :
    frameOf words text = .ok line ↔
      ∃ e,
        Envelope.ofJson? (Text.trim text.toList) = some e ∧
          Frame.encodeText Frame.defaultLimit e = .ok line := by
  cases hRead : Envelope.ofJson? (Text.trim text.toList) with
  | none => simp [frameOf, hRead]
  | some e =>
      cases hLine : Frame.encodeText Frame.defaultLimit e with
      | error defect => simp [frameOf, hRead, Except.mapError, hLine]
      | ok line' => simp [frameOf, hRead, Except.mapError, hLine]

section ThereAndBack

variable (words : Diagnosis)
variable {e : Envelope}
variable {line text : String}

/- An envelope that has a line is finite. -/
theorem finite_of_encodeText
    {limit : Nat}
    (hLine : Frame.encodeText limit e = .ok line) :
    ∀ t, e.transform? = some t → t.isFinite = true := by
  rcases (Frame.encodeText_eq_ok_iff _ e line).mp hLine with
    ⟨frame, hFrame, _⟩
  exact ((Frame.encode_eq_ok_iff _ e frame).mp hFrame).1

/- The line gives the text of the envelope. -/
theorem envelopeOf_of_padded
    (pretty : Bool)
    (hLine : Frame.encodeText Frame.defaultLimit e = .ok line)
    (hPadded : Text.Padded text.toList line.toList) :
    envelopeOf words pretty text = .ok (e.json pretty) := by
  rw [envelopeOf,
    Frame.decodeText_encodeText (by decide) hLine hPadded]
  rfl

/- The text of the envelope gives the line. -/
theorem frameOf_of_padded
    {pretty : Bool}
    (hLine : Frame.encodeText Frame.defaultLimit e = .ok line)
    (hPadded :
      Text.Padded text.toList (e.json pretty).toList) :
    frameOf words text = .ok line := by
  have hRead :=
    Envelope.ofJson?_of_padded (finite_of_encodeText hLine)
      hPadded
  exact (frameOf_eq_ok_iff words text line).mpr
    ⟨e, hRead, hLine⟩

end ThereAndBack

/-
  If the program accepts a text as an envelope's, it prints a
  line.  Given this line, with blanks around it, it prints the
  envelope's text in the layout that is asked for; and given
  that text, with blanks around it, the same line again.
-/
theorem encode_decode_inverse
    {machine : Machine Id}
    {arguments : List String}
    {text : String}
    (hConverts : Converts machine arguments .encode text)
    (hAccepted : (run machine arguments).code = 0) :
    ∃ e line,
      Envelope.ofJson? (Text.trim text.toList) = some e ∧
        run machine arguments = .printed (line ++ "\n") ∧
        ∀ pretty machine' arguments' text',
          (Converts machine' arguments' (.decode pretty) text' →
            Text.Padded text'.toList line.toList →
              run machine' arguments' =
                .printed (e.json pretty ++ "\n")) ∧
          (Converts machine' arguments' .encode text' →
            Text.Padded text'.toList (e.json pretty).toList →
              run machine' arguments' =
                .printed (line ++ "\n")) := by
  rcases (code_eq_zero_iff hConverts).mp hAccepted with
    ⟨line, hResult⟩
  rcases (frameOf_eq_ok_iff _ text line).mp hResult with
    ⟨e, hRead, hLine⟩
  refine ⟨e, line, hRead, ?_, ?_⟩
  · rw [run_of_converts hConverts, hResult]
    rfl
  · intro pretty machine' arguments' text'
    constructor
    · intro hBack hPadded
      rw [run_of_converts hBack, Conversion.result,
        envelopeOf_of_padded _ pretty hLine hPadded]
      rfl
    · intro hAgain hPadded
      rw [run_of_converts hAgain, Conversion.result,
        frameOf_of_padded _ hLine hPadded]
      rfl

/- A machine with a text on standard input, and no files. -/
def Machine.piped (text : String) : Machine Id where
  read := fun _ => .error .missing
  write := fun _ _ => .error .missing
  present := fun _ => false
  input := Text.bytes text
  setting := fun _ => none
  home := none
  words := .constant ""
  listen := fun _ _ => .ok ()

/-
  A request to stop, in a spelling of its own: arrays stand
  for records, and the header stands behind the payload.
-/
def spelledStop : String :=
  "\n \x7b\"payload\": \x7b\"motion_set_mode\": [\"off\"]\x7d,"
    ++ " \"header\": [\"\\u00e9\", \"b\"]\x7d "

/- The request itself. -/
def stop : Envelope :=
  .reply "é" "b" (.motionSetMode .off)

/- It is written in one form, whatever its spelling was. -/
theorem encode_decode_inverse_spelled_stop :
    (run (.piped spelledStop) ["encode"]).code = 0 ∧
      ∃ line,
        run (.piped spelledStop) ["encode"] =
            .printed (line ++ "\n") ∧
          run (.piped ("  " ++ (line ++ "\n\t")))
              ["decode", "--pretty"] =
            .printed (stop.toPrettyJson ++ "\n") ∧
          run (.piped ("" ++ (stop.toPrettyJson ++ "\n")))
              ["encode"] =
            .printed (line ++ "\n") := by
  have hSpelled :
      Envelope.ofJson? (Text.trim spelledStop.toList) =
        some stop := by
    decide +kernel
  have hConverts :
      Converts (.piped spelledStop) ["encode"] .encode
        spelledStop :=
    (converts_input rfl).1
  have hAccepted :
      (run (.piped spelledStop) ["encode"]).code = 0 :=
    (code_eq_zero_iff hConverts).mpr
      ⟨_, (frameOf_eq_ok_iff _ _ _).mpr ⟨stop, hSpelled, rfl⟩⟩
  rcases encode_decode_inverse hConverts hAccepted with
    ⟨e, line, hRead, hLine, hAlways⟩
  obtain rfl : e = stop :=
    Option.some.inj (hRead.symm.trans hSpelled)
  have hPretty : stop.toPrettyJson = stop.json true := rfl
  rw [hPretty]
  refine ⟨hAccepted, line, hLine, ?_, ?_⟩
  · have hPadded :=
      Text.padded_between "  " line "\n\t" rfl rfl
    exact (hAlways true _ _ _).1 (converts_input rfl).2.2 hPadded
  · have hPadded :=
      Text.padded_between "" (stop.json true) "\n" rfl rfl
    exact (hAlways true _ _ _).2 (converts_input rfl).1 hPadded

end CommandLine

end CaptureLink
