import CaptureLink.Toml.Document

/-
  How values are written in TOML.  Of the four ways to write
  a string the plainest is taken that can hold it.

  Key definitions include:
    * `Toml.Style`
    * `Toml.styleOf`
    * `Toml.escaped`
    * `Toml.escapedLines`
    * `Toml.stringText`
    * `Toml.arrayText`
    * `Toml.integerText?`
-/

namespace CaptureLink

namespace Toml

------------------------------------------------------------
-- Ways to write strings
------------------------------------------------------------

/- The ways to write a string. -/
inductive Style where
/- With escapes, on one line. -/
| basic
/- Without escapes, on one line. -/
| literal
/- With escapes, on several lines. -/
| basicLines
/- Without escapes, on several lines. -/
| literalLines
deriving DecidableEq, Repr

/- A control character other than the tab and the line feed. -/
def isControl (c : Char) : Bool :=
  (c.toNat < 0x20 || c.toNat = 0x7F) && c ≠ '\t' && c ≠ '\n'

/- Three of a mark stand in a row, behind `seen` of them. -/
def threeInRow
    (mark : Char)
    (seen : Nat) :
    List Char → Bool
| [] => false
| c :: cs =>
    if c = mark then
      seen = 2 || threeInRow mark (seen + 1) cs
    else
      threeInRow mark 0 cs

/-
  The plainest way to write a string.  Literal strings cannot
  hold controls, basic ones are not plain with a backslash,
  and no way is plain that needs its own mark escaped.
-/
def styleOf (cs : List Char) : Style :=
  let controls := cs.any isControl
  let backslash := cs.contains '\\'
  let breaks := cs.contains '\n'
  if !controls && !backslash && !breaks && !cs.contains '"' then
    .basic
  else if !controls && !breaks && !cs.contains apostrophe then
    .literal
  else if !controls && !backslash && !threeInRow '"' 0 cs then
    .basicLines
  else if !controls && !threeInRow apostrophe 0 cs then
    .literalLines
  else if breaks then
    .basicLines
  else
    .basic

------------------------------------------------------------
-- Escapes
------------------------------------------------------------

/- The letter of a hexadecimal digit, in upper case. -/
def hexLetter (n : Nat) : Char :=
  if n < 10 then Char.ofNat (48 + n) else Char.ofNat (55 + n)

/- A character other than the quote in a string with escapes. -/
def escapedChar (c : Char) : List Char :=
  if c = '\x08' then ['\\', 'b']
  else if c = '\t' then ['\\', 't']
  else if c = '\n' then ['\\', 'n']
  else if c = '\x0c' then ['\\', 'f']
  else if c = '\r' then ['\\', 'r']
  else if c = '\\' then ['\\', '\\']
  else if isControl c then
    ['\\', 'u', '0', '0',
      hexLetter (c.toNat / 16), hexLetter (c.toNat % 16)]
  else [c]

/- A text in a string with escapes on one line. -/
def escaped (cs : List Char) : List Char :=
  cs.flatMap fun c => if c = '"' then ['\\', '"'] else escapedChar c

/-
  A text in a string with escapes on several lines.  Line
  breaks stand for themselves, and so do quotes, up to two in
  a row; `seen` of them stand directly in front.
-/
def escapedLines (seen : Nat) : List Char → List Char
| [] => []
| c :: cs =>
    if c = '"' then
      if seen = 2 then '\\' :: '"' :: escapedLines 0 cs
      else '"' :: escapedLines (seen + 1) cs
    else if c = '\n' then '\n' :: escapedLines 0 cs
    else escapedChar c ++ escapedLines 0 cs

------------------------------------------------------------
-- Values
------------------------------------------------------------

/- Marks around a text; texts with breaks start on a line of their own. -/
def between
    (marks : List Char)
    (breaks : Bool)
    (cs : List Char) : List Char :=
  marks ++ ((if breaks then ['\n'] else []) ++ (cs ++ marks))

/- A string in a given way. -/
def styled
    (style : Style)
    (cs : List Char) : List Char :=
  let breaks := cs.contains '\n'
  match style with
  | .basic => between ['"'] false (escaped cs)
  | .literal => between [apostrophe] false cs
  | .basicLines =>
      between ['"', '"', '"'] breaks (escapedLines 0 cs)
  | .literalLines =>
      between [apostrophe, apostrophe, apostrophe] breaks cs

/- A string. -/
def stringText (s : String) : List Char :=
  styled (styleOf s.toList) s.toList

/- Strings in brackets: two or more of them on lines of their own. -/
def arrayText : List String → List Char
| [] => ['[', ']']
| [s] => '[' :: (stringText s ++ [']'])
| items =>
    '[' :: '\n' ::
      (items.flatMap (fun s =>
        ' ' :: ' ' :: ' ' :: ' ' :: (stringText s ++ [',', '\n'])) ++
        [']'])

/- A truth value. -/
def boolText (b : Bool) : List Char :=
  if b then ['t', 'r', 'u', 'e'] else ['f', 'a', 'l', 's', 'e']

/- A number, if it is not too great for TOML. -/
def integerText? (n : Nat) : Option (List Char) :=
  if n ≤ maxInteger then some (Nat.toDigits 10 n) else none

/- A line that gives a key its value. -/
def line (key : String) (value : List Char) : List Char :=
  key.toList ++ (' ' :: '=' :: ' ' :: (value ++ ['\n']))

/- A table under a header. -/
def tableText
    (name : String)
    (lines : List (List Char)) : List Char :=
  '[' :: (name.toList ++ (']' :: '\n' :: lines.flatten))

end Toml

end CaptureLink
