import CaptureLink.Json.Tree

/-
  The text of a JSON value, either on one line or with every
  entry of a container on a line of its own.  Both layouts
  read back as the same value.

  Key definitions include:
    * `Json.quoted`
    * `Json.Layout`
    * `Json.Tree.write`
    * `Json.Tree.compact`
    * `Json.Tree.pretty`
-/

namespace CaptureLink

namespace Json

------------------------------------------------------------
-- Strings
------------------------------------------------------------

/- The letter of a hexadecimal digit. -/
def hexLetter (n : Nat) : Char :=
  if n < 10 then Char.ofNat (48 + n) else Char.ofNat (87 + n)

/-
  A character inside quotes.  Only the quote, the backslash
  and control characters need an escape.
-/
def escaped (c : Char) : List Char :=
  if c = '"' then ['\\', '"']
  else if c = '\\' then ['\\', '\\']
  else if c = '\x08' then ['\\', 'b']
  else if c = '\t' then ['\\', 't']
  else if c = '\n' then ['\\', 'n']
  else if c = '\x0c' then ['\\', 'f']
  else if c = '\r' then ['\\', 'r']
  else if c.toNat < 0x20 then
    ['\\', 'u', '0', '0',
      hexLetter (c.toNat / 16), hexLetter (c.toNat % 16)]
  else [c]

/- A text between quotes. -/
def quoted (cs : List Char) : List Char :=
  '"' :: (cs.flatMap escaped ++ ['"'])

/-
  A string that is well formed and spells no text: an escape
  with one half of a surrogate pair.
-/
def loneHalf : List Char :=
  ['"', '\\', 'u', 'd', '8', '0', '0', '"']

/- A string token, which may spell no text. -/
def stringText : Option String → List Char
| some s => quoted s.toList
| none => loneHalf

------------------------------------------------------------
-- Layouts
------------------------------------------------------------

/- Where a text breaks into lines. -/
inductive Layout where
/- Nowhere. -/
| compact
/- At every entry; the value itself stands at some depth. -/
| lines (depth : Nat)
deriving DecidableEq, Repr

namespace Layout

/- The layout of the entries of a container. -/
def deeper : Layout → Layout
| .compact => .compact
| .lines depth => .lines (depth + 1)

/- The break in front of an entry, or of a closing bracket. -/
def newline : Layout → List Char
| .compact => []
| .lines depth => '\n' :: List.replicate (2 * depth) ' '

/- The sign between a key and its value. -/
def colon : Layout → List Char
| .compact => [':']
| .lines _ => [':', ' ']

end Layout

------------------------------------------------------------
-- Values
------------------------------------------------------------

namespace Tree

mutual

/- Write a value; empty containers stay on one line. -/
def write (layout : Layout) : Tree → List Char
| .null => ['n', 'u', 'l', 'l']
| .bool true => ['t', 'r', 'u', 'e']
| .bool false => ['f', 'a', 'l', 's', 'e']
| .number spelling => spelling
| .string text => stringText text
| .array [] => ['[', ']']
| .array (item :: items) =>
    '[' :: writeItems layout.deeper (item :: items) ++
      layout.newline ++ [']']
| .object [] => ['\x7b', '\x7d']
| .object (m :: members) =>
    '\x7b' :: writeMembers layout.deeper (m :: members) ++
      layout.newline ++ ['\x7d']

/- Write the items of an array with commas between them. -/
def writeItems (layout : Layout) : List Tree → List Char
| [] => []
| [item] => layout.newline ++ write layout item
| item :: items =>
    layout.newline ++ (write layout item ++ ',' ::
      writeItems layout items)

/- Write the members of an object with commas between them. -/
def writeMembers (layout : Layout) :
    List (Option String × Tree) → List Char
| [] => []
| [(name, value)] =>
    layout.newline ++ (stringText name ++ (layout.colon ++
      write layout value))
| (name, value) :: members =>
    layout.newline ++ (stringText name ++ (layout.colon ++
      (write layout value ++ ',' :: writeMembers layout members)))

end

/- A value on one line. -/
def compact (t : Tree) : List Char :=
  t.write .compact

/- A value with every entry on a line of its own. -/
def pretty (t : Tree) : List Char :=
  t.write (.lines 0)

end Tree

end Json

end CaptureLink
