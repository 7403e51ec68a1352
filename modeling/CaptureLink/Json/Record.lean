import CaptureLink.Json.Layout

/-
  Values that stand for something: numbers, texts, lists and
  records.  A record is written as an object, and read from
  an object with its fields in any order or from an array
  with its fields in their own order.

  Key definitions include:
    * `Json.Tree.real`
    * `Json.Tree.real?`
    * `Json.Tree.word32?`
    * `Json.Tree.fields?`
    * `Json.Tree.record`
    * `Json.Tree.required`
    * `Json.Tree.optional`
    * `Json.Tree.soleMember?`
-/

namespace CaptureLink

namespace Json

namespace Tree

------------------------------------------------------------
-- Simple values
------------------------------------------------------------

/- A text. -/
def text (s : String) : Tree :=
  .string (some s)

/- The text a value is. -/
def text? : Tree → Option String
| .string text => text
| _ => none

/- The truth value a value is. -/
def bool? : Tree → Option Bool
| .bool b => some b
| _ => none

/- A double; what is not finite has no numeral. -/
def real (x : Binary64) : Tree :=
  if x.isFinite then .number (realText x) else .null

/- The double nearest to a number. -/
def real? : Tree → Option Binary64
| .number spelling =>
    (Numeral.ofChars? spelling).bind Numeral.toBinary64?
| _ => none

/- A natural number. -/
def natural (n : Nat) : Tree :=
  .number (Nat.toDigits 10 n)

/- The 32-bit word that a value is. -/
def word32? : Tree → Option UInt32
| .number spelling =>
    match (Numeral.ofChars? spelling).bind Numeral.natural? with
    | some n => if n < UInt32.size then some (UInt32.ofNat n) else none
    | none => none
| _ => none

/- The items of an array. -/
def items? : Tree → Option (List Tree)
| .array items => some items
| _ => none

------------------------------------------------------------
-- Records
------------------------------------------------------------

/- A record with its fields in order. -/
def record (fields : List (String × Tree)) : Tree :=
  .object (fields.map fun (name, value) => (some name, value))

/- The values of all members with one name. -/
def valuesOf
    (members : List (Option String × Tree))
    (name : String) : List Tree :=
  members.filterMap fun (key, value) =>
    if key = some name then some value else none

/- The value of a member that is there once or not at all. -/
def single? : List Tree → Option (Option Tree)
| [] => some none
| [value] => some (some value)
| _ => none

/- The fields as an array gives them; those left out are at the end. -/
def placed? :
    List String → List Tree → Option (List (Option Tree))
| [], [] => some []
| [], _ :: _ => none
| _ :: names, [] => (placed? names []).map (none :: ·)
| _ :: names, value :: values =>
    (placed? names values).map (some value :: ·)

/-
  The fields with the given names.  In an object every key
  has to be a text, fields may not be repeated, and keys that
  are no field are passed over.
-/
def fields?
    (names : List String) :
    Tree → Option (List (Option Tree))
| .object members =>
    if members.all (·.1.isSome) then
      names.mapM fun name => single? (valuesOf members name)
    else
      none
| .array values => placed? names values
| _ => none

/- The key and value of an object with one member. -/
def soleMember? : Tree → Option (String × Tree)
| .object [(some key, value)] => some (key, value)
| _ => none

end Tree

------------------------------------------------------------
-- Fields
------------------------------------------------------------

/- A field that has to be there. -/
def required
    {α : Type}
    (read : Tree → Option α) :
    Option Tree → Option α
| some value => read value
| none => none

/- A field with a default. -/
def withDefault
    {α : Type}
    (default : α)
    (read : Tree → Option α) :
    Option Tree → Option α
| some value => read value
| none => some default

/- A field that may be left out or be null. -/
def nullable
    {α : Type}
    (read : Tree → Option α) :
    Option Tree → Option (Option α)
| none => some none
| some .null => some none
| some value => (read value).map some

end Json

end CaptureLink
