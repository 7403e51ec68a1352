/-
  TOML values.  Of numbers with a fraction and of dates and
  times only their presence is kept, since no setting is one.

  Key definitions include:
    * `Toml.Origin`
    * `Toml.Value`
    * `Toml.Entries`
    * `Toml.Entries.find?`
-/

namespace CaptureLink

namespace Toml

/- How a table came about, which decides who may add to it. -/
inductive Origin where
/- By a header of its own. -/
| header
/- As an outer table in a header. -/
| path
/- As an outer key in a dotted key. -/
| dotted
deriving DecidableEq, Repr

/- A value with the tables in it. -/
inductive Value where
| string (s : String)
| integer (n : Int)
/- A number with a fraction or an exponent. -/
| float
| bool (b : Bool)
/- A date, a time, or both. -/
| moment
| array (items : List Value)
/- A table in braces, or one that a dotted key made in it. -/
| inline (dotted : Bool) (entries : List (String × Value))
| table (origin : Origin) (entries : List (String × Value))
/- Tables that headers in double brackets collect. -/
| collection (elements : List (List (String × Value)))

/- The entries of a table in order. -/
abbrev Entries := List (String × Value)

namespace Entries

/- The value of a key. -/
def find?
    (es : Entries)
    (key : String) : Option Value :=
  (List.find? (·.1 = key) es).map (·.2)

/- Put another value in the place of one. -/
def replace
    (es : Entries)
    (key : String)
    (value : Value) : Entries :=
  es.map fun e => if e.1 = key then (key, value) else e

/- The entries without a key. -/
def erase
    (es : Entries)
    (key : String) : Entries :=
  es.filter (·.1 ≠ key)

/- Add a key that is not there yet. -/
def add?
    (es : Entries)
    (key : String)
    (value : Value) : Option Entries :=
  match es.find? key with
  | none => some (es ++ [(key, value)])
  | some _ => none

end Entries

end Toml

end CaptureLink
