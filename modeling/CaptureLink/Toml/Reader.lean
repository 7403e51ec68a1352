import CaptureLink.Toml.Scalar
import CaptureLink.Toml.Text

/-
  Keys and values at the front of a TOML text.  Containers in
  one another, and keys in a dotted key, are limited in
  number.

  Key definitions include:
    * `Toml.nesting`
    * `Toml.keyPathAt?`
    * `Toml.afterBreaks?`
    * `Toml.itemsAt?`
    * `Toml.inlineTable?`
    * `Toml.valueAt?`
-/

namespace CaptureLink

namespace Toml

/- How many containers may lie in one another, and keys in a dotted key. -/
def nesting : Nat := 79

------------------------------------------------------------
-- Keys
------------------------------------------------------------

/- A character of a key without quotes. -/
def inBareKey (c : Char) : Bool :=
  c.isAlphanum || c = '_' || c = '-'

/- A text without the blanks in front. -/
def skipSpaces (cs : List Char) : List Char :=
  cs.dropWhile isSpace

/- A key at the front of a text. -/
def keyAt? (cs : List Char) : Option (String × List Char) :=
  match lineStringAt? cs with
  | some (key, rest) => some (String.ofList key, rest)
  | none =>
      match cs.takeWhile inBareKey with
      | [] => none
      | key => some (String.ofList key, cs.dropWhile inBareKey)

/- Keys with points between them, not more than there is room for. -/
def keysAt? : Nat → List Char → Option (List String × List Char)
| 0, _ => none
| room + 1, cs => do
    let (key, cs) ← keyAt? (skipSpaces cs)
    match skipSpaces cs with
    | '.' :: cs => do
        let (keys, cs) ← keysAt? room cs
        some (key :: keys, cs)
    | cs => some ([key], cs)

/- A key that may be dotted: its outer keys and the last one. -/
def keyPathAt?
    (cs : List Char) :
    Option (List String × String × List Char) := do
  let (keys, cs) ← keysAt? nesting cs
  some (keys.dropLast, ← keys.getLast?, cs)

------------------------------------------------------------
-- Blanks and comments
------------------------------------------------------------

/- What follows a comment, which reaches to the end of its line. -/
def afterComment? (cs : List Char) : Option (List Char) :=
  match cs.dropWhile isPlain with
  | [] => some []
  | '\n' :: rest => some ('\n' :: rest)
  | _ => none

/- A comment does not get longer. -/
theorem length_le_of_afterComment?
    {cs rest : List Char}
    (h : afterComment? cs = some rest) :
    rest.length ≤ cs.length := by
  have hDrop : (cs.dropWhile isPlain).length ≤ cs.length :=
    (List.dropWhile_sublist _).length_le
  unfold afterComment? at h
  split at h
  · simp only [Option.some.injEq] at h
    simp [← h]
  · rename_i behind hEq
    simp only [Option.some.injEq] at h
    rw [← h, ← hEq]
    exact hDrop
  · cases h

/- A text without blanks, line breaks and comments in front. -/
def afterBreaks? (cs : List Char) : Option (List Char) :=
  match cs with
  | [] => some []
  | c :: rest =>
      if isSpace c || c = '\n' then
        afterBreaks? rest
      else if c = '#' then
        match _h : afterComment? rest with
        | some behind => afterBreaks? behind
        | none => none
      else
        some (c :: rest)
termination_by cs.length
decreasing_by
  · simp
  · have := length_le_of_afterComment? _h
    simp only [List.length_cons]
    omega

/- What follows the end of a line that holds nothing else. -/
def afterLine? (cs : List Char) : Option (List Char) :=
  let behind :=
    match skipSpaces cs with
    | '#' :: rest => afterComment? rest
    | rest => some rest
  match behind with
  | some [] => some []
  | some ('\n' :: rest) => some rest
  | _ => none

------------------------------------------------------------
-- Tables in braces
------------------------------------------------------------

/-
  Enter a value under a path of keys into the entries of a
  table in braces.  Outer keys make tables, and only tables
  that were made like this can be added to.
-/
def enterInline? :
    List String → String → Value → Entries → Option Entries
| [], key, value, es => es.add? key value
| outer :: path, key, value, es =>
    match es.find? outer with
    | none => do
        let inner ← enterInline? path key value []
        some (es ++ [(outer, .inline true inner)])
    | some (.inline true inner) => do
        let inner ← enterInline? path key value inner
        some (es.replace outer (.inline true inner))
    | some _ => none

/- A key path with its value. -/
structure Assignment where
  path : List String
  key : String
  value : Value

/- The table that assignments make, in their order. -/
def inlineTable? (assignments : List Assignment) : Option Value := do
  let es ← assignments.foldlM
    (fun es a => enterInline? a.path a.key a.value es) []
  some (.inline false es)

------------------------------------------------------------
-- Containers
------------------------------------------------------------

section Containers

/- Containers read their values by a reader of values. -/
variable (value? : List Char → Option (Value × List Char))

/- The items of an array, behind its bracket; a last comma is allowed. -/
def itemsAt? :
    Nat → List Char → Option (List Value × List Char)
| 0, _ => none
| count + 1, cs => do
    match ← afterBreaks? cs with
    | ']' :: rest => some ([], rest)
    | cs => do
        let (item, cs) ← value? cs
        match ← afterBreaks? cs with
        | ',' :: cs => do
            let (items, cs) ← itemsAt? count cs
            some (item :: items, cs)
        | ']' :: rest => some ([item], rest)
        | _ => none

/- A key, an equals sign and a value. -/
def assignmentAt?
    (cs : List Char) : Option (Assignment × List Char) := do
  let (path, key, cs) ← keyPathAt? cs
  match cs with
  | '=' :: cs => do
      let (value, cs) ← value? (skipSpaces cs)
      some (⟨path, key, value⟩, cs)
  | _ => none

/- One assignment or more, behind the brace of a table. -/
def assignmentsAt? :
    Nat → List Char → Option (List Assignment × List Char)
| 0, _ => none
| count + 1, cs => do
    let (a, cs) ← assignmentAt? value? cs
    match skipSpaces cs with
    | ',' :: cs => do
        let (as, cs) ← assignmentsAt? count cs
        some (a :: as, cs)
    | '\x7d' :: rest => some ([a], rest)
    | _ => none

/- The assignments of a table, which may be empty. -/
def bracedAt?
    (cs : List Char) : Option (List Assignment × List Char) :=
  match skipSpaces cs with
  | '\x7d' :: rest => some ([], rest)
  | cs => assignmentsAt? value? (cs.length + 1) cs

end Containers

/- A value with at most so many containers in one another. -/
def valueAt? : Nat → List Char → Option (Value × List Char)
| 0, cs =>
    match stringAt? cs with
    | some (s, rest) => some (.string (String.ofList s), rest)
    | none => scalarAt? cs
| depth + 1, '[' :: cs => do
    let (items, cs) ← itemsAt? (valueAt? depth) (cs.length + 1) cs
    some (.array items, cs)
| depth + 1, '\x7b' :: cs => do
    let (assignments, cs) ← bracedAt? (valueAt? depth) cs
    some (← inlineTable? assignments, cs)
| _ + 1, cs =>
    match stringAt? cs with
    | some (s, rest) => some (.string (String.ofList s), rest)
    | none => scalarAt? cs

end Toml

end CaptureLink
