import CaptureLink.Toml.Reader

/-
  TOML documents.  A document is read line by line into a
  draft, which holds the tables entered so far and the table
  that is open.  Headers close it and open another.

  Key definitions include:
    * `Toml.within?`
    * `Toml.Draft`
    * `Toml.Draft.assign?`
    * `Toml.Draft.openTable?`
    * `Toml.Draft.openElement?`
    * `Toml.Draft.close?`
    * `Toml.ofChars?`
-/

namespace CaptureLink

namespace Toml

------------------------------------------------------------
-- Tables in tables
------------------------------------------------------------

/- Everything but the last of some tables, and the entries of the last. -/
def splitLast? :
    List Entries → Option (List Entries × Entries)
| [] => none
| [es] => some ([], es)
| es :: more => do
    let (front, last) ← splitLast? more
    some (es :: front, last)

/-
  Change the entries of the table at the end of a path, which
  starts in a table of some origin.  Missing tables are made.
  In a collection the path goes on in the last table.  Dotted
  keys do not enter tables that have a header.
-/
def within?
    {α : Type}
    (made : Origin)
    (change : Origin → Entries → Option (Entries × α)) :
    List String → Origin → Entries → Option (Entries × α)
| [], origin, es => change origin es
| key :: path, _, es =>
    match es.find? key with
    | none => do
        let (inner, a) ← within? made change path made []
        some (es ++ [(key, .table made inner)], a)
    | some (.table origin inner) =>
        if made = .dotted ∧ origin = .header then
          none
        else do
          let (inner, a) ← within? made change path origin inner
          some (es.replace key (.table origin inner), a)
    | some (.collection elements) => do
        let (front, last) ← splitLast? elements
        let (last, a) ← within? made change path .header last
        some (es.replace key (.collection (front ++ [last])), a)
    | some _ => none

------------------------------------------------------------
-- Drafts
------------------------------------------------------------

/- Where the open table goes when it is closed. -/
inductive Place where
/- It is the document itself. -/
| root
/- It becomes the table of a key. -/
| table (path : List String) (key : String)
/- It is added to the collection of a key. -/
| element (path : List String) (key : String)

/- The tables that are closed, and the open one with its place. -/
structure Draft where
  closed : Entries
  place : Place
  entries : Entries

namespace Draft

/- A document without lines. -/
def empty : Draft :=
  ⟨[], .root, []⟩

/- Enter a key into the open table. -/
def assign?
    (d : Draft)
    (a : Assignment) : Option Draft := do
  let enter (origin : Origin) (es : Entries) :
      Option (Entries × Unit) :=
    if origin = .dotted ↔ a.path = [] then
      none
    else
      (es.add? a.key a.value).map (·, ())
  let (entries, _) ← within? .dotted enter a.path .header d.entries
  some { d with entries := entries }

/- Put the open table in its place. -/
def close? (d : Draft) : Option Entries :=
  match d.place with
  | .root => some d.entries
  | .table path key => do
      let enter (_ : Origin) (es : Entries) :
          Option (Entries × Unit) :=
        (es.add? key (.table .header d.entries)).map (·, ())
      let (closed, _) ← within? .path enter path .header d.closed
      some closed
  | .element path key => do
      let enter (_ : Origin) (es : Entries) :
          Option (Entries × Unit) :=
        match es.find? key with
        | none => some (es ++ [(key, .collection [d.entries])], ())
        | some (.collection elements) =>
            some
              (es.replace key
                (.collection (elements ++ [d.entries])), ())
        | some _ => none
      let (closed, _) ← within? .path enter path .header d.closed
      some closed

/-
  Open the table of a header.  If it is there as an outer
  table of earlier headers, it is taken up again.
-/
def openTable?
    (d : Draft)
    (path : List String)
    (key : String) : Option Draft := do
  let closed ← d.close?
  let take (_ : Origin) (es : Entries) : Option (Entries × Entries) :=
    match es.find? key with
    | none => some (es, [])
    | some (.table .path inner) => some (es.erase key, inner)
    | some _ => none
  let (closed, entries) ← within? .path take path .header closed
  some ⟨closed, .table path key, entries⟩

/- Open a further table of the collection of a header. -/
def openElement?
    (d : Draft)
    (path : List String)
    (key : String) : Option Draft := do
  let closed ← d.close?
  let look (_ : Origin) (es : Entries) : Option (Entries × Unit) :=
    match es.find? key with
    | none => some (es, ())
    | some (.collection _) => some (es, ())
    | some _ => none
  let (closed, _) ← within? .path look path .header closed
  some ⟨closed, .element path key, []⟩

end Draft

------------------------------------------------------------
-- Lines
------------------------------------------------------------

/- A header in single brackets, behind the bracket. -/
def headerAt?
    (d : Draft)
    (cs : List Char) : Option (Draft × List Char) := do
  let (path, key, cs) ← keyPathAt? cs
  match cs with
  | ']' :: cs => do
      let d ← d.openTable? path key
      some (d, ← afterLine? cs)
  | _ => none

/- A header in double brackets, behind the brackets. -/
def elementHeaderAt?
    (d : Draft)
    (cs : List Char) : Option (Draft × List Char) := do
  let (path, key, cs) ← keyPathAt? cs
  match cs with
  | ']' :: ']' :: cs => do
      let d ← d.openElement? path key
      some (d, ← afterLine? cs)
  | _ => none

/- One line that is not empty: a comment, a header or an assignment. -/
def lineAt?
    (d : Draft) :
    List Char → Option (Draft × List Char)
| '#' :: cs => do
    some (d, ← afterLine? ('#' :: cs))
| '[' :: '[' :: cs => elementHeaderAt? d cs
| '[' :: cs => headerAt? d cs
| cs => do
    let (a, cs) ← assignmentAt? (valueAt? nesting) cs
    let d ← d.assign? a
    some (d, ← afterLine? cs)

/- All lines, if they are not more than so many. -/
def linesAt? : Nat → Draft → List Char → Option Draft
| 0, _, _ => none
| count + 1, d, cs =>
    match skipSpaces cs with
    | [] => some d
    | '\n' :: cs => linesAt? count d cs
    | cs =>
        match lineAt? d cs with
        | some (d, cs) => linesAt? count d cs
        | none => none

------------------------------------------------------------
-- Documents
------------------------------------------------------------

/- The text with line feeds for all line breaks. -/
def feedLines : List Char → List Char
| '\r' :: '\n' :: cs => '\n' :: feedLines cs
| c :: cs => c :: feedLines cs
| [] => []

/- The text without a byte order mark in front. -/
def dropMark : List Char → List Char
| '\uFEFF' :: cs => cs
| cs => cs

/-
  The entries of the document that a text spells.  Every line
  takes at least one character, so there are no more lines
  than characters.
-/
def ofChars? (text : List Char) : Option Entries := do
  let cs := feedLines (dropMark text)
  let d ← linesAt? (cs.length + 1) .empty cs
  d.close?

end Toml

end CaptureLink
