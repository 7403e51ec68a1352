import CaptureLink.Json.Token

/-
  JSON text as a tree.  The tree keeps what the text says:
  numerals as they are spelled, members of an object in order
  and with repeated keys, and strings that spell no text.
  What a reader makes of such things is its own rule.

  Tokens are read one by one by a machine that keeps the open
  containers on a stack, so any depth of nesting is read.

  Key definitions include:
    * `Json.Tree`
    * `Json.Phase`
    * `Json.Phase.step?`
    * `Json.Tree.ofTokens?`
    * `Json.Tree.ofChars?`
    * `Json.Tree.settle?`
-/

namespace CaptureLink

namespace Json

/- A JSON value as its text gives it. -/
inductive Tree where
| null
| bool (b : Bool)
| number (spelling : List Char)
| string (text : Option String)
| array (items : List Tree)
| object (members : List (Option String × Tree))

/- A container that is still open, without the value read next. -/
inductive Container where
/- The items so far, newest first. -/
| array (items : List Tree)
/- The members so far, newest first, and the key of the next one. -/
| object
    (members : List (Option String × Tree))
    (key : Option String)

/- What the machine expects, with the open containers, innermost first. -/
inductive Phase where
/- A value. -/
| value (outer : List Container)
/- The first item of an array, or its end. -/
| arrayStart (outer : List Container)
/- The first key of an object, or its end. -/
| objectStart (outer : List Container)
/- A further key of an object. -/
| key
    (members : List (Option String × Tree))
    (outer : List Container)
/- The colon behind a key. -/
| colon
    (members : List (Option String × Tree))
    (key : Option String)
    (outer : List Container)
/- What follows a complete value. -/
| done (value : Tree) (outer : List Container)

namespace Phase

/- Start or complete a value. -/
def begin?
    (outer : List Container) :
    Token → Option Phase
| .null => some (.done .null outer)
| .bool b => some (.done (.bool b) outer)
| .number spelling => some (.done (.number spelling) outer)
| .string text => some (.done (.string text) outer)
| .openArray => some (.arrayStart outer)
| .openObject => some (.objectStart outer)
| _ => none

/- Go on behind a complete value. -/
def proceed?
    (tree : Tree) :
    List Container → Token → Option Phase
| .array items :: outer, .comma =>
    some (.value (.array (tree :: items) :: outer))
| .array items :: outer, .closeArray =>
    some (.done (.array (tree :: items).reverse) outer)
| .object members name :: outer, .comma =>
    some (.key ((name, tree) :: members) outer)
| .object members name :: outer, .closeObject =>
    some (.done (.object ((name, tree) :: members).reverse) outer)
| _, _ => none

/- Take one token. -/
def step? : Phase → Token → Option Phase
| .value outer, t => begin? outer t
| .arrayStart outer, .closeArray => some (.done (.array []) outer)
| .arrayStart outer, t => begin? (.array [] :: outer) t
| .objectStart outer, .closeObject => some (.done (.object []) outer)
| .objectStart outer, .string name => some (.colon [] name outer)
| .key members outer, .string name => some (.colon members name outer)
| .colon members name outer, .colon =>
    some (.value (.object members name :: outer))
| .done tree outer, t => proceed? tree outer t
| _, _ => none

/- Take all tokens. -/
def run? (phase : Phase) : List Token → Option Phase
| [] => some phase
| t :: ts =>
    match phase.step? t with
    | some next => run? next ts
    | none => none

end Phase

namespace Tree

/- The value that some tokens spell. -/
def ofTokens? (ts : List Token) : Option Tree :=
  match (Phase.value []).run? ts with
  | some (.done tree []) => some tree
  | _ => none

/- The value that a text spells. -/
def ofChars? (cs : List Char) : Option Tree :=
  (Token.scan? cs).bind ofTokens?

------------------------------------------------------------
-- Settled trees
------------------------------------------------------------

/- The deepest nesting of containers in a settled tree. -/
def maxDepth : Nat := 127

/- The members that no later member with the same key replaces. -/
def lastOfEach
    {α : Type} :
    List (Option String × α) →
      List (Option String × α)
| [] => []
| m :: rest =>
    if rest.any (·.1 == m.1) then
      lastOfEach rest
    else
      m :: lastOfEach rest

/-
  The tree as a reader without expectations keeps it.  Every
  string has to spell a text and every numeral a double,
  containers nest at most `depth` deep, and of members with
  one key the last stands.
-/
def settle? : Nat → Tree → Option Tree
| _, .null => some .null
| _, .bool b => some (.bool b)
| _, .number spelling =>
    match (Numeral.ofChars? spelling).bind Numeral.toBinary64? with
    | some _ => some (.number spelling)
    | none => none
| _, .string text => text.map fun s => .string (some s)
| 0, .array _ => none
| 0, .object _ => none
| depth + 1, .array items =>
    (items.mapM (settle? depth)).map .array
| depth + 1, .object members => do
    let members ← members.mapM fun (key, value) => do
      let key ← key
      let value ← settle? depth value
      some (some key, value)
    some (.object (lastOfEach members))

end Tree

end Json

end CaptureLink
