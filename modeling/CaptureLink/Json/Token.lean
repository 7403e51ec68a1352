import CaptureLink.Json.Numeral
import CaptureLink.Text.Digit

/-
  JSON text as a sequence of tokens.  A string token holds
  its text with the escapes resolved, or nothing when an
  escape names half of a surrogate pair, since then it is
  well formed but spells no text.

  Key definitions include:
    * `Json.Token`
    * `Json.StringUnit`
    * `Json.StringUnit.text?`
    * `Json.Token.scan?`
-/

namespace CaptureLink

namespace Json

------------------------------------------------------------
-- Strings
------------------------------------------------------------

/- What one character or escape of a string contributes. -/
inductive StringUnit where
/- A character. -/
| char (c : Char)
/- Half of a surrogate pair, by its code. -/
| half (code : Nat)
deriving DecidableEq, Repr

namespace StringUnit

/- The unit that a four-digit escape names. -/
def ofCode (code : Nat) : StringUnit :=
  if 0xD800 ≤ code ∧ code < 0xE000 then
    .half code
  else
    .char (Char.ofNat code)

/- The character of a surrogate pair. -/
def pair? (high low : Nat) : Option Char :=
  if high < 0xDC00 ∧ 0xDC00 ≤ low then
    some (Char.ofNat
      (0x10000 + (high - 0xD800) * 0x400 + (low - 0xDC00)))
  else
    none

/- Join units behind characters already joined, newest first. -/
def joinOnto
    (done : List Char) :
    List StringUnit → Option String
| [] => some (String.ofList done.reverse)
| .char c :: rest => joinOnto (c :: done) rest
| .half high :: .half low :: rest =>
    match pair? high low with
    | some c => joinOnto (c :: done) rest
    | none => none
| .half _ :: _ => none

/- The text that units spell; halves have to come in pairs. -/
def text? (units : List StringUnit) : Option String :=
  joinOnto [] units

/- The character that an escape of one letter names. -/
def escape? : Char → Option Char
| '"' => some '"'
| '\\' => some '\\'
| '/' => some '/'
| 'b' => some '\x08'
| 'f' => some '\x0c'
| 'n' => some '\n'
| 'r' => some '\r'
| 't' => some '\t'
| _ => none

/- The code that four hexadecimal digits spell. -/
def code? (a b c d : Char) : Option Nat := do
  let a ← Text.hexDigit? a
  let b ← Text.hexDigit? b
  let c ← Text.hexDigit? c
  let d ← Text.hexDigit? d
  some (a * 4096 + b * 256 + c * 16 + d)

/-
  Read a string up to its closing quote, behind units already
  read, newest first.  Control characters have to be escaped.
-/
def scanOnto
    (done : List StringUnit) :
    List Char → Option (List StringUnit × List Char)
| [] => none
| '"' :: rest => some (done.reverse, rest)
| '\\' :: 'u' :: a :: b :: c :: d :: rest =>
    match code? a b c d with
    | some code => scanOnto (ofCode code :: done) rest
    | none => none
| '\\' :: letter :: rest =>
    match escape? letter with
    | some c => scanOnto (.char c :: done) rest
    | none => none
| c :: rest =>
    if c = '\\' ∨ c.toNat < 0x20 then
      none
    else
      scanOnto (.char c :: done) rest

/- Reading a string takes at least its closing quote. -/
theorem length_lt_of_scanOnto
    {done units : List StringUnit}
    {cs rest : List Char}
    (h : scanOnto done cs = some (units, rest)) :
    rest.length < cs.length := by
  fun_induction scanOnto done cs <;>
    simp_all only [List.length_cons, Option.some.injEq,
      Prod.mk.injEq, reduceCtorEq, forall_const] <;>
    omega

end StringUnit

------------------------------------------------------------
-- Tokens
------------------------------------------------------------

/- The tokens of JSON text; white space is none of them. -/
inductive Token where
| openArray
| closeArray
| openObject
| closeObject
| comma
| colon
| null
| bool (b : Bool)
/- A numeral as it is spelled. -/
| number (spelling : List Char)
/- A string, if it spells a text. -/
| string (text : Option String)
deriving DecidableEq, Repr

namespace Token

/- The four characters that may stand between tokens. -/
def isBlank (c : Char) : Bool :=
  c = ' ' || c = '\t' || c = '\n' || c = '\r'

/- The characters of which numerals consist. -/
def inNumeral (c : Char) : Bool :=
  c.isDigit || c = '-' || c = '+' || c = '.' ||
    c = 'e' || c = 'E'

/- The tokens of one character. -/
def mark? : Char → Option Token
| '[' => some .openArray
| ']' => some .closeArray
| '\x7b' => some .openObject
| '\x7d' => some .closeObject
| ',' => some .comma
| ':' => some .colon
| _ => none

/- The token at the front of a text without leading blanks. -/
def next? : List Char → Option (Token × List Char)
| [] => none
| '"' :: cs =>
    (StringUnit.scanOnto [] cs).map
      fun (units, rest) => (.string (StringUnit.text? units), rest)
| 'n' :: 'u' :: 'l' :: 'l' :: rest => some (.null, rest)
| 't' :: 'r' :: 'u' :: 'e' :: rest => some (.bool true, rest)
| 'f' :: 'a' :: 'l' :: 's' :: 'e' :: rest => some (.bool false, rest)
| c :: cs =>
    match mark? c with
    | some t => some (t, cs)
    | none =>
        if inNumeral c then
          let spelling := c :: cs.takeWhile inNumeral
          if (Numeral.ofChars? spelling).isSome then
            some (.number spelling, cs.dropWhile inNumeral)
          else
            none
        else
          none

/- A token takes at least one character. -/
theorem length_lt_of_next?
    {cs rest : List Char}
    {t : Token}
    (h : next? cs = some (t, rest)) :
    rest.length < cs.length := by
  unfold next? at h
  split at h
  · cases h
  · rename_i cs
    simp only [Option.map_eq_some_iff, Prod.exists, Prod.mk.injEq] at h
    obtain ⟨units, rest', hScan, _, rfl⟩ := h
    have := StringUnit.length_lt_of_scanOnto hScan
    simp only [List.length_cons]
    omega
  · grind
  · grind
  · grind
  · rename_i c cs _ _ _ _
    have hDrop : (cs.dropWhile inNumeral).length ≤ cs.length :=
      (List.dropWhile_sublist _).length_le
    simp only at h
    split at h
    · grind
    · split at h
      · split at h
        · simp only [Option.some.injEq, Prod.mk.injEq] at h
          obtain ⟨_, rfl⟩ := h
          simp only [List.length_cons]
          omega
        · cases h
      · cases h

/- Scan on behind tokens already scanned, newest first. -/
def scanOnto
    (done : List Token)
    (cs : List Char) : Option (List Token) :=
  match cs with
  | [] => some done.reverse
  | c :: rest =>
      if isBlank c then
        scanOnto done rest
      else
        match _h : next? (c :: rest) with
        | none => none
        | some (t, behind) => scanOnto (t :: done) behind
termination_by cs.length
decreasing_by
  · simp
  · exact length_lt_of_next? _h

/- The tokens of a text, if it consists of tokens and blanks. -/
def scan? (cs : List Char) : Option (List Token) :=
  scanOnto [] cs

end Token

end Json

end CaptureLink
