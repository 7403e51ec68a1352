import CaptureLink.Number.Decimal
import CaptureLink.Text.Digit
import CaptureLink.Toml.Value

/-
  The values of TOML that consist of one word: truth values,
  numbers, dates and times.

  Key definitions include:
    * `Toml.integer?`
    * `Toml.isFloat`
    * `Toml.isMoment`
    * `Toml.word?`
    * `Toml.scalarAt?`
-/

namespace CaptureLink

namespace Toml

------------------------------------------------------------
-- Runs of digits
------------------------------------------------------------

/- Digits, with single underscores between them if need be. -/
def isRun (isDigit : Char → Bool) : List Char → Bool
| [] => false
| [c] => isDigit c
| c :: '_' :: rest => isDigit c && isRun isDigit rest
| c :: rest => isDigit c && isRun isDigit rest

/- A run of decimal digits without a superfluous zero in front. -/
def isWhole (cs : List Char) : Bool :=
  isRun Char.isDigit cs && (cs = ['0'] || cs.head? ≠ some '0')

/- The number that a run of digits spells. -/
def runValue
    (base : Nat)
    (cs : List Char) : Nat :=
  Text.spelled base (cs.filterMap Text.hexDigit?)

/- A run of decimal digits or underscores at the front of a word. -/
def runAt (cs : List Char) : List Char × List Char :=
  cs.span fun c => c.isDigit || c = '_'

/- A sign in front of a word, and the word without it. -/
def signed : List Char → Bool × List Char
| '-' :: cs => (true, cs)
| '+' :: cs => (false, cs)
| cs => (false, cs)

------------------------------------------------------------
-- Integers
------------------------------------------------------------

/- The greatest integer. -/
def maxInteger : Nat := 9223372036854775807

/- A number that is not too great. -/
def bounded? (n : Nat) : Option Int :=
  if n ≤ maxInteger then some n else none

/- The integer that a run of digits of some base spells. -/
def based?
    (base : Nat)
    (isDigit : Char → Bool)
    (cs : List Char) : Option Int :=
  if isRun isDigit cs then bounded? (runValue base cs) else none

/- The integer that a decimal word spells. -/
def decimal? (cs : List Char) : Option Int :=
  let (negative, ds) := signed cs
  if isWhole ds then
    let n := runValue 10 ds
    if negative then
      if n ≤ maxInteger + 1 then some (-(n : Int)) else none
    else
      bounded? n
  else
    none

/- The integer that a word spells. -/
def integer? : List Char → Option Int
| '0' :: 'x' :: cs =>
    based? 16 (fun c => (Text.hexDigit? c).isSome) cs
| '0' :: 'o' :: cs =>
    based? 8 (fun c => '0' ≤ c && c ≤ '7') cs
| '0' :: 'b' :: cs =>
    based? 2 (fun c => c = '0' || c = '1') cs
| cs => decimal? cs

------------------------------------------------------------
-- Floats
------------------------------------------------------------

/- The exponent that ends a word. -/
def exponent? : List Char → Option Int
| mark :: cs =>
    if mark = 'e' ∨ mark = 'E' then
      let (negative, ds) := signed cs
      if isRun Char.isDigit ds then
        let n : Int := runValue 10 ds
        some (if negative then -n else n)
      else
        none
    else
      none
| [] => none

/- The number that a word with a fraction or an exponent spells. -/
def fractional? (cs : List Char) : Option Decimal :=
  let (negative, cs) := signed cs
  let (whole, cs) := runAt cs
  if isWhole whole then
    match cs with
    | '.' :: cs =>
        let (fraction, cs) := runAt cs
        if isRun Char.isDigit fraction then
          let ds := (whole ++ fraction).filter (· ≠ '_')
          let places := (fraction.filter (· ≠ '_')).length
          match if cs = [] then some 0 else exponent? cs with
          | some e => some ⟨negative, runValue 10 ds, e - places⟩
          | none => none
        else
          none
    | cs => (exponent? cs).map (⟨negative, runValue 10 whole, ·⟩)
  else
    none

/-
  A word that spells a float.  A number above the range of
  doubles is refused, one below it is negative infinity.
-/
def isFloat (cs : List Char) : Bool :=
  match (signed cs).2 with
  | ['i', 'n', 'f'] => true
  | ['n', 'a', 'n'] => true
  | _ =>
      match fractional? cs with
      | some d => d.negative || d.toBinary64?.isSome
      | none => false

------------------------------------------------------------
-- Dates and times
------------------------------------------------------------

/- The number that two digits spell, if it lies in a range. -/
def pair?
    (low high : Nat)
    (a b : Char) : Option Nat := do
  let n := Text.spelled 10 [← Text.digit? a, ← Text.digit? b]
  if low ≤ n ∧ n ≤ high then some n else none

/- The number of days of a month. -/
def daysOf (year month : Nat) : Nat :=
  if month = 2 then
    if year % 4 = 0 ∧ (year % 100 ≠ 0 ∨ year % 400 = 0) then 29
    else 28
  else if month = 4 ∨ month = 6 ∨ month = 9 ∨ month = 11 then 30
  else 31

/- What follows a date at the front of a word. -/
def dateAt? : List Char → Option (List Char)
| y₁ :: y₂ :: y₃ :: y₄ :: '-' :: m₁ :: m₂ :: '-' :: d₁ :: d₂ ::
    rest => do
    let year := Text.spelled 10
      (← [y₁, y₂, y₃, y₄].mapM Text.digit?)
    let month ← pair? 1 12 m₁ m₂
    let _ ← pair? 1 (daysOf year month) d₁ d₂
    some rest
| _ => none

/- What follows the fraction of a second, which may be missing. -/
def secondFractionAt? : List Char → Option (List Char)
| '.' :: cs =>
    if (cs.takeWhile Char.isDigit).isEmpty then none
    else some (cs.dropWhile Char.isDigit)
| cs => some cs

/- What follows a time at the front of a word. -/
def timeAt? : List Char → Option (List Char)
| h₁ :: h₂ :: ':' :: m₁ :: m₂ :: ':' :: s₁ :: s₂ :: rest => do
    let _ ← pair? 0 23 h₁ h₂
    let _ ← pair? 0 59 m₁ m₂
    let _ ← pair? 0 60 s₁ s₂
    secondFractionAt? rest
| _ => none

/- The distance from universal time, which may be missing. -/
def isOffset : List Char → Bool
| [] => true
| ['Z'] => true
| ['z'] => true
| [sign, h₁, h₂, ':', m₁, m₂] =>
    (sign = '+' || sign = '-') &&
      (pair? 0 23 h₁ h₂).isSome && (pair? 0 59 m₁ m₂).isSome
| _ => false

/- A word that spells a time of a date. -/
def isTimeOfDate (cs : List Char) : Bool :=
  match timeAt? cs with
  | some rest => isOffset rest
  | none => false

/- A word that spells a date, a time, or both. -/
def isMoment (cs : List Char) : Bool :=
  match dateAt? cs with
  | some [] => true
  | some (mark :: rest) =>
      (mark = 'T' || mark = 't') && isTimeOfDate rest
  | none => timeAt? cs = some []

------------------------------------------------------------
-- Words
------------------------------------------------------------

/- The value that a word spells. -/
def word? (cs : List Char) : Option Value :=
  if cs = ['t', 'r', 'u', 'e'] then some (.bool true)
  else if cs = ['f', 'a', 'l', 's', 'e'] then some (.bool false)
  else if isMoment cs then some .moment
  else if isFloat cs then some .float
  else (integer? cs).map .integer

/- A character inside a word. -/
def inWord (c : Char) : Bool :=
  !(c = ' ' || c = '\t' || c = '\n' || c = ',' || c = ']' ||
    c = '\x7d' || c = '#')

/- What is left when a date is followed by a time behind a blank. -/
def dropTime (cs : List Char) : List Char :=
  match cs with
  | ' ' :: behind =>
      if isTimeOfDate (behind.takeWhile inWord) then
        behind.dropWhile inWord
      else
        cs
  | _ => cs

/- The value of the word at the front of a text. -/
def scalarAt? (cs : List Char) : Option (Value × List Char) :=
  let word := cs.takeWhile inWord
  let rest := cs.dropWhile inWord
  match word? word with
  | some v =>
      some (v, if dateAt? word = some [] then dropTime rest else rest)
  | none => none

end Toml

end CaptureLink
