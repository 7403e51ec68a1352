import CaptureLink.Number.Shortest

/-
  Numbers as JSON writes them: what a numeral may look like,
  which number it stands for, and how a double is written.

  Key definitions include:
    * `Json.Numeral`
    * `Json.Numeral.ofChars?`
    * `Json.Numeral.natural?`
    * `Json.Numeral.toBinary64?`
    * `Json.realText`
-/

namespace CaptureLink

namespace Json

------------------------------------------------------------
-- Numerals
------------------------------------------------------------

/-
  A numeral by its parts.  It is integral when it has neither
  a fraction nor an exponent, whatever its value.
-/
structure Numeral where
  negative : Bool
  whole : List Char
  fraction : List Char
  exponent : Int
  integral : Bool
deriving DecidableEq, Repr

namespace Numeral

/- Split off the digits at the front; there must be one. -/
def digits?
    (cs : List Char) :
    Option (List Char × List Char) :=
  match cs.takeWhile Char.isDigit with
  | [] => none
  | ds => some (ds, cs.dropWhile Char.isDigit)

/- Digits without a superfluous zero in front. -/
def whole?
    (cs : List Char) :
    Option (List Char × List Char) :=
  match digits? cs with
  | some ('0' :: _ :: _, _) => none
  | split => split

/- The part behind a point, if there is a point. -/
def fraction? :
    List Char → Option (List Char × List Char)
| '.' :: cs => digits? cs
| cs => some ([], cs)

/- The power of ten behind the exponent mark, which ends the numeral. -/
def power? : List Char → Option Int
| '-' :: cs => do
    let (ds, rest) ← digits? cs
    if rest.isEmpty then
      some (-(Nat.ofDigitChars 10 ds 0 : Int))
    else none
| '+' :: cs => do
    let (ds, rest) ← digits? cs
    if rest.isEmpty then
      some (Nat.ofDigitChars 10 ds 0)
    else none
| cs => do
    let (ds, rest) ← digits? cs
    if rest.isEmpty then
      some (Nat.ofDigitChars 10 ds 0)
    else none

/- A numeral without its sign. -/
def unsigned?
    (negative : Bool)
    (cs : List Char) : Option Numeral := do
  let (whole, cs) ← whole? cs
  let (fraction, cs) ← fraction? cs
  match cs with
  | [] => some ⟨negative, whole, fraction, 0, fraction.isEmpty⟩
  | mark :: cs =>
      if mark = 'e' ∨ mark = 'E' then do
        let exponent ← power? cs
        some ⟨negative, whole, fraction, exponent, false⟩
      else none

/- The numeral that some characters spell. -/
def ofChars? : List Char → Option Numeral
| '-' :: cs => unsigned? true cs
| cs => unsigned? false cs

/- The number a numeral stands for. -/
def toDecimal (n : Numeral) : Decimal where
  negative := n.negative
  digits := Nat.ofDigitChars 10 (n.whole ++ n.fraction) 0
  scale := n.exponent - n.fraction.length

/- The double nearest to the number, if it is in range. -/
def toBinary64? (n : Numeral) : Option Binary64 :=
  n.toDecimal.toBinary64?

/- The number as a natural number: an integral numeral without a sign. -/
def natural? (n : Numeral) : Option Nat :=
  if n.integral && !n.negative then
    some (Nat.ofDigitChars 10 n.whole 0)
  else
    none

end Numeral

------------------------------------------------------------
-- Writing doubles
------------------------------------------------------------

/- How many decimal places left of the point are still written out. -/
def widestWhole : Int := 16

/- How many zeros right of the point are still written out, less one. -/
def deepestFraction : Int := -5

/- An exponent with its sign, which is always written. -/
def exponentText (e : Int) : List Char :=
  (if e < 0 then '-' else '+') :: Nat.toDigits 10 e.natAbs

/-
  Digits `ds`, the last of them worth `10 ^ scale`.  The point
  goes inside or next to the digits while the number is of
  moderate size, and behind the first digit otherwise.
-/
def layout
    (ds : List Char)
    (scale : Int) : List Char :=
  let point : Int := ds.length + scale
  if 0 ≤ scale ∧ point ≤ widestWhole then
    ds ++ List.replicate scale.toNat '0' ++ ['.', '0']
  else if 0 < point ∧ point ≤ widestWhole then
    ds.take point.toNat ++ '.' :: ds.drop point.toNat
  else if deepestFraction < point ∧ point ≤ 0 then
    '0' :: '.' :: (List.replicate (-point).toNat '0' ++ ds)
  else
    match ds with
    | [d] => d :: 'e' :: exponentText (point - 1)
    | d :: rest => d :: '.' :: (rest ++ 'e' :: exponentText (point - 1))
    | [] => []

/-
  The text of a finite double: the shortest digits that read
  back.
-/
def realText (x : Binary64) : List Char :=
  let unsigned :=
    if x.isZero then
      ['0', '.', '0']
    else
      let d := x.shortest
      layout (Nat.toDigits 10 d.digits) d.scale
  if x.negative then '-' :: unsigned else unsigned

end Json

end CaptureLink
