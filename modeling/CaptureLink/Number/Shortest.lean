import CaptureLink.Number.Decimal

/-
  The shortest decimal that reads back as a given double.
  For each count of digits the value has two neighbours on
  the grid of decimals with that many digits; the first grid
  on which one of them reads back wins, of two the nearer
  one, and of two equally near the even one.

  Key definitions include:
    * `Binary64.exactDecimal`
    * `Binary64.shortest`
-/

namespace CaptureLink

namespace Binary64

/-
  The value of a finite number, exactly: a negative power of
  two is a power of five over a power of ten.
-/
def exactDecimal (x : Binary64) : Decimal where
  negative := x.negative
  digits :=
    if 0 ≤ x.scale then
      x.significand * Nat.pow 2 x.scale.toNat
    else
      x.significand * Nat.pow 5 (-x.scale).toNat
  scale := min x.scale 0

/-
  A neighbour of the value on the grid that drops `dropped`
  of the exact digits, if one reads back.
-/
def neighbour?
    (x : Binary64)
    (dropped : Nat) : Option Decimal :=
  let exact := x.exactDecimal
  let step := Nat.pow 10 dropped
  let rest := exact.digits % step
  let below : Decimal :=
    ⟨exact.negative, exact.digits / step, exact.scale + dropped⟩
  let above : Decimal :=
    { below with digits := below.digits + 1 }
  match below.toBinary64? == some x,
      above.toBinary64? == some x with
  | true, true =>
      if 2 * rest < step then some below
      else if step < 2 * rest then some above
      else if below.digits % 2 = 0 then some below
      else some above
  | true, false => some below
  | false, true => some above
  | false, false => none

/-
  Search the grids from the coarsest one on.  The last grid
  drops no digit, and there the value itself reads back.
-/
def searchGrids
    (x : Binary64) :
    Nat → Decimal
| 0 => x.exactDecimal
| dropped + 1 =>
    match x.neighbour? (dropped + 1) with
    | some d => d
    | none => searchGrids x dropped

/-
  The shortest decimal of a finite number other than zero.
  Rounding up can leave a power of ten, so zeros at the end
  go into the scale.
-/
def shortest (x : Binary64) : Decimal :=
  let digits := Nat.toDigits 10 x.exactDecimal.digits
  (x.searchGrids (digits.length - 1)).trimZeros

end Binary64

end CaptureLink
