import CaptureLink.Number.Binary64

/-
  Decimal numbers and the double nearest to each.  The value
  of a decimal is a quotient of two natural numbers; it is
  rounded once, and a value halfway between two neighbours
  goes to the one whose significand is even.

  Key definitions include:
    * `Decimal`
    * `roundHalfEven`
    * `floorLog2`
    * `Binary64.nearestMagnitude`
    * `Decimal.toBinary64?`
-/

namespace CaptureLink

------------------------------------------------------------
-- Rounding quotients
------------------------------------------------------------

/- The integer nearest to `n / d`; a half goes to the even neighbour. -/
def roundHalfEven (n d : Nat) : Nat :=
  let q := n / d
  let r := n % d
  if 2 * r < d then q
  else if d < 2 * r then q + 1
  else q + q % 2

/- The exponent of the greatest power of two not above `n / d`. -/
def floorLog2 (n d : Nat) : Int :=
  if d ≤ n then
    ((n / d).log2 : Int)
  else
    -((((d - 1) / n).log2 : Int) + 1)

/-
  The magnitude of the double nearest to `n / d`, for `n`
  above zero.  The significand gets fifty-three bits, or
  fewer below the normal range; a significand that rounds up
  to the next power of two carries into the exponent by
  itself, because exponent and fraction lie side by side.
-/
def Binary64.nearestMagnitude (n d : Nat) : Nat :=
  let scale := max (floorLog2 n d - 52) (-1074)
  let significand :=
    roundHalfEven (n * Nat.pow 2 (-scale).toNat)
      (d * Nat.pow 2 scale.toNat)
  (scale + 1074).toNat * Nat.pow 2 52 + significand

------------------------------------------------------------
-- Decimals
------------------------------------------------------------

/- The number `± digits * 10 ^ scale`. -/
structure Decimal where
  negative : Bool
  digits : Nat
  scale : Int
deriving DecidableEq, Repr

namespace Decimal

/- The value is below `10 ^ order` and, unless zero, not below a tenth of it. -/
def order (d : Decimal) : Int :=
  ((Nat.toDigits 10 d.digits).length : Int) + d.scale

/- The same value without zeros at the end of its digits. -/
def trimZeros (d : Decimal) : Decimal :=
  if d.digits ≠ 0 ∧ d.digits % 10 = 0 then
    trimZeros ⟨d.negative, d.digits / 10, d.scale + 1⟩
  else
    d
termination_by d.digits
decreasing_by omega

/-
  The nearest double, or nothing when that would be an
  infinity.  Orders far outside the range of doubles are
  settled without computing the power of ten.
-/
def toBinary64? (d : Decimal) : Option Binary64 :=
  if d.digits = 0 ∨ d.order < -330 then
    some (.ofMagnitude d.negative 0)
  else if 310 < d.order then
    none
  else
    let m :=
      Binary64.nearestMagnitude
        (d.digits * Nat.pow 10 d.scale.toNat)
        (Nat.pow 10 (-d.scale).toNat)
    if m < Binary64.infinityMagnitude then
      some (.ofMagnitude d.negative m)
    else
      none

end Decimal

end CaptureLink
