/-
  Double-precision numbers as 64-bit words: a sign, eleven
  bits of exponent and fifty-two bits of fraction.  A finite
  number is its significand times a power of two, so the
  library reasons about natural numbers and never computes
  with machine floats.

  Key definitions include:
    * `Binary64`
    * `Binary64.IsFinite`
    * `Binary64.significand`
    * `Binary64.scale`
    * `Binary64.numericEq`
-/

namespace CaptureLink

/- A double-precision number, as the word that stores it. -/
structure Binary64 where
  bits : UInt64
deriving DecidableEq, Repr

namespace Binary64

------------------------------------------------------------
-- The parts of the word
------------------------------------------------------------

/- The word as a natural number. -/
def word (x : Binary64) : Nat :=
  x.bits.toNat

/- The sign bit is set. -/
def negative (x : Binary64) : Bool :=
  Nat.pow 2 63 ≤ x.word

/- The word without its sign bit. -/
def magnitude (x : Binary64) : Nat :=
  x.word % Nat.pow 2 63

/- The biased exponent. -/
def exponentField (x : Binary64) : Nat :=
  x.magnitude / Nat.pow 2 52

/- The stored fraction. -/
def fraction (x : Binary64) : Nat :=
  x.magnitude % Nat.pow 2 52

------------------------------------------------------------
-- Classes
------------------------------------------------------------

/- The least magnitude that is not finite. -/
def infinityMagnitude : Nat :=
  2047 * Nat.pow 2 52

/- Neither an infinity nor a NaN. -/
def isFinite (x : Binary64) : Bool :=
  x.magnitude < infinityMagnitude

/- Not a number. -/
def isNaN (x : Binary64) : Bool :=
  infinityMagnitude < x.magnitude

/- One of the two zeros. -/
def isZero (x : Binary64) : Bool :=
  x.magnitude = 0

/-
  Equality of numbers: a NaN equals nothing, not even itself,
  and the two zeros are equal.
-/
def numericEq (x y : Binary64) : Bool :=
  !x.isNaN && !y.isNaN &&
    (x.bits == y.bits || x.isZero && y.isZero)

------------------------------------------------------------
-- Finite values
------------------------------------------------------------

/- The integer that a power of two scales to the value. -/
def significand (x : Binary64) : Nat :=
  if x.exponentField = 0 then
    x.fraction
  else
    x.fraction + Nat.pow 2 52

/- The power of two that scales the significand. -/
def scale (x : Binary64) : Int :=
  if x.exponentField = 0 then
    -1074
  else
    (x.exponentField : Int) - 1075

/- The number with a given sign and magnitude. -/
def ofMagnitude
    (negative : Bool)
    (magnitude : Nat) : Binary64 :=
  ⟨UInt64.ofNat
    (if negative then magnitude + Nat.pow 2 63 else magnitude)⟩

/- Positive zero. -/
def zero : Binary64 :=
  ⟨0⟩

end Binary64

end CaptureLink
