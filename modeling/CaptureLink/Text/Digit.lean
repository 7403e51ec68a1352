/-
  Digits and the numbers they spell.

  Key definitions include:
    * `Text.digit?`
    * `Text.hexDigit?`
    * `Text.spelled`
-/

namespace CaptureLink

namespace Text

/- The value of a decimal digit. -/
def digit? (c : Char) : Option Nat :=
  let n := c.toNat
  if 48 ≤ n ∧ n ≤ 57 then some (n - 48) else none

/- The value of a hexadecimal digit in either case. -/
def hexDigit? (c : Char) : Option Nat :=
  let n := c.toNat
  if 97 ≤ n ∧ n ≤ 102 then some (n - 87)
  else if 65 ≤ n ∧ n ≤ 70 then some (n - 55)
  else digit? c

/- The number that digits spell, the first of them worth most. -/
def spelled
    (base : Nat)
    (ds : List Nat) : Nat :=
  ds.foldl (fun n d => n * base + d) 0

end Text

end CaptureLink
