import CaptureLink.Text.Digit
import Mathlib.Tactic.Common

/-
  Numbers in decimal, read back.  Whatever takes digits by
  their values finds in the digits of a number this number
  again.

  Main statements:
    * `Text.digit?_of_isDigit`
    * `Text.hexDigit?_of_isDigit`
    * `Text.spelled_toDigits`
-/

namespace CaptureLink

namespace Text

/- The value of a character among the digits. -/
def place (c : Char) : Nat :=
  c.toNat - 48

/- A digit is read as its place. -/
theorem digit?_of_isDigit
    {c : Char}
    (hDigit : c.isDigit = true) :
    digit? c = some (place c) := by
  have hRange : 48 ≤ c.toNat ∧ c.toNat ≤ 57 :=
    Char.isDigit_iff_toNat.mp hDigit
  rw [digit?, if_pos hRange, place]

/- It is a hexadecimal digit of the same value. -/
theorem hexDigit?_of_isDigit
    {c : Char}
    (hDigit : c.isDigit = true) :
    hexDigit? c = some (place c) := by
  have hRange : 48 ≤ c.toNat ∧ c.toNat ≤ 57 :=
    Char.isDigit_iff_toNat.mp hDigit
  rw [hexDigit?, if_neg (by omega), if_neg (by omega),
    digit?_of_isDigit hDigit]

/- A character that is no hexadecimal digit is no digit. -/
theorem digit?_of_hexDigit?
    {c : Char}
    (hNone : hexDigit? c = none) : digit? c = none := by
  simp only [hexDigit?] at hNone
  split at hNone
  · cases hNone
  split at hNone
  · cases hNone
  · exact hNone

/- All characters of a decimal numeral are digits. -/
theorem isDigit_of_mem
    {n : Nat}
    {c : Char}
    (hMem : c ∈ Nat.toDigits 10 n) : c.isDigit = true :=
  Nat.isDigit_of_mem_toDigits (by omega) (by omega) hMem

/- The digits of a number spell it. -/
theorem spelled_toDigits (n : Nat) :
    spelled 10 ((Nat.toDigits 10 n).map place) = n := by
  have hSpelled :
      ∀ cs : List Char,
        spelled 10 (cs.map place) = Nat.ofDigitChars 10 cs 0 := by
    intro cs
    rw [spelled, List.foldl_map, Nat.ofDigitChars]
    congr 1
    funext sum c
    rw [Nat.mul_comm, place]
    rfl
  rw [hSpelled, Nat.ofDigitChars_ten_toDigits]

end Text

end CaptureLink
