import CaptureLink.Number.Decimal
import Mathlib.Tactic.Positivity
import Mathlib.Tactic.Ring

/-
  Rounding a quotient to a double.  The result depends on the
  quotient alone, and a quotient that is the value of a double
  is not changed.

  Main statements:
    * `Binary64.nearestMagnitude_mul_left`
    * `floorLog2_scaled`
    * `Binary64.nearestMagnitude_of_exact`
-/

namespace CaptureLink

------------------------------------------------------------
-- Quotients with a common factor
------------------------------------------------------------

/- A common factor does not change what a quotient rounds to. -/
theorem roundHalfEven_mul_left
    {k : Nat}
    (n d : Nat)
    (hk : 0 < k) :
    roundHalfEven (k * n) (k * d) = roundHalfEven n d := by
  have hBelow : 2 * (k * (n % d)) < k * d ↔ 2 * (n % d) < d := by
    rw [Nat.mul_left_comm]
    exact Nat.mul_lt_mul_left hk
  have hAbove : k * d < 2 * (k * (n % d)) ↔ d < 2 * (n % d) := by
    rw [Nat.mul_left_comm]
    exact Nat.mul_lt_mul_left hk
  simp only [roundHalfEven, Nat.mul_div_mul_left _ _ hk,
    Nat.mul_mod_mul_left, hBelow, hAbove]

/- A quotient without a rest is not changed. -/
theorem roundHalfEven_mul_self
    {d : Nat}
    (m : Nat)
    (hd : 0 < d) :
    roundHalfEven (m * d) d = m := by
  simp [roundHalfEven, hd]

/- A common factor does not change the binary order. -/
theorem floorLog2_mul_left
    {k : Nat}
    (n d : Nat)
    (hk : 0 < k) :
    floorLog2 (k * n) (k * d) = floorLog2 n d := by
  have hLe : k * d ≤ k * n ↔ d ≤ n := Nat.mul_le_mul_left_iff hk
  have hPred : (k * d - 1) / k = d - 1 := by
    rcases Nat.eq_zero_or_pos d with rfl | hd
    · simp
    · have hSplit : k * d - 1 = (k - 1) + k * (d - 1) := by
        obtain ⟨e, rfl⟩ := Nat.exists_eq_add_of_lt hd
        simp only [Nat.zero_add, Nat.add_sub_cancel, Nat.mul_succ]
        omega
      rw [hSplit, Nat.add_mul_div_left _ _ hk,
        Nat.div_eq_of_lt (by omega), Nat.zero_add]
  simp only [floorLog2, hLe, Nat.mul_div_mul_left _ _ hk]
  rw [← Nat.div_div_eq_div_mul, hPred]

/- The nearest double depends on the quotient alone. -/
theorem Binary64.nearestMagnitude_mul_left
    {k : Nat}
    (n d : Nat)
    (hk : 0 < k) :
    nearestMagnitude (k * n) (k * d) = nearestMagnitude n d := by
  simp only [nearestMagnitude, floorLog2_mul_left n d hk,
    Nat.mul_assoc, roundHalfEven_mul_left _ _ hk]

------------------------------------------------------------
-- Values of doubles
------------------------------------------------------------

theorem floorLog2_one
    {m : Nat}
    (hm : 0 < m) :
    floorLog2 m 1 = m.log2 := by
  simp [floorLog2, Nat.one_le_iff_ne_zero.mp hm]

theorem floorLog2_two_pow
    {m : Nat}
    (a : Nat)
    (hm : 0 < m) :
    floorLog2 m (2 ^ a) = m.log2 - a := by
  have hLow : 2 ^ m.log2 ≤ m := Nat.log2_self_le (by omega)
  have hHigh : m < 2 ^ (m.log2 + 1) := Nat.lt_log2_self
  unfold floorLog2
  split
  next hLe =>
    have hShift : a ≤ m.log2 :=
      (Nat.le_log2 (by omega)).mpr hLe
    obtain ⟨t, ht⟩ := Nat.exists_eq_add_of_le hShift
    have hQuotient : (m / 2 ^ a).log2 = t := by
      apply (Nat.log2_eq_iff _).mpr
      · constructor
        · rw [Nat.le_div_iff_mul_le (by positivity), ← Nat.pow_add]
          rwa [Nat.add_comm, ← ht]
        · rw [Nat.div_lt_iff_lt_mul (by positivity), ← Nat.pow_add]
          rw [show t + 1 + a = m.log2 + 1 by omega]
          exact hHigh
      · exact (Nat.div_pos hLe (by positivity)).ne'
    rw [hQuotient, ht]
    omega
  next hLt =>
    have hShift : m.log2 < a :=
      (Nat.log2_lt (by omega)).mpr (by omega)
    obtain ⟨t, ht⟩ := Nat.exists_eq_add_of_lt hShift
    have hPower : 2 ^ a = 2 ^ t * 2 ^ (m.log2 + 1) := by
      rw [← Nat.pow_add, ht]
      congr 1
      omega
    have hPos : 0 < 2 ^ t := by positivity
    have hProduct : 2 ^ t * (m + 1) ≤ 2 ^ a := by
      rw [hPower]
      exact Nat.mul_le_mul_left _ hHigh
    have hAbove : 2 ^ a ≤ 2 ^ (t + 1) * m := by
      calc
        2 ^ a = 2 ^ (t + 1) * 2 ^ m.log2 := by
          rw [hPower]
          ring
        _ ≤ 2 ^ (t + 1) * m := Nat.mul_le_mul_left _ hLow
    have hQuotient : ((2 ^ a - 1) / m).log2 = t := by
      have hAtLeast : 2 ^ t ≤ (2 ^ a - 1) / m := by
        rw [Nat.le_div_iff_mul_le hm]
        rw [Nat.mul_succ] at hProduct
        omega
      have hBelow : (2 ^ a - 1) / m < 2 ^ (t + 1) := by
        rw [Nat.div_lt_iff_lt_mul hm]
        omega
      exact (Nat.log2_eq_iff (by omega)).mpr ⟨hAtLeast, hBelow⟩
    rw [hQuotient, ht]
    omega

/- The binary order of a number in the form `m * 2 ^ s`. -/
theorem floorLog2_scaled
    {m : Nat}
    (s : Int)
    (hm : 0 < m) :
    floorLog2 (m * 2 ^ s.toNat) (2 ^ (-s).toNat) = m.log2 + s := by
  rcases Int.le_total 0 s with hs | hs
  · have hDen : (-s).toNat = 0 := by omega
    rw [hDen, Nat.pow_zero, floorLog2_one (by positivity)]
    have hLog : (m * 2 ^ s.toNat).log2 = m.log2 + s.toNat := by
      apply (Nat.log2_eq_iff (by positivity)).mpr
      rw [Nat.pow_add, Nat.add_right_comm, Nat.pow_add]
      constructor
      · exact Nat.mul_le_mul_right _ (Nat.log2_self_le (by omega))
      · exact Nat.mul_lt_mul_of_pos_right Nat.lt_log2_self
          (by positivity)
    rw [hLog]
    omega
  · have hNum : s.toNat = 0 := by omega
    rw [hNum, Nat.pow_zero, Nat.mul_one, floorLog2_two_pow _ hm]
    omega

/-
  A quotient that is exactly `m * 2 ^ s`, where `m` has the
  bits a significand has and `s` is in range, is stored as it is.
-/
theorem Binary64.nearestMagnitude_of_exact
    {n d m : Nat}
    {s : Int}
    (hd : 0 < d)
    (hExact : n * 2 ^ (-s).toNat = m * (d * 2 ^ s.toNat))
    (hm : 0 < m)
    (hWidth : m < 2 ^ 53)
    (hScale : -1074 ≤ s)
    (hNormal : 2 ^ 52 ≤ m ∨ s = -1074) :
    nearestMagnitude n d = (s + 1074).toNat * 2 ^ 52 + m := by
  have hQuotient :
      nearestMagnitude n d =
        nearestMagnitude (m * 2 ^ s.toNat) (2 ^ (-s).toNat) := by
    calc
      nearestMagnitude n d =
          nearestMagnitude (2 ^ (-s).toNat * n)
            (2 ^ (-s).toNat * d) :=
        (nearestMagnitude_mul_left n d (by positivity)).symm
      _ = nearestMagnitude (d * (m * 2 ^ s.toNat))
            (d * 2 ^ (-s).toNat) := by
        rw [Nat.mul_comm _ n, hExact, Nat.mul_comm _ d,
          Nat.mul_left_comm d m]
      _ = _ := nearestMagnitude_mul_left _ _ hd
  have hLogHigh : m.log2 ≤ 52 := by
    have := (Nat.log2_lt (by omega)).mpr hWidth
    omega
  have hChosen : max (((m.log2 : Int) + s) - 52) (-1074) = s := by
    rcases hNormal with hLarge | rfl
    · have hLogLow : 52 ≤ m.log2 :=
        (Nat.le_log2 (by omega)).mpr hLarge
      omega
    · omega
  rw [hQuotient, nearestMagnitude, floorLog2_scaled s hm]
  simp only [hChosen, Nat.pow_eq]
  congr 1
  rw [Nat.mul_assoc, Nat.mul_comm (2 ^ s.toNat)]
  exact roundHalfEven_mul_self m (by positivity)

end CaptureLink
