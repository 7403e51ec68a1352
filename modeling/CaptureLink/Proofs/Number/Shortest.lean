import CaptureLink.Number.Shortest
import CaptureLink.Proofs.Number.Rounding
import Mathlib.Tactic.GCongr

/-
  The shortest decimal of a double reads back as the same
  double, bit for bit.  The search only accepts decimals that
  read back, and its last resort is the exact decimal, which
  is rounded to the double it is the value of.

  Main statements:
    * `Decimal.toBinary64?_mul_ten_pow`
    * `Binary64.toBinary64?_exactDecimal`
    * `Binary64.toBinary64?_shortest`
-/

namespace CaptureLink

------------------------------------------------------------
-- Decimals with zeros at the end
------------------------------------------------------------

namespace Decimal

/- A zero behind the digits moves the scale and not the order. -/
theorem order_mul_ten
    {n : Nat}
    (negative : Bool)
    (scale : Int)
    (hn : 0 < n) :
    order ⟨negative, n * 10, scale⟩ =
      order ⟨negative, n, scale + 1⟩ := by
  have hDigits :
      Nat.toDigits 10 (n * 10) =
        Nat.toDigits 10 n ++ Nat.toDigits 10 0 := by
    rw [Nat.toDigits_append_toDigits (by omega) hn (by omega)]
    congr 1
    omega
  simp only [order, hDigits, List.length_append,
    Nat.toDigits_zero, List.length_singleton]
  omega

/- A zero behind the digits does not change what is read. -/
theorem toBinary64?_mul_ten
    (negative : Bool)
    (n : Nat)
    (scale : Int) :
    toBinary64? ⟨negative, n * 10, scale⟩ =
      toBinary64? ⟨negative, n, scale + 1⟩ := by
  rcases Nat.eq_zero_or_pos n with rfl | hn
  · simp [toBinary64?]
  · have hQuotient :
        Binary64.nearestMagnitude
            (n * 10 * 10 ^ scale.toNat) (10 ^ (-scale).toNat) =
          Binary64.nearestMagnitude
            (n * 10 ^ (scale + 1).toNat)
            (10 ^ (-(scale + 1)).toNat) := by
      rcases Int.lt_or_le scale 0 with hNeg | hPos
      · have hNum : scale.toNat = 0 := by omega
        have hNum' : (scale + 1).toNat = 0 := by omega
        have hDen :
            (-scale).toNat = (-(scale + 1)).toNat + 1 := by
          omega
        rw [hNum, hNum', hDen, Nat.pow_succ',
          Nat.pow_zero, Nat.mul_one, Nat.mul_one,
          Nat.mul_comm n 10]
        exact Binary64.nearestMagnitude_mul_left _ _ (by omega)
      · have hNum : (scale + 1).toNat = scale.toNat + 1 := by
          omega
        have hDen : (-(scale + 1)).toNat = (-scale).toNat := by
          omega
        rw [hNum, hDen, Nat.pow_succ', Nat.mul_assoc]
    have hZero : (n * 10 = 0) = (n = 0) := by
      simp
    unfold toBinary64?
    rw [order_mul_ten negative scale hn]
    simp only [Nat.pow_eq, hQuotient, hZero]

/- Zeros behind the digits do not change what is read. -/
theorem toBinary64?_mul_ten_pow
    (negative : Bool)
    (n count : Nat)
    (scale : Int) :
    toBinary64? ⟨negative, n * 10 ^ count, scale - count⟩ =
      toBinary64? ⟨negative, n, scale⟩ := by
  induction count with
  | zero => simp
  | succ count ih =>
      rw [← ih, Nat.pow_succ, ← Nat.mul_assoc,
        toBinary64?_mul_ten]
      congr 2
      omega

/- Without its zeros at the end, a decimal reads the same. -/
theorem toBinary64?_trimZeros (d : Decimal) :
    d.trimZeros.toBinary64? = d.toBinary64? := by
  fun_induction trimZeros d with
  | case1 d hZeros ih =>
      obtain ⟨negative, digits, scale⟩ := d
      rw [ih, ← toBinary64?_mul_ten,
        Nat.div_mul_cancel (Nat.dvd_of_mod_eq_zero hZeros.2)]
  | case2 d => rfl

@[simp] theorem negative_trimZeros (d : Decimal) :
    d.trimZeros.negative = d.negative := by
  fun_induction trimZeros d with
  | case1 d hZeros ih => exact ih
  | case2 d => rfl

------------------------------------------------------------
-- Decimals in range
------------------------------------------------------------

/- The digits bound the order from above. -/
theorem order_le_iff
    {d : Decimal}
    {bound : Int}
    (hBound : d.scale < bound) :
    d.order ≤ bound ↔
      d.digits < 10 ^ (bound - d.scale).toNat := by
  have hLength :=
    Nat.length_toDigits_le_iff (n := d.digits)
      (k := (bound - d.scale).toNat) (b := 10) (by omega)
      (by omega)
  rw [← hLength, order]
  omega

/- A decimal of moderate order is rounded. -/
theorem toBinary64?_of_order
    {d : Decimal}
    {magnitude : Nat}
    (hDigits : d.digits ≠ 0)
    (hLow : -330 ≤ d.order)
    (hHigh : d.order ≤ 310)
    (hNearest :
      Binary64.nearestMagnitude
        (d.digits * 10 ^ d.scale.toNat) (10 ^ (-d.scale).toNat) =
          magnitude)
    (hFinite : magnitude < Binary64.infinityMagnitude) :
    d.toBinary64? = some (.ofMagnitude d.negative magnitude) := by
  unfold toBinary64?
  rw [if_neg (by omega), if_neg (by omega)]
  simp only [Nat.pow_eq, hNearest, hFinite, if_true]

end Decimal

namespace Binary64

------------------------------------------------------------
-- The parts of a double
------------------------------------------------------------

/- A double is its sign and its magnitude. -/
theorem ofMagnitude_magnitude (x : Binary64) :
    ofMagnitude x.negative x.magnitude = x := by
  obtain ⟨bits⟩ := x
  have hWord := bits.toNat_lt
  unfold ofMagnitude
  congr 1
  apply UInt64.toNat_inj.mp
  simp only [negative, magnitude, word, Nat.pow_eq,
    UInt64.toNat_ofNat']
  by_cases hSign : 2 ^ 63 ≤ bits.toNat
  · simp only [hSign, decide_true, if_true]
    omega
  · simp only [hSign, decide_false, Bool.false_eq_true, if_false]
    omega

/- A magnitude is its scale and its significand, side by side. -/
theorem magnitude_eq (x : Binary64) :
    x.magnitude =
      (x.scale + 1074).toNat * 2 ^ 52 + x.significand := by
  have hSplit := Nat.div_add_mod x.magnitude (2 ^ 52)
  simp only [scale, significand, fraction, Nat.pow_eq]
  split
  next hZero =>
    rw [exponentField, Nat.pow_eq] at hZero
    omega
  next hField =>
    have hShift :
        ((x.exponentField : Int) - 1075 + 1074).toNat =
          x.exponentField - 1 := by
      omega
    rw [hShift, exponentField, Nat.pow_eq] at *
    omega

theorem significand_lt (x : Binary64) : x.significand < 2 ^ 53 := by
  have hFraction : x.fraction < 2 ^ 52 :=
    Nat.mod_lt _ (Nat.pow_pos Nat.two_pos)
  simp only [significand, Nat.pow_eq]
  split <;> omega

theorem significand_pos
    {x : Binary64}
    (hNonzero : x.isZero = false) :
    0 < x.significand := by
  have hMagnitude : x.magnitude ≠ 0 := by
    simpa [isZero] using hNonzero
  have hEq := x.magnitude_eq
  simp only [significand, Nat.pow_eq]
  split
  next hZero =>
    rw [exponentField, Nat.pow_eq] at hZero
    rw [fraction, Nat.pow_eq]
    omega
  next => omega

/- The scale is least, or the significand is as wide as can be. -/
theorem normal_or_least_scale (x : Binary64) :
    2 ^ 52 ≤ x.significand ∨ x.scale = -1074 := by
  simp only [significand, scale, Nat.pow_eq]
  split
  · exact Or.inr rfl
  · exact Or.inl (by omega)

theorem le_scale (x : Binary64) : -1074 ≤ x.scale := by
  unfold scale
  split <;> omega

theorem scale_le
    {x : Binary64}
    (hFinite : x.isFinite = true) :
    x.scale ≤ 971 := by
  have hMagnitude : x.magnitude < infinityMagnitude := by
    simpa [isFinite] using hFinite
  have hField : x.exponentField < 2047 := by
    rw [exponentField, Nat.pow_eq,
      Nat.div_lt_iff_lt_mul (by omega)]
    exact hMagnitude
  unfold scale
  split <;> omega

------------------------------------------------------------
-- Exact decimals
------------------------------------------------------------

/- The exact decimal of a double is its significand and its scale. -/
theorem exactDecimal_quotient (x : Binary64) :
    x.exactDecimal.digits * 10 ^ x.exactDecimal.scale.toNat *
        2 ^ (-x.scale).toNat =
      x.significand *
        (10 ^ (-x.exactDecimal.scale).toNat * 2 ^ x.scale.toNat) := by
  simp only [exactDecimal, Nat.pow_eq]
  by_cases hScale : 0 ≤ x.scale
  · have hNum : (min x.scale 0).toNat = 0 := by omega
    have hDen : (-min x.scale 0).toNat = 0 := by omega
    have hShift : (-x.scale).toNat = 0 := by omega
    simp only [hScale, if_true, hNum, hDen, hShift]
    ring
  · have hNum : (min x.scale 0).toNat = 0 := by omega
    have hDen : (-min x.scale 0).toNat = (-x.scale).toNat := by
      omega
    have hShift : x.scale.toNat = 0 := by omega
    simp only [hScale, if_false, hNum, hDen, hShift]
    rw [Nat.pow_zero, Nat.pow_zero, Nat.mul_one, Nat.mul_one,
      Nat.mul_assoc, ← Nat.mul_pow]

/- The exact decimal of a double is of moderate order. -/
theorem order_exactDecimal_le
    {x : Binary64}
    (hFinite : x.isFinite = true) :
    x.exactDecimal.order ≤ 310 := by
  have hScale := scale_le hFinite
  have hWidth := x.significand_lt
  have hExact : x.exactDecimal.scale = min x.scale 0 := rfl
  rw [Decimal.order_le_iff (by omega), hExact]
  unfold exactDecimal
  by_cases hSign : 0 ≤ x.scale
  · have hBound : (310 - min x.scale 0).toNat = 310 := by omega
    have hShift : 53 + x.scale.toNat ≤ 1024 := by omega
    simp only [hSign, if_true, hBound]
    calc
      x.significand * 2 ^ x.scale.toNat <
          2 ^ 53 * 2 ^ x.scale.toNat :=
        Nat.mul_lt_mul_of_pos_right hWidth (by positivity)
      _ = 2 ^ (53 + x.scale.toNat) := (Nat.pow_add ..).symm
      _ ≤ 2 ^ 1024 := Nat.pow_le_pow_right Nat.two_pos hShift
      _ < 10 ^ 310 := by decide +kernel
  · have hBound :
        (310 - min x.scale 0).toNat = 310 + (-x.scale).toNat := by
      omega
    simp only [hSign, if_false, hBound, Nat.pow_add]
    calc
      x.significand * 5 ^ (-x.scale).toNat <
          10 ^ 310 * 5 ^ (-x.scale).toNat := by
        apply Nat.mul_lt_mul_of_pos_right _ (by positivity)
        exact lt_trans hWidth (by decide +kernel)
      _ ≤ 10 ^ 310 * 10 ^ (-x.scale).toNat := by
        gcongr
        omega

theorem le_order_exactDecimal
    {x : Binary64}
    (hNonzero : x.isZero = false) :
    -330 ≤ x.exactDecimal.order := by
  have hScale := x.le_scale
  have hPos := significand_pos hNonzero
  have hExact : x.exactDecimal.scale = min x.scale 0 := rfl
  by_contra hBelow
  have hLength :
      0 < (Nat.toDigits 10 x.exactDecimal.digits).length :=
    Nat.length_toDigits_pos
  have hOrder : x.exactDecimal.order ≤ -331 := by omega
  have hUnder : x.exactDecimal.scale < -331 := by
    unfold Decimal.order at hOrder
    omega
  rw [Decimal.order_le_iff hUnder, hExact] at hOrder
  obtain ⟨k, hk⟩ : ∃ k, (-x.scale).toNat = 331 + k :=
    ⟨(-x.scale).toNat - 331, by omega⟩
  have hBound : (-331 - min x.scale 0).toNat = k := by omega
  have hSmall : k ≤ 743 := by omega
  have hSign : ¬0 ≤ x.scale := by omega
  simp only [exactDecimal, hSign, if_false, hBound, hk, Nat.pow_eq]
    at hOrder
  have hPower : 2 ^ k ≤ 5 ^ 331 := by
    calc
      2 ^ k ≤ 2 ^ 743 := Nat.pow_le_pow_right Nat.two_pos hSmall
      _ ≤ 5 ^ 331 := by decide +kernel
  have hTen : 10 ^ k ≤ x.significand * 5 ^ (331 + k) := by
    calc
      10 ^ k = 2 ^ k * 5 ^ k := by
        rw [show (10 : Nat) = 2 * 5 by rfl, Nat.mul_pow]
      _ ≤ 5 ^ 331 * 5 ^ k := Nat.mul_le_mul_right _ hPower
      _ = 5 ^ (331 + k) := by rw [Nat.pow_add]
      _ ≤ x.significand * 5 ^ (331 + k) :=
        Nat.le_mul_of_pos_left _ hPos
  omega

/- The exact decimal of a double is read as this double. -/
theorem toBinary64?_exactDecimal
    {x : Binary64}
    (hFinite : x.isFinite = true)
    (hNonzero : x.isZero = false) :
    x.exactDecimal.toBinary64? = some x := by
  have hPos := significand_pos hNonzero
  have hDigits : x.exactDecimal.digits ≠ 0 := by
    simp only [exactDecimal, Nat.pow_eq]
    split <;> positivity
  have hNearest :
      nearestMagnitude
          (x.exactDecimal.digits * 10 ^ x.exactDecimal.scale.toNat)
          (10 ^ (-x.exactDecimal.scale).toNat) =
        x.magnitude := by
    rw [magnitude_eq]
    exact nearestMagnitude_of_exact (by positivity)
      x.exactDecimal_quotient hPos x.significand_lt x.le_scale
      x.normal_or_least_scale
  have hMagnitude : x.magnitude < infinityMagnitude := by
    simpa [isFinite] using hFinite
  rw [Decimal.toBinary64?_of_order hDigits
    (le_order_exactDecimal hNonzero)
    (order_exactDecimal_le hFinite)
    hNearest hMagnitude]
  exact congrArg some x.ofMagnitude_magnitude

------------------------------------------------------------
-- Shortest decimals
------------------------------------------------------------

/- A neighbour is chosen only if it is read as the double. -/
theorem toBinary64?_of_neighbour?
    {x : Binary64}
    {dropped : Nat}
    {d : Decimal}
    (hChosen : x.neighbour? dropped = some d) :
    d.toBinary64? = some x ∧ d.negative = x.negative := by
  unfold neighbour? at hChosen
  simp only at hChosen
  split at hChosen
  next hBelow hAbove =>
    rw [beq_iff_eq] at hBelow hAbove
    split at hChosen
    · cases hChosen
      exact ⟨hBelow, rfl⟩
    · split at hChosen
      · cases hChosen
        exact ⟨hAbove, rfl⟩
      · split at hChosen
        · cases hChosen
          exact ⟨hBelow, rfl⟩
        · cases hChosen
          exact ⟨hAbove, rfl⟩
  next hBelow _ =>
    rw [beq_iff_eq] at hBelow
    cases hChosen
    exact ⟨hBelow, rfl⟩
  next _ hAbove =>
    rw [beq_iff_eq] at hAbove
    cases hChosen
    exact ⟨hAbove, rfl⟩
  next => cases hChosen

/- Whatever the search finds is read as the double. -/
theorem toBinary64?_searchGrids
    {x : Binary64}
    (hFinite : x.isFinite = true)
    (hNonzero : x.isZero = false)
    (dropped : Nat) :
    (x.searchGrids dropped).toBinary64? = some x ∧
      (x.searchGrids dropped).negative = x.negative := by
  induction dropped with
  | zero => exact ⟨toBinary64?_exactDecimal hFinite hNonzero, rfl⟩
  | succ dropped ih =>
      unfold searchGrids
      split
      next d hChosen => exact toBinary64?_of_neighbour? hChosen
      next => exact ih

/- The shortest decimal of a double is read as this double. -/
theorem toBinary64?_shortest
    {x : Binary64}
    (hFinite : x.isFinite = true)
    (hNonzero : x.isZero = false) :
    x.shortest.toBinary64? = some x := by
  unfold shortest
  rw [Decimal.toBinary64?_trimZeros]
  exact (toBinary64?_searchGrids hFinite hNonzero _).1

theorem negative_shortest
    {x : Binary64}
    (hFinite : x.isFinite = true)
    (hNonzero : x.isZero = false) :
    x.shortest.negative = x.negative := by
  unfold shortest
  rw [Decimal.negative_trimZeros]
  exact (toBinary64?_searchGrids hFinite hNonzero _).2

/- Zero is not read as another number. -/
theorem digits_shortest_pos
    {x : Binary64}
    (hFinite : x.isFinite = true)
    (hNonzero : x.isZero = false) :
    0 < x.shortest.digits := by
  apply Nat.pos_of_ne_zero
  intro hDigits
  have hRead := toBinary64?_shortest hFinite hNonzero
  rw [Decimal.toBinary64?, if_pos (Or.inl hDigits),
    Option.some.injEq] at hRead
  rw [← hRead] at hNonzero
  cases hSign : x.shortest.negative <;>
    simp [hSign, ofMagnitude, isZero, magnitude, word] at hNonzero

end Binary64

------------------------------------------------------------
-- Natural numbers
------------------------------------------------------------

/- A number of at most fifty-three bits has a nearest double. -/
theorem Decimal.exists_toBinary64?_of_lt
    {n : Nat}
    (hn : n < 2 ^ 53) :
    ∃ x, Decimal.toBinary64? ⟨false, n, 0⟩ = some x := by
  rcases Nat.eq_zero_or_pos n with rfl | hPos
  · exact ⟨.ofMagnitude false 0, by simp [toBinary64?]⟩
  · have hLog : n.log2 ≤ 52 := by
      have := (Nat.log2_lt (by omega)).mpr hn
      omega
    have hSplit : 2 ^ 52 = 2 ^ n.log2 * 2 ^ (52 - n.log2) := by
      rw [← Nat.pow_add]
      congr 1
      omega
    have hLow : 2 ^ 52 ≤ n * 2 ^ (52 - n.log2) := by
      rw [hSplit]
      exact Nat.mul_le_mul_right _ (Nat.log2_self_le (by omega))
    have hHigh : n * 2 ^ (52 - n.log2) < 2 ^ 53 := by
      have hWidth : n < 2 ^ (n.log2 + 1) := Nat.lt_log2_self
      calc
        n * 2 ^ (52 - n.log2) <
            2 ^ (n.log2 + 1) * 2 ^ (52 - n.log2) :=
          Nat.mul_lt_mul_of_pos_right hWidth (by positivity)
        _ = 2 ^ 53 := by
          rw [← Nat.pow_add]
          congr 1
          omega
    have hNum : ((n.log2 : Int) - 52).toNat = 0 := by omega
    have hDen : (-((n.log2 : Int) - 52)).toNat = 52 - n.log2 := by
      omega
    have hNearest :
        Binary64.nearestMagnitude
            (n * 10 ^ (0 : Int).toNat) (10 ^ (-(0 : Int)).toNat) =
          ((n.log2 : Int) - 52 + 1074).toNat * 2 ^ 52 +
            n * 2 ^ (52 - n.log2) := by
      apply Binary64.nearestMagnitude_of_exact (by simp)
      · rw [hNum, hDen]
        simp
      · omega
      · exact hHigh
      · omega
      · exact Or.inl hLow
    refine ⟨_, toBinary64?_of_order hPos.ne' ?_ ?_ hNearest ?_⟩
    · simp only [order]
      omega
    · have hOrder : order ⟨false, n, 0⟩ ≤ 16 := by
        rw [order_le_iff (by simp)]
        change n < 10 ^ 16
        omega
      omega
    · rw [Binary64.infinityMagnitude, Nat.pow_eq]
      omega

end CaptureLink
