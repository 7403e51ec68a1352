import CaptureLink.Varint
import Mathlib.Tactic.Ring

/-
  Lengths read back from the wire.  A number of 64 bits comes
  back from its bytes, whatever follows them, and what some
  bytes say about a length does not change when more arrive,
  unless they were too few to say anything.

  Main statements:
    * `Varint.read_write_append`
    * `Varint.read_append`
    * `Varint.read_incomplete_bound`
    * `Varint.read_value_bounds`
    * `Varint.read_take`
-/

namespace CaptureLink

namespace Varint

------------------------------------------------------------
-- Reading what was written
------------------------------------------------------------

/- A number below 128 is one byte. -/
theorem write_of_lt
    {n : Nat}
    (hSmall : n < 128) :
    write n = [UInt8.ofNat n] := by
  rw [write, if_pos hSmall]

/- A larger number starts with its lowest seven bits. -/
theorem write_of_le
    {n : Nat}
    (hLarge : 128 ≤ n) :
    write n =
      UInt8.ofNat (n % 128 + 128) :: write (n / 128) := by
  rw [write, if_neg (by omega)]

/- The weight of the group behind group `pos`. -/
theorem groupWeight_succ (pos : Nat) :
    2 ^ (7 * (pos + 1)) = 128 * 2 ^ (7 * pos) := by
  rw [Nat.mul_succ, Nat.pow_add]
  ring

/- There is no eleventh group in a number of 64 bits. -/
theorem pos_lt_of_weight_le
    {pos : Nat}
    (hWeight : 2 ^ (7 * pos) < 2 ^ 64) :
    pos < maxBytes := by
  have hExponent : 7 * pos < 64 :=
    (Nat.pow_lt_pow_iff_right (by omega)).mp hWeight
  unfold maxBytes
  omega

/-
  The bytes of a number add it, weighted, to what the groups
  before them summed up to, as long as 64 bits hold the sum.
-/
theorem readFrom_write_append
    (n pos total : Nat)
    (rest : List UInt8)
    (hPos : pos < maxBytes)
    (hRoom : total + n * 2 ^ (7 * pos) < 2 ^ 64) :
    readFrom pos total (write n ++ rest) =
      .value (total + n * 2 ^ (7 * pos))
        (pos + (write n).length) := by
  have hSize : UInt64.size = 2 ^ 64 := rfl
  induction n using Nat.strongRecOn generalizing pos total with
  | ind n ih =>
      by_cases hSmall : n < 128
      · have hByte : (UInt8.ofNat n).toNat = n := by
          rw [UInt8.toNat_ofNat']
          omega
        have hSum :
            (total + n % 128 * 2 ^ (7 * pos)) % 2 ^ 64 =
              total + n * 2 ^ (7 * pos) := by
          rw [Nat.mod_eq_of_lt hSmall, Nat.mod_eq_of_lt hRoom]
        rw [write_of_lt hSmall]
        simp only [List.cons_append, List.nil_append, readFrom,
          Nat.pow_eq, hSize, hByte, hSum, if_pos hSmall,
          if_neg (Nat.not_le.mpr hPos), List.length_singleton]
      · have hLarge : 128 ≤ n := Nat.le_of_not_lt hSmall
        have hByte :
            (UInt8.ofNat (n % 128 + 128)).toNat =
              n % 128 + 128 := by
          rw [UInt8.toNat_ofNat']
          omega
        have hGroup : (n % 128 + 128) % 128 = n % 128 := by
          omega
        -- The groups that are left weigh 128 times as much.
        have hSplit :
            total + n % 128 * 2 ^ (7 * pos) +
                n / 128 * 2 ^ (7 * (pos + 1)) =
              total + n * 2 ^ (7 * pos) := by
          calc total + n % 128 * 2 ^ (7 * pos) +
                  n / 128 * 2 ^ (7 * (pos + 1))
              = total + (n % 128 + 128 * (n / 128)) *
                  2 ^ (7 * pos) := by
                rw [groupWeight_succ]
                ring
            _ = total + n * 2 ^ (7 * pos) := by
                rw [Nat.mod_add_div]
        have hRoom' :
            total + n % 128 * 2 ^ (7 * pos) +
                n / 128 * 2 ^ (7 * (pos + 1)) < 2 ^ 64 := by
          rw [hSplit]
          exact hRoom
        have hWeight : 2 ^ (7 * (pos + 1)) < 2 ^ 64 := by
          have hOne : 1 ≤ n / 128 := by
            omega
          have hLe :=
            Nat.mul_le_mul_right (2 ^ (7 * (pos + 1))) hOne
          omega
        have hSum :
            (total + n % 128 * 2 ^ (7 * pos)) % 2 ^ 64 =
              total + n % 128 * 2 ^ (7 * pos) :=
          Nat.mod_eq_of_lt (by omega)
        rw [write_of_le hLarge]
        simp only [List.cons_append, readFrom, Nat.pow_eq,
          hSize, hByte, hGroup, hSum, if_neg (Nat.not_le.mpr hPos), List.length_cons]
        rw [if_neg (by omega),
          ih (n / 128) (by omega) (pos + 1) _
            (pos_lt_of_weight_le hWeight) hRoom',
          hSplit]
        congr 1
        omega

/- A number of 64 bits is read back, whatever follows it. -/
theorem read_write_append
    {n : Nat}
    (rest : List UInt8)
    (hWord : n < 2 ^ 64) :
    read (write n ++ rest) = .value n (write n).length := by
  have hRead :=
    readFrom_write_append n 0 0 rest (by decide)
      (by simpa using hWord)
  simpa [read] using hRead

/- It is read back when nothing follows it. -/
theorem read_write
    {n : Nat}
    (hWord : n < 2 ^ 64) :
    read (write n) = .value n (write n).length := by
  have hRead := read_write_append [] hWord
  rwa [List.append_nil] at hRead

------------------------------------------------------------
-- More bytes
------------------------------------------------------------

/- A value or an overflow stands whatever arrives behind it. -/
theorem readFrom_append
    (bytes more : List UInt8)
    {pos total : Nat}
    (hSaid : readFrom pos total bytes ≠ .incomplete) :
    readFrom pos total (bytes ++ more) =
      readFrom pos total bytes := by
  induction bytes generalizing pos total with
  | nil =>
      by_cases hPos : maxBytes ≤ pos
      · cases more with
        | nil => rfl
        | cons b more =>
            simp only [List.nil_append, readFrom, hPos, if_true]
      · apply absurd _ hSaid
        simp only [readFrom, hPos, if_false]
  | cons b bytes ih =>
      simp only [List.cons_append, readFrom] at hSaid ⊢
      by_cases hPos : maxBytes ≤ pos
      · simp only [hPos, if_true]
      by_cases hLast : b.toNat < 128
      · simp only [hPos, hLast, if_true, if_false]
      · simp only [hPos, hLast, if_false] at hSaid ⊢
        exact ih hSaid

/- What bytes say about a length stands whatever arrives then. -/
theorem read_append
    (bytes more : List UInt8)
    (hSaid : read bytes ≠ .incomplete) :
    read (bytes ++ more) = read bytes :=
  readFrom_append bytes more hSaid

/- A length that is still open has fewer bytes than a length may have. -/
theorem readFrom_incomplete_bound
    (bytes : List UInt8)
    {pos total : Nat}
    (hRead : readFrom pos total bytes = .incomplete) :
    pos + bytes.length < maxBytes := by
  induction bytes generalizing pos total with
  | nil =>
      by_cases hPos : maxBytes ≤ pos
      · simp only [readFrom, hPos, if_true, reduceCtorEq] at hRead
      · rw [List.length_nil]
        omega
  | cons b bytes ih =>
      simp only [readFrom] at hRead
      by_cases hPos : maxBytes ≤ pos
      · simp only [hPos, if_true, reduceCtorEq] at hRead
      by_cases hLast : b.toNat < 128
      · simp only [hPos, hLast, if_true, if_false, reduceCtorEq]
          at hRead
      · simp only [hPos, hLast, if_false] at hRead
        have hRest := ih hRead
        rw [List.length_cons]
        omega

/- So it has fewer than ten. -/
theorem read_incomplete_bound
    {bytes : List UInt8}
    (hRead : read bytes = .incomplete) :
    bytes.length < maxBytes := by
  have hBound := readFrom_incomplete_bound bytes hRead
  omega

/- A value takes bytes that are there, and at most ten groups. -/
theorem readFrom_value_bounds
    (bytes : List UInt8)
    {pos total n used : Nat}
    (hRead : readFrom pos total bytes = .value n used) :
    pos < used ∧
      used ≤ pos + bytes.length ∧
      used ≤ maxBytes := by
  induction bytes generalizing pos total with
  | nil =>
      unfold readFrom at hRead
      split at hRead <;> cases hRead
  | cons b bytes ih =>
      simp only [readFrom] at hRead
      by_cases hPos : maxBytes ≤ pos
      · simp only [hPos, if_true, reduceCtorEq] at hRead
      by_cases hLast : b.toNat < 128
      · simp only [hPos, hLast, if_true, if_false,
          Reading.value.injEq] at hRead
        rw [List.length_cons]
        omega
      · simp only [hPos, hLast, if_false] at hRead
        rcases ih hRead with ⟨hAfter, hWithin, hMost⟩
        rw [List.length_cons]
        omega

/- A value takes at least one byte and no more than there are. -/
theorem read_value_bounds
    {bytes : List UInt8}
    {n used : Nat}
    (hRead : read bytes = .value n used) :
    0 < used ∧ used ≤ bytes.length ∧ used ≤ maxBytes := by
  have hBounds := readFrom_value_bounds bytes hRead
  omega

/- A value is read off the bytes that it takes. -/
theorem readFrom_take
    (bytes : List UInt8)
    {pos total n used count : Nat}
    (hRead : readFrom pos total bytes = .value n used)
    (hCount : used ≤ pos + count) :
    readFrom pos total (bytes.take count) = .value n used := by
  induction bytes generalizing pos total count with
  | nil =>
      rw [List.take_nil]
      exact hRead
  | cons b bytes ih =>
      have hBounds := readFrom_value_bounds _ hRead
      cases count with
      | zero => omega
      | succ count =>
          simp only [List.take_succ_cons, readFrom] at hRead ⊢
          by_cases hPos : maxBytes ≤ pos
          · simp only [hPos, if_true, reduceCtorEq] at hRead
          by_cases hLast : b.toNat < 128
          · simpa only [hPos, hLast, if_true, if_false] using hRead
          · simp only [hPos, hLast, if_false] at hRead ⊢
            exact ih hRead (by omega)

/- So the bytes behind these do not matter. -/
theorem read_take
    {bytes : List UInt8}
    {n used count : Nat}
    (hRead : read bytes = .value n used)
    (hCount : used ≤ count) :
    read (bytes.take count) = .value n used :=
  readFrom_take bytes hRead (by omega)

/- A number of 64 bits is written in at most ten bytes. -/
theorem length_write_le
    {n : Nat}
    (hWord : n < 2 ^ 64) :
    (write n).length ≤ maxBytes := by
  rcases read_value_bounds (read_write_append [] hWord) with
    ⟨_, _, hMost⟩
  exact hMost

end Varint

end CaptureLink
