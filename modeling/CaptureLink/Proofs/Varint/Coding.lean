import CaptureLink.Proofs.Varint
import Mathlib.Data.Nat.Log

/-
  Lengths have one shortest form, and it is the one that is
  written.  A number of 64 bits takes as many bytes as its
  size says and is not read from fewer.  Bytes say nothing
  about a length exactly if all of them say that more are to
  come, and there are fewer than ten.

  Main statements:
    * `Varint.writeOnto`
    * `Varint.length_write`
    * `Varint.size_le_iff`
    * `Varint.size_le_of_read`
    * `Varint.read_eq_incomplete_iff`
    * `Varint.coding`
-/

namespace CaptureLink

namespace Varint

------------------------------------------------------------
-- Writing
------------------------------------------------------------

/-
  The bytes of a number behind those that are in a buffer,
  pushed one by one.
-/
def writeOnto
    (buffer : List UInt8)
    (n : Nat) : List UInt8 :=
  if n < 128 then
    buffer ++ [UInt8.ofNat n]
  else
    writeOnto (buffer ++ [UInt8.ofNat (n % 128 + 128)]) (n / 128)
termination_by n

/- Nothing that is in the buffer is changed. -/
theorem writeOnto_eq
    (buffer : List UInt8)
    (n : Nat) : writeOnto buffer n = buffer ++ write n := by
  induction n using Nat.strongRecOn generalizing buffer with
  | ind n ih =>
      rw [writeOnto]
      by_cases hSmall : n < 128
      · rw [if_pos hSmall, write_of_lt hSmall]
      · rw [if_neg hSmall, ih (n / 128) (by omega),
          write_of_le (Nat.le_of_not_lt hSmall),
          List.append_assoc, List.singleton_append]

------------------------------------------------------------
-- Sizes
------------------------------------------------------------

/- A number below 128 takes one byte. -/
theorem size_of_lt
    {n : Nat}
    (hSmall : n < 128) : size n = 1 := by
  unfold size
  by_cases hZero : n = 0
  · rw [if_pos hZero]
  · have hBits : n.log2 < 7 := (Nat.log2_lt hZero).mpr hSmall
    rw [if_neg hZero]
    omega

/- A larger one takes one more than the groups behind its lowest. -/
theorem size_of_le
    {n : Nat}
    (hLarge : 128 ≤ n) : size n = size (n / 128) + 1 := by
  have hBits : (n / 128).log2 = n.log2 - 7 := by
    rw [Nat.log2_eq_log_two, Nat.log2_eq_log_two]
    exact Nat.log_div_base_pow 2 n 7
  have hSeven : 7 ≤ n.log2 :=
    (Nat.le_log2 (by omega)).mpr hLarge
  unfold size
  rw [if_neg (by omega), if_neg (by omega), hBits]
  omega

/- The size of a number is the number of bytes it takes. -/
theorem length_write (n : Nat) : (write n).length = size n := by
  induction n using Nat.strongRecOn with
  | ind n ih =>
      by_cases hSmall : n < 128
      · rw [write_of_lt hSmall, size_of_lt hSmall,
          List.length_singleton]
      · have hLarge : 128 ≤ n := Nat.le_of_not_lt hSmall
        rw [write_of_le hLarge, size_of_le hLarge,
          List.length_cons, ih (n / 128) (by omega)]

/- So many bytes hold a number with no more bits than their groups. -/
theorem size_le_iff
    {n places : Nat}
    (hPlaces : 0 < places) :
    size n ≤ places ↔ n < 2 ^ (7 * places) := by
  unfold size
  by_cases hZero : n = 0
  · rw [if_pos hZero, hZero]
    exact iff_of_true hPlaces (Nat.two_pow_pos _)
  · rw [if_neg hZero, ← Nat.log2_lt hZero]
    omega

------------------------------------------------------------
-- Reading
------------------------------------------------------------

/- What is read has no more bits than the groups it is read of. -/
theorem lt_of_readFrom
    {bytes : List UInt8}
    {pos total n used : Nat}
    (hRead : readFrom pos total bytes = .value n used)
    (hTotal : total < 2 ^ (7 * pos)) :
    n < 2 ^ (7 * used) := by
  induction bytes generalizing pos total with
  | nil =>
      unfold readFrom at hRead
      split at hRead <;> cases hRead
  | cons b bytes ih =>
      -- One more group, of which 64 bits are kept.
      have hSum :
          (total + b.toNat % 128 * 2 ^ (7 * pos)) %
              UInt64.size <
            2 ^ (7 * (pos + 1)) := by
        have hGroup : b.toNat % 128 ≤ 127 := by
          omega
        have hAdded :=
          Nat.mul_le_mul_right (2 ^ (7 * pos)) hGroup
        have hKept :=
          Nat.mod_le (total + b.toNat % 128 * 2 ^ (7 * pos))
            UInt64.size
        rw [groupWeight_succ]
        omega
      simp only [readFrom, Nat.pow_eq] at hRead
      by_cases hPos : maxBytes ≤ pos
      · simp only [hPos, if_true, reduceCtorEq] at hRead
      by_cases hLast : b.toNat < 128
      · simp only [hPos, hLast, if_true, if_false,
          Reading.value.injEq] at hRead
        rcases hRead with ⟨rfl, rfl⟩
        exact hSum
      · simp only [hPos, hLast, if_false] at hRead
        exact ih hRead hSum

/- A number is not read from fewer bytes than its size says. -/
theorem size_le_of_read
    {bytes : List UInt8}
    {n used : Nat}
    (hRead : read bytes = .value n used) :
    size n ≤ used := by
  rcases read_value_bounds hRead with ⟨hSome, _, _⟩
  exact (size_le_iff hSome).mpr
    (lt_of_readFrom hRead (Nat.two_pow_pos _))

/-
  A length is open as long as every byte says that more are to
  come and there is room for another.
-/
theorem readFrom_eq_incomplete_iff
    {bytes : List UInt8}
    {pos total : Nat} :
    readFrom pos total bytes = .incomplete ↔
      pos + bytes.length < maxBytes ∧
        ∀ b ∈ bytes, 128 ≤ b.toNat := by
  induction bytes generalizing pos total with
  | nil =>
      by_cases hPos : maxBytes ≤ pos
      · simp [readFrom, hPos]
      · simp [readFrom, hPos, Nat.lt_of_not_le hPos]
  | cons b bytes ih =>
      rw [List.length_cons, List.forall_mem_cons]
      simp only [readFrom]
      by_cases hPos : maxBytes ≤ pos
      · simp only [hPos, if_true, reduceCtorEq, false_iff]
        omega
      by_cases hLast : b.toNat < 128
      · simp only [hPos, hLast, if_true, if_false, reduceCtorEq,
          false_iff]
        omega
      · simp only [hPos, hLast, if_false, ih]
        rw [Nat.add_right_comm, Nat.add_assoc pos]
        exact and_congr_right fun _ =>
          (and_iff_right (Nat.le_of_not_lt hLast)).symm

/- So it is from the first byte on. -/
theorem read_eq_incomplete_iff
    (bytes : List UInt8) :
    read bytes = .incomplete ↔
      bytes.length < maxBytes ∧ ∀ b ∈ bytes, 128 ≤ b.toNat := by
  have hIff :
      readFrom 0 0 bytes = .incomplete ↔
        0 + bytes.length < maxBytes ∧
          ∀ b ∈ bytes, 128 ≤ b.toNat :=
    readFrom_eq_incomplete_iff
  rwa [Nat.zero_add] at hIff

------------------------------------------------------------
-- The code
------------------------------------------------------------

/-
  A number of 64 bits is written behind anything in as many
  bytes as its size says, at most ten, is read back whatever
  follows them, and is not read from fewer bytes.  What bytes
  say about a length stands whatever follows, and they say
  nothing exactly if they are fewer than ten and none of them
  is a last one.
-/
theorem coding :
    (∀ (v : UInt64) (buffer rest : List UInt8),
      writeOnto buffer v.toNat = buffer ++ write v.toNat ∧
        (write v.toNat).length = size v.toNat ∧
        size v.toNat ≤ maxBytes ∧
        read (write v.toNat ++ rest) =
          .value v.toNat (size v.toNat)) ∧
      (∀ (v : UInt64) (d : List UInt8) (used : Nat),
        d.length < size v.toNat →
          read d ≠ .value v.toNat used) ∧
      ∀ d : List UInt8,
        (read d ≠ .incomplete →
          ∀ rest, read (d ++ rest) = read d) ∧
        (read d = .incomplete ↔
          d.length < maxBytes ∧ ∀ b ∈ d, 128 ≤ b.toNat) := by
  refine ⟨fun v buffer rest => ?_, fun v d used hShort hRead => ?_,
    fun d => ⟨fun hSaid rest => ?_, ?_⟩⟩
  · have hWord : v.toNat < 2 ^ 64 := v.toNat_lt
    refine ⟨writeOnto_eq buffer _, length_write _, ?_, ?_⟩
    · rw [← length_write]
      exact length_write_le hWord
    · rw [← length_write]
      exact read_write_append rest hWord
  · have hSize := size_le_of_read hRead
    rcases read_value_bounds hRead with ⟨_, hThere, _⟩
    omega
  · exact read_append d rest hSaid
  · exact read_eq_incomplete_iff d

/-
  Three hundred takes two bytes.  The first of them leaves the
  length open, and an overflow stands whatever follows it.
-/
theorem coding_three_hundred :
    read ([0xAC, 0x02] ++ [0x07]) = .value 300 2 ∧
      (∀ used, read [0xAC] ≠ .value 300 used) ∧
      read [0xAC] = .incomplete ∧
      read (List.replicate 10 0xFF ++ [0x00]) = .overflow := by
  rcases coding with ⟨hExact, hShortest, hStable⟩
  have hWritten : write (300 : UInt64).toNat = [0xAC, 0x02] := by
    simp [write]
  have hSize : size (300 : UInt64).toNat = 2 := by decide +kernel
  have hTen : read (List.replicate 10 0xFF) = .overflow := by
    decide
  refine ⟨?_, fun used => ?_, ?_, ?_⟩
  · have hRead := (hExact 300 [] [0x07]).2.2.2
    rwa [hWritten, hSize] at hRead
  · exact hShortest 300 [0xAC] used (by rw [hSize]; decide)
  · exact (hStable [0xAC]).2.mpr ⟨by decide, by simp⟩
  · rw [(hStable (List.replicate 10 0xFF)).1 (by decide), hTen]

end Varint

end CaptureLink
