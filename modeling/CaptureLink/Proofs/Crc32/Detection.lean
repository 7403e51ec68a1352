import CaptureLink.Proofs.Crc32
import Mathlib.Logic.Function.Iterate

/-
  What a checksum detects.  A step of the division is linear
  over exclusive or and loses nothing, so two byte strings
  that differ in a window of at most four bytes leave
  different remainders: the bytes of the window stand side by
  side in the 32 bits of one word, and from there on every
  step keeps the two apart.

  Main statements:
    * `Crc32.iterate_shift_xor`
    * `Crc32.shift_injective`
    * `Crc32.foldl_absorb_eq`
    * `Crc32.pack_injective`
    * `Crc32.checksum_ne_of_window`
-/

namespace CaptureLink

namespace Crc32

------------------------------------------------------------
-- One step of the division
------------------------------------------------------------

/- The lowest bit decides whether the generator is added. -/
theorem low_bit_iff (r : UInt32) :
    r &&& 1 = 1 ↔ r.toBitVec.getLsbD 0 = true := by
  have hLow :
      (r &&& 1).toBitVec =
        BitVec.setWidth 32
          (BitVec.ofBool (r.toBitVec.getLsbD 0)) := by
    rw [UInt32.toBitVec_and]
    exact BitVec.and_one_eq_setWidth_ofBool_getLsbD
  rw [← UInt32.toBitVec_inj, hLow]
  cases r.toBitVec.getLsbD 0 with
  | false => decide
  | true => decide

/- The bits after a step, from those before it. -/
theorem getLsbD_shift
    (r : UInt32)
    (i : Nat) :
    (shift r).toBitVec.getLsbD i =
      (r.toBitVec.getLsbD (i + 1) ^^
        (r.toBitVec.getLsbD 0 && generator.toBitVec.getLsbD i)) := by
  have hMoved :
      (r >>> 1).toBitVec.getLsbD i =
        r.toBitVec.getLsbD (i + 1) := by
    rw [UInt32.toBitVec_shiftRight, Nat.add_comm i 1]
    exact BitVec.getLsbD_ushiftRight _ 1 i
  unfold shift
  cases hLow : r.toBitVec.getLsbD 0 with
  | false =>
      have hNot : ¬ r &&& 1 = 1 := by
        rw [low_bit_iff, hLow]
        decide
      rw [if_neg hNot, hMoved, Bool.false_and, Bool.xor_false]
  | true =>
      rw [if_pos ((low_bit_iff r).mpr hLow),
        UInt32.toBitVec_xor, BitVec.getLsbD_xor, hMoved,
        Bool.true_and]

/- A step is linear. -/
theorem shift_xor (a b : UInt32) :
    shift (a ^^^ b) = shift a ^^^ shift b := by
  have hBits :
      ∀ p q s t g : Bool,
        ((p ^^ q) ^^ ((s ^^ t) && g)) =
          ((p ^^ (s && g)) ^^ (q ^^ (t && g))) := by
    decide
  apply UInt32.eq_of_toBitVec_eq
  apply BitVec.eq_of_getLsbD_eq
  intro i _
  simp only [UInt32.toBitVec_xor, BitVec.getLsbD_xor,
    getLsbD_shift]
  exact hBits _ _ _ _ _

/- So are several steps. -/
theorem iterate_shift_xor
    (n : Nat)
    (a b : UInt32) :
    shift^[n] (a ^^^ b) = shift^[n] a ^^^ shift^[n] b := by
  induction n generalizing a b with
  | zero => rfl
  | succ n ih =>
      rw [Function.iterate_succ_apply, shift_xor, ih]
      rfl

/-
  A step loses nothing: the generator has the topmost bit, so
  that bit tells afterwards whether the generator was added.
-/
theorem shift_injective : Function.Injective shift := by
  intro a b hSame
  have hBit :
      ∀ i,
        (a.toBitVec.getLsbD (i + 1) ^^
            (a.toBitVec.getLsbD 0 &&
              generator.toBitVec.getLsbD i)) =
          (b.toBitVec.getLsbD (i + 1) ^^
            (b.toBitVec.getLsbD 0 &&
              generator.toBitVec.getLsbD i)) := by
    intro i
    rw [← getLsbD_shift, ← getLsbD_shift, hSame]
  have hTop : generator.toBitVec.getLsbD 31 = true := by
    decide
  have hLow : a.toBitVec.getLsbD 0 = b.toBitVec.getLsbD 0 := by
    have hLast := hBit 31
    rw [hTop, BitVec.getLsbD_of_ge _ _ (Nat.le_refl 32),
      BitVec.getLsbD_of_ge _ _ (Nat.le_refl 32)] at hLast
    simpa using hLast
  apply UInt32.eq_of_toBitVec_eq
  apply BitVec.eq_of_getLsbD_eq
  intro i _
  cases i with
  | zero => exact hLow
  | succ i =>
      have hHere := hBit i
      rw [hLow] at hHere
      exact Bool.xor_left_inj.mp hHere

/- A number without its lowest bits is only moved by as many steps. -/
theorem getLsbD_iterate_shift
    {r : UInt32}
    (n : Nat)
    (hClear : ∀ i < n, r.toBitVec.getLsbD i = false)
    (i : Nat) :
    (shift^[n] r).toBitVec.getLsbD i =
      r.toBitVec.getLsbD (i + n) := by
  induction n generalizing i with
  | zero => rfl
  | succ n ih =>
      have hRest : ∀ i < n, r.toBitVec.getLsbD i = false :=
        fun i hi => hClear i (Nat.lt_succ_of_lt hi)
      rw [Function.iterate_succ_apply', getLsbD_shift,
        ih hRest, ih hRest, Nat.zero_add,
        hClear n (Nat.lt_succ_self n), Bool.false_and,
        Bool.xor_false, Nat.add_right_comm, Nat.add_assoc]

------------------------------------------------------------
-- Few bytes at once
------------------------------------------------------------

/- Bytes side by side in one word, the first in the lowest place. -/
def pack : List UInt8 → UInt32
| [] => 0
| b :: bs => b.toUInt32 ^^^ (pack bs <<< 8)

/- The lowest place is empty behind the first byte. -/
theorem getLsbD_byte_of_le
    (b : UInt8)
    {i : Nat}
    (hi : 8 ≤ i) :
    b.toUInt32.toBitVec.getLsbD i = false := by
  rw [UInt8.toBitVec_toUInt32, BitVec.getLsbD_setWidth,
    BitVec.getLsbD_of_ge _ _ hi, Bool.and_false]

/- The other bytes stand one place higher. -/
theorem getLsbD_raised
    (r : UInt32)
    (i : Nat) :
    (r <<< 8).toBitVec.getLsbD i =
      (decide (i < 32) && !decide (i < 8) &&
        r.toBitVec.getLsbD (i - 8)) := by
  rw [UInt32.toBitVec_shiftLeft]
  exact BitVec.getLsbD_shiftLeft _ 8

/- So many bytes take so many places. -/
theorem getLsbD_pack_of_le
    (bs : List UInt8)
    {i : Nat}
    (hi : 8 * bs.length ≤ i) :
    (pack bs).toBitVec.getLsbD i = false := by
  induction bs generalizing i with
  | nil => exact BitVec.getLsbD_zero
  | cons b bs ih =>
      rw [List.length_cons] at hi
      rw [pack, UInt32.toBitVec_xor, BitVec.getLsbD_xor,
        getLsbD_byte_of_le b (by omega), getLsbD_raised,
        ih (by omega), Bool.and_false, Bool.xor_false]

/- Eight steps move up to three bytes one place down. -/
theorem iterate_shift_raised
    {bs : List UInt8}
    (hShort : bs.length ≤ 3) :
    shift^[8] (pack bs <<< 8) = pack bs := by
  apply UInt32.eq_of_toBitVec_eq
  apply BitVec.eq_of_getLsbD_eq
  intro i _
  rw [getLsbD_iterate_shift 8, getLsbD_raised,
    Nat.add_sub_cancel]
  · by_cases hi : i + 8 < 32
    · simp [hi]
    · rw [getLsbD_pack_of_le bs (by omega), Bool.and_false]
  · intro j hj
    rw [getLsbD_raised]
    simp [hj]

/- Up to four bytes are absorbed all at once. -/
theorem foldl_absorb_eq
    (bs : List UInt8)
    (hShort : bs.length ≤ 4)
    (r : UInt32) :
    bs.foldl absorb r =
      shift^[8 * bs.length] (r ^^^ pack bs) := by
  induction bs generalizing r with
  | nil => simp [pack]
  | cons b bs ih =>
      rw [List.length_cons] at hShort
      have hAbsorb :
          absorb r b = shift^[8] (r ^^^ b.toUInt32) := rfl
      have hRest : bs.length ≤ 3 := by
        omega
      calc (b :: bs).foldl absorb r
          = shift^[8 * bs.length] (absorb r b ^^^ pack bs) :=
            ih (by omega) (absorb r b)
        _ = shift^[8 * bs.length]
              (shift^[8] (r ^^^ b.toUInt32) ^^^
                shift^[8] (pack bs <<< 8)) := by
            rw [hAbsorb, iterate_shift_raised hRest]
        _ = shift^[8 * (bs.length + 1)]
              (r ^^^ pack (b :: bs)) := by
            rw [← iterate_shift_xor, Nat.mul_succ,
              Function.iterate_add_apply, pack,
              UInt32.xor_assoc]

/- Up to four bytes are read off their word. -/
theorem pack_injective
    {bs bs' : List UInt8}
    (hLength : bs'.length = bs.length)
    (hShort : bs.length ≤ 4)
    (hPack : pack bs' = pack bs) :
    bs' = bs := by
  induction bs generalizing bs' with
  | nil => exact List.eq_nil_of_length_eq_zero hLength
  | cons b bs ih =>
      cases bs' with
      | nil => cases hLength
      | cons b' bs' =>
          rw [List.length_cons, List.length_cons] at hLength
          rw [List.length_cons] at hShort
          have hBit :
              ∀ i,
                (b'.toUInt32.toBitVec.getLsbD i ^^
                    (pack bs' <<< 8).toBitVec.getLsbD i) =
                  (b.toUInt32.toBitVec.getLsbD i ^^
                    (pack bs <<< 8).toBitVec.getLsbD i) := by
            intro i
            rw [← BitVec.getLsbD_xor, ← BitVec.getLsbD_xor,
              ← UInt32.toBitVec_xor, ← UInt32.toBitVec_xor]
            exact congrArg
              (fun r : UInt32 => r.toBitVec.getLsbD i) hPack
          have hFirst : b' = b := by
            apply UInt8.eq_of_toBitVec_eq
            apply BitVec.eq_of_getLsbD_eq
            intro i hi
            have hHere := hBit i
            rw [getLsbD_raised, getLsbD_raised,
              UInt8.toBitVec_toUInt32, UInt8.toBitVec_toUInt32,
              BitVec.getLsbD_setWidth, BitVec.getLsbD_setWidth]
              at hHere
            simpa [hi, show i < 32 by omega] using hHere
          have hOthers : pack bs' = pack bs := by
            apply UInt32.eq_of_toBitVec_eq
            apply BitVec.eq_of_getLsbD_eq
            intro i hi
            by_cases hPlace : i + 8 < 32
            · have hHere := hBit (i + 8)
              rw [getLsbD_raised, getLsbD_raised,
                getLsbD_byte_of_le b' (by omega),
                getLsbD_byte_of_le b (by omega)] at hHere
              have hHigh : ¬ i + 8 < 8 := by
                omega
              simpa [hPlace, hHigh] using hHere
            · rw [getLsbD_pack_of_le bs' (by omega),
                getLsbD_pack_of_le bs (by omega)]
          rw [hFirst, ih (by omega) (by omega) hOthers]

------------------------------------------------------------
-- Damage
------------------------------------------------------------

/- A byte is absorbed without loss. -/
theorem absorb_injective (b : UInt8) :
    Function.Injective fun r => absorb r b := by
  intro r r' hSame
  exact (UInt32.xor_left_inj _).mp
    (shift_injective.iterate 8 hSame)

/- So are several. -/
theorem foldl_absorb_injective (bs : List UInt8) :
    Function.Injective fun r => bs.foldl absorb r := by
  induction bs with
  | nil => exact fun _ _ hSame => hSame
  | cons b bs ih =>
      exact fun _ _ hSame => absorb_injective b (ih hSame)

/-
  Byte strings that differ in a window of at most four bytes
  have different checksums, whatever stands around the window.
-/
theorem checksum_ne_of_window
    (before after : List UInt8)
    {window window' : List UInt8}
    (hLength : window'.length = window.length)
    (hShort : window.length ≤ 4)
    (hDiffers : window' ≠ window) :
    checksum (before ++ (window' ++ after)) ≠
      checksum (before ++ (window ++ after)) := by
  intro hSame
  apply hDiffers
  apply pack_injective hLength hShort
  simp only [checksum, List.foldl_append] at hSame
  have hBehind :=
    foldl_absorb_injective after
      ((UInt32.xor_left_inj _).mp hSame)
  rw [foldl_absorb_eq window' (by omega),
    foldl_absorb_eq window hShort, hLength] at hBehind
  exact (UInt32.xor_right_inj _).mp
    (shift_injective.iterate _ hBehind)

end Crc32

end CaptureLink
