import CaptureLink.Crc32

/-
  A checksum read back from the four bytes it travels in, and
  any four bytes read as the checksum that travels in them.

  Main statements:
    * `Crc32.ofBytes_toBytes`
    * `Crc32.toBytes_ofBytes`
-/

namespace CaptureLink

namespace Crc32

/- A byte cut out and put back holds the bits of its place. -/
theorem getLsbD_byteAt
    (r : BitVec 32)
    (place : Nat)
    {i : Nat}
    (hi : i < 32) :
    ((((r >>> place).setWidth 8).setWidth 32) <<< place).getLsbD i =
      (decide (place ≤ i ∧ i < place + 8) && r.getLsbD i) := by
  simp only [BitVec.getLsbD_shiftLeft, BitVec.getLsbD_setWidth,
    BitVec.getLsbD_ushiftRight]
  by_cases hBelow : i < place
  · have hOut : ¬(place ≤ i ∧ i < place + 8) := by
      omega
    simp [hBelow, hOut]
  · have hBack : place + (i - place) = i := by
      omega
    have hShort : i - place < 32 := by
      omega
    by_cases hIn : i - place < 8
    · have hPlace : place ≤ i ∧ i < place + 8 := by
        omega
      simp [hi, hBelow, hBack, hShort, hIn, hPlace]
    · have hOut : ¬(place ≤ i ∧ i < place + 8) := by
        omega
      simp [hIn, hOut]

/- Four bytes of 32 bits, each at its place, are the 32 bits. -/
theorem joinBytes_splitBytes (r : BitVec 32) :
    (((r >>> 0).setWidth 8).setWidth 32) <<< 0 |||
        (((r >>> 8).setWidth 8).setWidth 32) <<< 8 |||
        (((r >>> 16).setWidth 8).setWidth 32) <<< 16 |||
        (((r >>> 24).setWidth 8).setWidth 32) <<< 24 =
      r := by
  apply BitVec.eq_of_getLsbD_eq
  intro i hi
  simp only [BitVec.getLsbD_or, getLsbD_byteAt r _ hi]
  cases r.getLsbD i with
  | false => simp
  | true =>
      simp only [Bool.and_true, Bool.or_eq_true, decide_eq_true_eq]
      omega

/- A checksum is read back from its four bytes. -/
theorem ofBytes_toBytes (r : UInt32) :
    ofBytes r.toUInt8 (r >>> 8).toUInt8 (r >>> 16).toUInt8
        (r >>> 24).toUInt8 =
      r := by
  apply UInt32.eq_of_toBitVec_eq
  have hJoin := joinBytes_splitBytes r.toBitVec
  rw [BitVec.ushiftRight_zero, BitVec.shiftLeft_zero] at hJoin
  unfold ofBytes
  simp only [UInt32.toBitVec_or, UInt32.toBitVec_shiftLeft,
    UInt32.toBitVec_shiftRight, UInt8.toBitVec_toUInt32,
    UInt32.toBitVec_toUInt8]
  exact hJoin

/- A byte at its place has no other bits. -/
theorem getLsbD_placed
    (b : BitVec 8)
    {place : Nat}
    (i : Nat)
    (hPlace : place ≤ 24) :
    (b.setWidth 32 <<< place).getLsbD i =
      (decide (place ≤ i) && b.getLsbD (i - place)) := by
  rw [BitVec.getLsbD_shiftLeft, BitVec.getLsbD_setWidth]
  by_cases hByte : i - place < 8
  · by_cases hBelow : i < place
    · have hNot : ¬ place ≤ i := by
        omega
      simp [hBelow, hNot]
    · have hWord : i < 32 := by
        omega
      have hShort : i - place < 32 := by
        omega
      have hFrom : place ≤ i := by
        omega
      simp [hBelow, hWord, hShort, hFrom]
  · rw [BitVec.getLsbD_of_ge b _ (by omega)]
    simp

/- The 32 bits of four bytes, each at its place, hold the bytes. -/
theorem splitBytes_joinBytes (b₀ b₁ b₂ b₃ : BitVec 8) :
    let r :=
      b₀.setWidth 32 ||| b₁.setWidth 32 <<< 8 |||
        b₂.setWidth 32 <<< 16 ||| b₃.setWidth 32 <<< 24
    r.setWidth 8 = b₀ ∧
      (r >>> 8).setWidth 8 = b₁ ∧
      (r >>> 16).setWidth 8 = b₂ ∧
      (r >>> 24).setWidth 8 = b₃ := by
  intro r
  have hBit :
      ∀ i,
        r.getLsbD i =
          (decide (i < 32) && b₀.getLsbD i ||
            decide (8 ≤ i) && b₁.getLsbD (i - 8) ||
            decide (16 ≤ i) && b₂.getLsbD (i - 16) ||
            decide (24 ≤ i) && b₃.getLsbD (i - 24)) := by
    intro i
    simp only [r, BitVec.getLsbD_or]
    rw [BitVec.getLsbD_setWidth, getLsbD_placed b₁ i (by decide),
      getLsbD_placed b₂ i (by decide),
      getLsbD_placed b₃ i (by decide)]
  have hBeyond :
      ∀ (b : BitVec 8) (i : Nat), 8 ≤ i → b.getLsbD i = false :=
    fun b i hi => BitVec.getLsbD_of_ge b i hi
  refine ⟨?_, ?_, ?_, ?_⟩
  all_goals
    apply BitVec.eq_of_getLsbD_eq
    intro i hi
    simp only [BitVec.getLsbD_setWidth,
      BitVec.getLsbD_ushiftRight, hBit]
    grind

/- Four bytes are read as the checksum that travels in them. -/
theorem toBytes_ofBytes (b₀ b₁ b₂ b₃ : UInt8) :
    toBytes (ofBytes b₀ b₁ b₂ b₃) = [b₀, b₁, b₂, b₃] := by
  rcases splitBytes_joinBytes b₀.toBitVec b₁.toBitVec
      b₂.toBitVec b₃.toBitVec with ⟨h₀, h₁, h₂, h₃⟩
  have hFirst : (ofBytes b₀ b₁ b₂ b₃).toUInt8 = b₀ :=
    UInt8.eq_of_toBitVec_eq h₀
  have hSecond : (ofBytes b₀ b₁ b₂ b₃ >>> 8).toUInt8 = b₁ :=
    UInt8.eq_of_toBitVec_eq h₁
  have hThird : (ofBytes b₀ b₁ b₂ b₃ >>> 16).toUInt8 = b₂ :=
    UInt8.eq_of_toBitVec_eq h₂
  have hFourth : (ofBytes b₀ b₁ b₂ b₃ >>> 24).toUInt8 = b₃ :=
    UInt8.eq_of_toBitVec_eq h₃
  rw [toBytes, hFirst, hSecond, hThird, hFourth]

end Crc32

end CaptureLink
