import CaptureLink.Proofs.Varint

/-
  What the bytes of a length stand for.  As groups of seven
  bits they denote a number of any size.  Reading gives this
  number in 64 bits: what a tenth byte has beyond the topmost
  bit is lost, and shorter lengths are read as they are.

  Main statements:
    * `Varint.Closed`
    * `Varint.denoted`
    * `Varint.denoted_lt_iff`
    * `Varint.read_closed_append`
-/

namespace CaptureLink

namespace Varint

------------------------------------------------------------
-- Lengths of any size
------------------------------------------------------------

/- Every byte but the last carries the continuation bit. -/
def Closed : List UInt8 → Prop
| [] => False
| [b] => b.toNat < 128
| b :: bs => 128 ≤ b.toNat ∧ Closed bs

/- It can be seen of any bytes whether they are closed. -/
instance decidableClosed :
    (bytes : List UInt8) → Decidable (Closed bytes)
| [] => .isFalse id
| [b] => inferInstanceAs (Decidable (b.toNat < 128))
| b :: b' :: bs =>
    have := decidableClosed (b' :: bs)
    inferInstanceAs
      (Decidable (128 ≤ b.toNat ∧ Closed (b' :: bs)))

/-
  The number that the groups stand for, the lowest group
  first, however large it is.
-/
def denoted : List UInt8 → Nat
| [] => 0
| b :: bs => b.toNat % 128 + 128 * denoted bs

theorem denoted_cons (b : UInt8) (bytes : List UInt8) :
    denoted (b :: bytes) = b.toNat % 128 + 128 * denoted bytes :=
  rfl

/- Groups behind others weigh as much more as these have bits. -/
theorem denoted_append (bytes more : List UInt8) :
    denoted (bytes ++ more) =
      denoted bytes + 2 ^ (7 * bytes.length) * denoted more := by
  induction bytes with
  | nil => simp [denoted]
  | cons b bytes ih =>
      rw [List.cons_append, denoted_cons, denoted_cons, ih,
        List.length_cons, groupWeight_succ]
      ring

/- So many groups stand for a number of seven times as many bits. -/
theorem denoted_lt (bytes : List UInt8) :
    denoted bytes < 2 ^ (7 * bytes.length) := by
  induction bytes with
  | nil => exact Nat.one_pos
  | cons b bytes ih =>
      rw [denoted_cons, List.length_cons, groupWeight_succ]
      omega

/- The last of some closed bytes carries no continuation bit. -/
theorem Closed.getLast_lt
    {groups : List UInt8}
    {b : UInt8}
    (hClosed : Closed (groups ++ [b])) :
    b.toNat < 128 := by
  induction groups with
  | nil => exact hClosed
  | cons g groups ih =>
      apply ih
      cases groups with
      | nil => exact hClosed.2
      | cons g' groups => exact hClosed.2

/-
  Up to ten closed bytes denote a number of 64 bits exactly if
  a tenth byte has nothing but its lowest bit.
-/
theorem denoted_lt_iff
    {front : List UInt8}
    (hClosed : Closed front)
    (hPlaces : front.length ≤ maxBytes) :
    denoted front < 2 ^ 64 ↔
      ∀ b, front[9]? = some b → b.toNat < 2 := by
  unfold maxBytes at hPlaces
  by_cases hShort : front.length ≤ 9
  · have hFits : denoted front < 2 ^ 64 := by
      calc denoted front
          < 2 ^ (7 * front.length) := denoted_lt front
        _ ≤ 2 ^ 64 := Nat.pow_le_pow_right (by omega) (by omega)
    have hNone : front[9]? = none :=
      List.getElem?_eq_none hShort
    simp only [hFits, hNone, reduceCtorEq, false_implies,
      implies_true]
  · obtain ⟨groups, b, rfl⟩ :
        ∃ groups b, front = groups ++ [b] := by
      rcases List.eq_nil_or_concat front with
        rfl | ⟨groups, b, rfl⟩
      · exact absurd (Nat.zero_le 9) hShort
      · exact ⟨groups, b, List.concat_eq_append⟩
    have hNine : groups.length = 9 := by
      rw [List.length_append, List.length_singleton]
        at hShort hPlaces
      omega
    have hTenth : (groups ++ [b])[9]? = some b := by
      rw [← hNine, List.getElem?_concat_length]
    have hLast := hClosed.getLast_lt
    have hBelow := denoted_lt groups
    rw [hNine] at hBelow
    rw [denoted_append, hNine, denoted_cons, denoted, hTenth,
      Nat.mod_eq_of_lt hLast]
    simp only [Option.some.injEq, forall_eq']
    omega

------------------------------------------------------------
-- Reading them
------------------------------------------------------------

/-
  Reading on adds what the bytes denote, weighted, to what the
  groups before them summed up to, and keeps 64 bits of it.
-/
theorem readFrom_closed_append
    {front : List UInt8}
    (rest : List UInt8)
    {pos total : Nat}
    (hClosed : Closed front)
    (hPlaces : pos + front.length ≤ maxBytes) :
    readFrom pos total (front ++ rest) =
      .value ((total + denoted front * 2 ^ (7 * pos)) % 2 ^ 64)
        (pos + front.length) := by
  have hSize : UInt64.size = 2 ^ 64 := rfl
  induction front generalizing pos total with
  | nil => exact hClosed.elim
  | cons b bs ih =>
      rw [List.length_cons] at hPlaces
      have hPos : ¬ maxBytes ≤ pos := by
        omega
      cases bs with
      | nil =>
          have hLast : b.toNat < 128 := hClosed
          simp only [List.cons_append, List.nil_append, readFrom,
            hPos, hLast, if_true, if_false, hSize, Nat.pow_eq,
            denoted, Nat.mul_zero, Nat.add_zero,
            List.length_singleton]
      | cons b' bs =>
          rcases hClosed with ⟨hMore, hClosed⟩
          have hGoesOn : ¬ b.toNat < 128 := by
            omega
          -- What is kept of the sum so far is all that matters.
          have hSum :
              ((total + b.toNat % 128 * 2 ^ (7 * pos)) % 2 ^ 64 +
                  denoted (b' :: bs) * 2 ^ (7 * (pos + 1))) %
                  2 ^ 64 =
                (total + denoted (b :: b' :: bs) * 2 ^ (7 * pos)) %
                  2 ^ 64 := by
            rw [Nat.mod_add_mod, groupWeight_succ]
            congr 1
            rw [denoted_cons b]
            ring
          have hUsed :
              pos + 1 + (b' :: bs).length =
                pos + (b :: b' :: bs).length := by
            simp only [List.length_cons]
            omega
          rw [List.cons_append, readFrom, if_neg hPos,
            if_neg hGoesOn, hSize, Nat.pow_eq,
            ih hClosed (by omega), hSum, hUsed]

/-
  Up to ten closed bytes are read as 64 bits of what they
  denote, whatever follows them.
-/
theorem read_closed_append
    {front : List UInt8}
    (rest : List UInt8)
    (hClosed : Closed front)
    (hPlaces : front.length ≤ maxBytes) :
    read (front ++ rest) =
      .value (denoted front % 2 ^ 64) front.length := by
  have hRead :
      readFrom 0 0 (front ++ rest) =
        .value ((0 + denoted front * 2 ^ (7 * 0)) % 2 ^ 64)
          (0 + front.length) :=
    readFrom_closed_append rest hClosed (by omega)
  simpa [read] using hRead

end Varint

end CaptureLink
