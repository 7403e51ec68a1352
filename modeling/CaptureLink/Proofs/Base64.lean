import CaptureLink.Base64
import CaptureLink.Text.Blank

/-
  Base64 gives back the bytes it was made of.  Bytes are
  written in groups of three, and every group is read back
  for itself; the last one may have one or two bytes less.
  What is written has no blanks in it.

  Main statements:
    * `Base64.groupValue?_letters`
    * `Base64.decodeOnto_group_append`
    * `Base64.encodeOnto_append`
    * `Base64.decode?_encode`
    * `Base64.isBlank_of_mem_encodeOnto`
-/

namespace CaptureLink

namespace Base64

------------------------------------------------------------
-- Letters
------------------------------------------------------------

/- A six-bit value is read back from its letter. -/
theorem value?_letter
    {v : Nat}
    (hSix : v < 64) : value? (letter v) = some v := by
  have hAll : ∀ v < 64, value? (letter v) = some v := by
    decide
  exact hAll v hSix

/- Bits that are not there are written as zero. -/
theorem letter_of_eq_zero
    {v : Nat}
    (hZero : v = 0) : letter v = 'A' := by
  rw [hZero]
  rfl

/- No letter is the sign that fills a group. -/
theorem letter_ne_pad
    {v : Nat}
    (hSix : v < 64) : letter v ≠ pad := by
  have hAll : ∀ v < 64, letter v ≠ pad := by
    decide
  exact hAll v hSix

/- No letter is a blank. -/
theorem isBlank_letter
    {v : Nat}
    (hSix : v < 64) : Text.isBlank (letter v) = false := by
  have hAll : ∀ v < 64, Text.isBlank (letter v) = false := by
    decide
  exact hAll v hSix

------------------------------------------------------------
-- Groups
------------------------------------------------------------

/- A value of 24 bits is read back from its four letters. -/
theorem groupValue?_letters
    {n : Nat}
    (hBits : n < 16777216) :
    groupValue? (letter (n / 262144)) (letter (n / 4096 % 64))
      (letter (n / 64 % 64)) (letter (n % 64)) = some n := by
  have hHigh : n / 262144 < 64 := by
    omega
  simp only [groupValue?, value?_letter hHigh,
    value?_letter (Nat.mod_lt _ (by decide : 0 < 64)),
    Option.bind_eq_bind, Option.bind_some, Option.some.injEq]
  omega

/- The value of three bytes. -/
def value (a b c : UInt8) : Nat :=
  a.toNat * 65536 + b.toNat * 256 + c.toNat

/- It has 24 bits. -/
theorem value_lt (a b c : UInt8) : value a b c < 16777216 := by
  have ha := a.toNat_lt
  have hb := b.toNat_lt
  have hc := c.toNat_lt
  rw [value]
  omega

/- The three bytes are read back from it. -/
theorem threeBytes_value (a b c : UInt8) :
    threeBytes (value a b c) = [a, b, c] := by
  have hb := b.toNat_lt
  have hc := c.toNat_lt
  have hFirst : value a b c / 65536 = a.toNat := by
    rw [value]
    omega
  have hSecond : value a b c / 256 % 256 = b.toNat := by
    rw [value]
    omega
  have hThird : value a b c % 256 = c.toNat := by
    rw [value]
    omega
  rw [threeBytes, hFirst, hSecond, hThird, UInt8.ofNat_toNat,
    UInt8.ofNat_toNat, UInt8.ofNat_toNat]

/- A group has the letters of its value. -/
theorem group_eq (a b c : UInt8) :
    group a b c =
      [letter (value a b c / 262144),
        letter (value a b c / 4096 % 64),
        letter (value a b c / 64 % 64),
        letter (value a b c % 64)] :=
  rfl

/- From these its value is read back. -/
theorem exists_group_eq (a b c : UInt8) :
    ∃ w x y z,
      group a b c = [w, x, y, z] ∧
        groupValue? w x y z = some (value a b c) ∧
        z ≠ pad :=
  ⟨_, _, _, _, group_eq a b c,
    groupValue?_letters (value_lt a b c),
    letter_ne_pad (Nat.mod_lt _ (by decide))⟩

------------------------------------------------------------
-- Reading groups
------------------------------------------------------------

/- A group is read as its three bytes, if it is the last or not. -/
theorem decodeOnto_group_append
    (done : List UInt8)
    (a b c : UInt8)
    (text : List Char) :
    decodeOnto done (group a b c ++ text) =
      decodeOnto ([c, b, a] ++ done) text := by
  rcases exists_group_eq a b c with
    ⟨w, x, y, z, hGroup, hValue, hLetter⟩
  rw [hGroup]
  cases text with
  | nil =>
      simp [decodeOnto, lastGroup?, hLetter, hValue,
        threeBytes_value]
  | cons first rest =>
      simp [decodeOnto, hValue, threeBytes_value]

/- The last four letters are read for themselves. -/
theorem decodeOnto_last
    (done : List UInt8)
    (a b c d : Char) :
    decodeOnto done [a, b, c, d] =
      (lastGroup? a b c d).map (done.reverse ++ ·) := by
  rw [decodeOnto]

/- A last group may lack its third byte. -/
theorem decodeOnto_two
    (done : List UInt8)
    (a b : UInt8) :
    decodeOnto done ((group a b 0).take 3 ++ [pad]) =
      some (done.reverse ++ [a, b]) := by
  have hNone : value a b 0 % 256 = 0 := by
    rw [value, UInt8.toNat_zero]
    omega
  have hFill : letter (value a b 0 % 64) = 'A' :=
    letter_of_eq_zero (by omega)
  have hValue := groupValue?_letters (value_lt a b 0)
  have hLetter : letter (value a b 0 / 64 % 64) ≠ pad :=
    letter_ne_pad (Nat.mod_lt _ (by decide))
  rw [hFill] at hValue
  rw [group_eq, List.take_succ_cons, List.take_succ_cons,
    List.take_succ_cons, List.take_zero]
  simp only [List.cons_append, List.nil_append]
  rw [decodeOnto_last, lastGroup?, if_pos rfl, if_neg hLetter,
    hValue, Option.bind_eq_bind, Option.bind_some,
    if_pos hNone, threeBytes_value]
  rfl

/- Or both bytes behind the first. -/
theorem decodeOnto_one
    (done : List UInt8)
    (a : UInt8) :
    decodeOnto done ((group a 0 0).take 2 ++ [pad, pad]) =
      some (done.reverse ++ [a]) := by
  have hNone : value a 0 0 % 65536 = 0 := by
    rw [value, UInt8.toNat_zero]
    omega
  have hFill : letter (value a 0 0 % 64) = 'A' :=
    letter_of_eq_zero (by omega)
  have hFill' : letter (value a 0 0 / 64 % 64) = 'A' :=
    letter_of_eq_zero (by omega)
  have hValue := groupValue?_letters (value_lt a 0 0)
  rw [hFill, hFill'] at hValue
  rw [group_eq, List.take_succ_cons, List.take_succ_cons,
    List.take_zero]
  simp only [List.cons_append, List.nil_append]
  rw [decodeOnto_last, lastGroup?, if_pos rfl, if_pos rfl,
    hValue, Option.bind_eq_bind, Option.bind_some,
    if_pos hNone, threeBytes_value]
  rfl

------------------------------------------------------------
-- Texts
------------------------------------------------------------

/- What was written before stands in front. -/
theorem encodeOnto_append
    (newer older : List Char)
    (bytes : List UInt8) :
    encodeOnto (newer ++ older) bytes =
      older.reverse ++ encodeOnto newer bytes := by
  fun_induction encodeOnto newer bytes with
  | case1 newer => simp [encodeOnto]
  | case2 newer a => simp [encodeOnto]
  | case3 newer a b => simp [encodeOnto]
  | case4 newer a b c rest ih =>
      rw [encodeOnto, ← List.append_assoc, ih]

/- The first group stands in front of the text of the others. -/
theorem encodeOnto_group
    (a b c : UInt8)
    (rest : List UInt8) :
    encodeOnto [] (a :: b :: c :: rest) =
      group a b c ++ encodeOnto [] rest := by
  have hSplit := encodeOnto_append [] (group a b c).reverse rest
  rwa [List.nil_append, List.reverse_reverse,
    ← List.append_nil (group a b c).reverse] at hSplit

/- What is written is read back, group by group. -/
theorem decodeOnto_encodeOnto :
    ∀ done bytes,
      decodeOnto done (encodeOnto [] bytes) =
        some (done.reverse ++ bytes)
| done, [] => by
    simp [encodeOnto, decodeOnto]
| done, [a] => decodeOnto_one done a
| done, [a, b] => decodeOnto_two done a b
| done, a :: b :: c :: rest => by
    rw [encodeOnto_group, decodeOnto_group_append,
      decodeOnto_encodeOnto]
    simp

/- The text of some bytes stands for them. -/
theorem decode?_encode (bytes : List UInt8) :
    decode? (encode bytes).toList = some bytes := by
  rw [encode, String.toList_ofList, decode?,
    decodeOnto_encodeOnto, List.reverse_nil, List.nil_append]

/- There are no blanks in a group. -/
theorem isBlank_of_mem_group
    {a b c : UInt8}
    {sign : Char}
    (hMem : sign ∈ group a b c) :
    Text.isBlank sign = false := by
  have hLow : ∀ n, n % 64 < 64 := fun n =>
    Nat.mod_lt n (by decide)
  have hHigh : value a b c / 262144 < 64 := by
    have hBits := value_lt a b c
    omega
  simp only [group_eq, List.mem_cons, List.not_mem_nil,
    or_false] at hMem
  rcases hMem with rfl | rfl | rfl | rfl
  · exact isBlank_letter hHigh
  · exact isBlank_letter (hLow _)
  · exact isBlank_letter (hLow _)
  · exact isBlank_letter (hLow _)

/- Nor is there one where a group is cut and filled. -/
theorem isBlank_of_mem_filled
    (a b c : UInt8)
    (kept missing : Nat)
    {sign : Char}
    (hMem :
      sign ∈ (group a b c).take kept ++
        List.replicate missing pad) :
    Text.isBlank sign = false := by
  rw [List.mem_append] at hMem
  rcases hMem with hGroup | hPad
  · exact isBlank_of_mem_group (List.mem_of_mem_take hGroup)
  · rw [List.eq_of_mem_replicate hPad]
    decide

/- There is none in the text of some bytes. -/
theorem isBlank_of_mem_encodeOnto
    {sign : Char} :
    ∀ bytes,
      sign ∈ encodeOnto [] bytes → Text.isBlank sign = false
| [], hMem => by
    cases hMem
| [a], hMem =>
    isBlank_of_mem_filled a 0 0 2 2 hMem
| [a, b], hMem =>
    isBlank_of_mem_filled a b 0 3 1 hMem
| a :: b :: c :: rest, hMem => by
    rw [encodeOnto_group, List.mem_append] at hMem
    rcases hMem with hGroup | hRest
    · exact isBlank_of_mem_group hGroup
    · exact isBlank_of_mem_encodeOnto rest hRest

end Base64

end CaptureLink
