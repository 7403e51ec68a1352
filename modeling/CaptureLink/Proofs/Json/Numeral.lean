import CaptureLink.Json.Numeral
import CaptureLink.Proofs.Number.Shortest

/-
  Numerals read back.  Wherever the point is laid, the text of
  a double spells its shortest decimal, with or without zeros
  behind its digits, and so it is read as the same double.

  Main statements:
    * `Json.Numeral.unsigned?_spelling`
    * `Json.Numeral.Spells.exists_unsigned?`
    * `Json.spells_layout`
    * `Json.toBinary64?_realText`
    * `Json.ofChars?_toDigits`
-/

namespace CaptureLink

namespace Json

namespace Numeral

------------------------------------------------------------
-- The parts of a numeral
------------------------------------------------------------

/- Some digits, at least one. -/
structure Digits (ds : List Char) : Prop where
  nonempty : ds ≠ []
  digit : ∀ c ∈ ds, c.isDigit = true

/- Digits that may stand left of the point. -/
structure Whole (ds : List Char) : Prop extends Digits ds where
  unpadded : ds.head? = some '0' → ds.length = 1

/- The characters cannot continue some digits. -/
def Stops (rest : List Char) : Prop :=
  ∀ c, rest.head? = some c → c.isDigit = false

/- Digits that do not begin with a zero are not padded. -/
theorem Whole.of_head?_ne
    {ds : List Char}
    (hDigits : Digits ds)
    (hHead : ds.head? ≠ some '0') : Whole ds :=
  ⟨hDigits, fun hZero => absurd hZero hHead⟩

/- Digits end where no further digit follows. -/
theorem digits?_append
    {ds rest : List Char}
    (hDigits : Digits ds)
    (hRest : Stops rest) :
    digits? (ds ++ rest) = some (ds, rest) := by
  have hTake : rest.takeWhile Char.isDigit = [] := by
    cases rest with
    | nil => rfl
    | cons c rest => simp [hRest c rfl]
  have hDrop : rest.dropWhile Char.isDigit = rest := by
    cases rest with
    | nil => rfl
    | cons c rest => simp [hRest c rfl]
  unfold digits?
  rw [List.takeWhile_append_of_pos hDigits.digit,
    List.dropWhile_append_of_pos hDigits.digit, hTake, hDrop,
    List.append_nil]
  cases ds with
  | nil => exact absurd rfl hDigits.nonempty
  | cons d ds => rfl

theorem whole?_append
    {ds rest : List Char}
    (hWhole : Whole ds)
    (hRest : Stops rest) :
    whole? (ds ++ rest) = some (ds, rest) := by
  unfold whole?
  rw [digits?_append hWhole.toDigits hRest]
  split
  next c behind hShape =>
    obtain ⟨rfl, -⟩ := Prod.mk.inj (Option.some.inj hShape)
    simpa using hWhole.unpadded rfl
  next => rfl

/- The digits of an exponent name this exponent. -/
theorem power?_exponentText (e : Int) :
    power? (exponentText e) = some e := by
  have hDigits : Digits (Nat.toDigits 10 e.natAbs) :=
    ⟨Nat.toDigits_ne_nil, fun c hc =>
      Nat.isDigit_of_mem_toDigits (by omega) (by omega) hc⟩
  have hRead :
      digits? (Nat.toDigits 10 e.natAbs) =
        some (Nat.toDigits 10 e.natAbs, []) := by
    have hStops : Stops [] := by
      simp [Stops]
    simpa using digits?_append hDigits hStops
  unfold exponentText
  by_cases hNegative : e < 0
  · have hValue : -(e.natAbs : Int) = e := by omega
    simp only [hNegative, if_true, power?, hRead,
      Option.bind_eq_bind, Option.bind_some, List.isEmpty_nil,
      Nat.ofDigitChars_ten_toDigits, hValue]
  · have hValue : (e.natAbs : Int) = e := by omega
    simp only [hNegative, if_false, power?, hRead,
      Option.bind_eq_bind, Option.bind_some, List.isEmpty_nil,
      if_true, Nat.ofDigitChars_ten_toDigits, hValue]

------------------------------------------------------------
-- Numerals by their parts
------------------------------------------------------------

/-
  A numeral by its parts: digits, digits behind a point
  unless there are none, and an exponent if there is one.
-/
def spelling
    (whole fraction : List Char)
    (exponent : Option Int) : List Char :=
  whole ++
    ((if fraction = [] then [] else '.' :: fraction) ++
      (exponent.elim [] fun e => 'e' :: exponentText e))

/- A numeral is read part by part. -/
theorem unsigned?_spelling
    {whole fraction : List Char}
    (negative : Bool)
    (exponent : Option Int)
    (hWhole : Whole whole)
    (hFraction : ∀ c ∈ fraction, c.isDigit = true) :
    unsigned? negative (spelling whole fraction exponent) =
      some
        { negative := negative
          whole := whole
          fraction := fraction
          exponent := exponent.getD 0
          integral := fraction.isEmpty && exponent.isNone } := by
  let tail : List Char :=
    exponent.elim [] fun e => 'e' :: exponentText e
  have hTail : Stops tail := by
    intro c hc
    cases exponent with
    | none => simp [tail] at hc
    | some e =>
        simp only [tail, Option.elim_some, List.head?_cons,
          Option.some.injEq] at hc
        exact hc ▸ rfl
  have hBehind :
      Stops ((if fraction = [] then [] else '.' :: fraction) ++
        tail) := by
    split
    · simpa using hTail
    · intro c hc
      simp only [List.cons_append, List.head?_cons,
        Option.some.injEq] at hc
      exact hc ▸ rfl
  have hPoint :
      fraction? ((if fraction = [] then [] else '.' :: fraction) ++
        tail) = some (fraction, tail) := by
    split
    next hNil =>
      subst hNil
      rw [List.nil_append]
      cases exponent with
      | none => rfl
      | some e => rfl
    next hNonempty =>
      exact digits?_append ⟨hNonempty, hFraction⟩ hTail
  unfold unsigned? spelling
  rw [whole?_append hWhole hBehind]
  simp only [Option.bind_eq_bind, Option.bind_some, hPoint]
  cases exponent with
  | none => simp [tail]
  | some e => simp [tail, power?_exponentText]

------------------------------------------------------------
-- Spelling a decimal
------------------------------------------------------------

/-
  The characters spell `n * 10 ^ scale` without a sign,
  perhaps with further zeros behind the digits of `n`.
-/
def Spells
    (cs : List Char)
    (n : Nat)
    (scale : Int) : Prop :=
  ∃ whole fraction exponent, ∃ zeros : Nat,
    cs = spelling whole fraction exponent ∧
      Whole whole ∧
      (∀ c ∈ fraction, c.isDigit = true) ∧
      Nat.ofDigitChars 10 (whole ++ fraction) 0 = n * 10 ^ zeros ∧
      exponent.getD 0 - fraction.length = scale - zeros

/- What spells a decimal is read as the double nearest to it. -/
theorem Spells.exists_unsigned?
    {cs : List Char}
    {n : Nat}
    {scale : Int}
    (negative : Bool)
    (hSpells : Spells cs n scale) :
    ∃ numeral,
      unsigned? negative cs = some numeral ∧
        numeral.toBinary64? =
          Decimal.toBinary64? ⟨negative, n, scale⟩ := by
  rcases hSpells with
    ⟨whole, fraction, exponent, zeros, rfl, hWhole, hFraction,
      hDigits, hScale⟩
  refine
    ⟨_, unsigned?_spelling negative exponent hWhole hFraction, ?_⟩
  rw [toBinary64?, toDecimal]
  simp only [hDigits, hScale]
  exact Decimal.toBinary64?_mul_ten_pow negative n zeros scale

/- What spells a decimal begins with a digit, so not with a sign. -/
theorem Spells.ofChars?_eq
    {cs : List Char}
    {n : Nat}
    {scale : Int}
    (hSpells : Spells cs n scale) :
    ofChars? cs = unsigned? false cs := by
  rcases hSpells with
    ⟨whole, fraction, exponent, _, rfl, hWhole, _⟩
  obtain ⟨c, rest, rfl⟩ :=
    List.exists_cons_of_ne_nil hWhole.nonempty
  have hDigit : c.isDigit = true := hWhole.digit c (by simp)
  unfold ofChars?
  split
  next hSign =>
    simp only [spelling, List.cons_append, List.cons.injEq] at hSign
    rw [hSign.1] at hDigit
    exact absurd hDigit (by decide)
  next => rfl

end Numeral

------------------------------------------------------------
-- The text of a double
------------------------------------------------------------

/- The digits of a number above zero do not begin with a zero. -/
theorem head?_toDigits
    {n : Nat}
    (hn : 0 < n) :
    (Nat.toDigits 10 n).head? ≠ some '0' := by
  induction n using Nat.strong_induction_on with
  | _ n ih =>
      by_cases hSmall : n < 10
      · rw [Nat.toDigits_of_lt_base hSmall]
        simp only [List.head?_cons, ne_eq, Option.some.injEq,
          Nat.digitChar_eq_zero]
        omega
      · rw [Nat.toDigits_of_base_le (by omega) (by omega),
          List.head?_append_of_ne_nil _ Nat.toDigits_ne_nil]
        exact ih (n / 10) (by omega) (by omega)

theorem digits_toDigits (n : Nat) :
    Numeral.Digits (Nat.toDigits 10 n) :=
  ⟨Nat.toDigits_ne_nil, fun _ hc =>
    Nat.isDigit_of_mem_toDigits (by omega) (by omega) hc⟩

theorem whole_toDigits (n : Nat) :
    Numeral.Whole (Nat.toDigits 10 n) where
  toDigits := digits_toDigits n
  unpadded := by
    intro hHead
    rcases Nat.eq_zero_or_pos n with rfl | hn
    · rfl
    · exact absurd hHead (head?_toDigits hn)

/- The digits of a decimal spell it, wherever the point is laid. -/
theorem spells_layout
    {n : Nat}
    (scale : Int)
    (hn : 0 < n) :
    Numeral.Spells (layout (Nat.toDigits 10 n) scale) n scale := by
  have hWhole := whole_toDigits n
  have hHead := head?_toDigits hn
  have hValue : Nat.ofDigitChars 10 (Nat.toDigits 10 n) 0 = n :=
    Nat.ofDigitChars_ten_toDigits
  generalize Nat.toDigits 10 n = ds at hWhole hHead hValue
  have hZeros (count : Nat) :
      ∀ c ∈ List.replicate count '0', c.isDigit = true := by
    intro c hc
    rw [List.eq_of_mem_replicate hc]
    rfl
  unfold layout
  simp only
  split
  next hRight =>
    refine ⟨ds ++ List.replicate scale.toNat '0', ['0'], none,
      scale.toNat + 1, ?_, ?_, ?_, ?_, ?_⟩
    · simp [Numeral.spelling]
    · exact Numeral.Whole.of_head?_ne
        ⟨by simp [hWhole.nonempty],
          List.forall_mem_append.mpr ⟨hWhole.digit, hZeros _⟩⟩
        (by rwa [List.head?_append_of_ne_nil _ hWhole.nonempty])
    · simp
    · rw [Nat.ofDigitChars_append, Nat.ofDigitChars_append, hValue,
        Nat.ofDigitChars_replicate_zero, Nat.ofDigitChars_cons,
        Nat.ofDigitChars_nil, Nat.pow_succ]
      simp only [Char.reduceToNat, Nat.sub_self, Nat.add_zero]
      ring
    · simp only [Option.getD_none, List.length_singleton]
      omega
  next hRight =>
    split
    next hInside =>
      have hBehind : (ds.length + scale).toNat < ds.length := by
        unfold widestWhole at *
        omega
      refine ⟨ds.take (ds.length + scale).toNat,
        ds.drop (ds.length + scale).toNat, none, 0, ?_, ?_, ?_, ?_,
        ?_⟩
      · simp [Numeral.spelling, hBehind]
      · apply Numeral.Whole.of_head?_ne
        · refine ⟨?_, fun c hc =>
            hWhole.digit c (List.mem_of_mem_take hc)⟩
          simp only [ne_eq, List.take_eq_nil_iff, not_or]
          exact ⟨by omega, hWhole.nonempty⟩
        · rwa [List.head?_take, if_neg (by omega)]
      · exact fun c hc => hWhole.digit c (List.mem_of_mem_drop hc)
      · rw [List.take_append_drop, hValue, Nat.pow_zero, Nat.mul_one]
      · simp only [Option.getD_none, List.length_drop]
        omega
    next hInside =>
      split
      next hLeft =>
        refine ⟨['0'],
          List.replicate (-(ds.length + scale)).toNat '0' ++ ds,
          none, 0, ?_, ?_, ?_, ?_, ?_⟩
        · simp [Numeral.spelling, hWhole.nonempty]
        · exact
            { nonempty := by simp
              digit := by simp
              unpadded := by simp }
        · exact
            List.forall_mem_append.mpr ⟨hZeros _, hWhole.digit⟩
        · rw [Nat.ofDigitChars_append, Nat.ofDigitChars_append,
            Nat.ofDigitChars_cons, Nat.ofDigitChars_nil,
            Nat.ofDigitChars_replicate_zero]
          simpa using hValue
        · simp only [Option.getD_none, List.length_append,
            List.length_replicate]
          omega
      next =>
        obtain ⟨d, rest, rfl⟩ :=
          List.exists_cons_of_ne_nil hWhole.nonempty
        refine ⟨[d], rest, some ((d :: rest).length + scale - 1), 0,
          ?_, ?_, ?_, ?_, ?_⟩
        · cases rest with
          | nil => simp [Numeral.spelling]
          | cons e rest => simp [Numeral.spelling]
        · exact Numeral.Whole.of_head?_ne
            ⟨by simp, fun c hc => hWhole.digit c (by simp_all)⟩
            (by simpa using hHead)
        · exact fun c hc => hWhole.digit c (by simp [hc])
        · simpa using hValue
        · simp only [Option.getD_some, List.length_cons]
          omega

/-
  The text of a finite double is a sign, if it has one, and a
  spelling of a decimal that is read as this double.
-/
theorem exists_spells_realText
    {x : Binary64}
    (hFinite : x.isFinite = true) :
    ∃ cs, ∃ d : Decimal,
      realText x = (if x.negative then '-' :: cs else cs) ∧
        Numeral.Spells cs d.digits d.scale ∧
        d.negative = x.negative ∧
        d.toBinary64? = some x := by
  by_cases hZero : x.isZero = true
  · refine
      ⟨['0', '.', '0'], ⟨x.negative, 0, 0⟩, ?_, ?_, rfl, ?_⟩
    · simp [realText, hZero]
    · exact ⟨['0'], ['0'], none, 1, rfl, whole_toDigits 0,
        by simp, rfl, by simp⟩
    · have hMagnitude : x.magnitude = 0 := by
        simpa [Binary64.isZero] using hZero
      have hParts := x.ofMagnitude_magnitude
      rw [hMagnitude] at hParts
      simp [Decimal.toBinary64?, hParts]
  · have hNonzero : x.isZero = false := by simpa using hZero
    refine ⟨layout (Nat.toDigits 10 x.shortest.digits)
        x.shortest.scale, x.shortest, ?_, ?_,
      Binary64.negative_shortest hFinite hNonzero,
      Binary64.toBinary64?_shortest hFinite hNonzero⟩
    · simp only [realText, hZero, if_false, Bool.false_eq_true]
    · exact spells_layout _
        (Binary64.digits_shortest_pos hFinite hNonzero)

/- The text of a finite double reads back as this double. -/
theorem toBinary64?_realText
    {x : Binary64}
    (hFinite : x.isFinite = true) :
    (Numeral.ofChars? (realText x)).bind Numeral.toBinary64? =
      some x := by
  rcases exists_spells_realText hFinite with
    ⟨cs, d, hText, hSpells, hNegative, hRead⟩
  obtain ⟨numeral, hUnsigned, hNumeral⟩ :=
    hSpells.exists_unsigned? x.negative
  have hChars : Numeral.ofChars? (realText x) = some numeral := by
    rw [hText]
    cases hSign : x.negative with
    | true =>
        rw [hSign] at hUnsigned
        exact hUnsigned
    | false =>
        rw [hSign] at hUnsigned
        rw [if_neg (by simp), hSpells.ofChars?_eq]
        exact hUnsigned
  rw [hChars, Option.bind_some, hNumeral, ← hNegative]
  exact hRead

------------------------------------------------------------
-- Natural numbers
------------------------------------------------------------

/- A natural number spells itself. -/
theorem spells_toDigits (n : Nat) :
    Numeral.Spells (Nat.toDigits 10 n) n 0 := by
  refine ⟨Nat.toDigits 10 n, [], none, 0, ?_, whole_toDigits n,
    by simp, ?_, by simp⟩
  · simp [Numeral.spelling]
  · simp [Nat.ofDigitChars_ten_toDigits]

/- The digits of a natural number are an integral numeral. -/
theorem ofChars?_toDigits (n : Nat) :
    Numeral.ofChars? (Nat.toDigits 10 n) =
      some ⟨false, Nat.toDigits 10 n, [], 0, true⟩ := by
  have hSpelling :
      Nat.toDigits 10 n =
        Numeral.spelling (Nat.toDigits 10 n) [] none := by
    simp [Numeral.spelling]
  rw [(spells_toDigits n).ofChars?_eq]
  conv => lhs; rw [hSpelling]
  exact Numeral.unsigned?_spelling false none (whole_toDigits n)
    (by simp)

/- A natural number below `2 ^ 53` is written as a double can be. -/
theorem exists_toBinary64?_toDigits
    {n : Nat}
    (hn : n < 2 ^ 53) :
    ∃ x, (Numeral.ofChars? (Nat.toDigits 10 n)).bind
      Numeral.toBinary64? = some x := by
  rcases Decimal.exists_toBinary64?_of_lt hn with ⟨x, hx⟩
  obtain ⟨numeral, hUnsigned, hNumeral⟩ :=
    (spells_toDigits n).exists_unsigned? false
  refine ⟨x, ?_⟩
  rw [(spells_toDigits n).ofChars?_eq, hUnsigned, Option.bind_some,
    hNumeral, hx]

end Json

end CaptureLink
