import CaptureLink.Json.Layout
import CaptureLink.Proofs.Json.Numeral
import Mathlib.Data.List.TakeWhile

/-
  Tokens read back from their text.  Every character of a
  string comes back from its escape, a numeral comes back
  where nothing continues it, and texts that are scanned one
  after the other are scanned as one.

  Main statements:
    * `Json.StringUnit.scanOnto_escaped`
    * `Json.Token.next?_stringText`
    * `Json.Token.next?_number`
    * `Json.Token.Scans.append`
-/

namespace CaptureLink

namespace Json

------------------------------------------------------------
-- Strings
------------------------------------------------------------

namespace StringUnit

/- A hexadecimal letter names its digit. -/
theorem hexDigit?_hexLetter :
    ∀ n < 16, Text.hexDigit? (hexLetter n) = some n := by
  decide

/- The escape of a control character names its code. -/
theorem code?_hexLetter
    {n : Nat}
    (hn : n < 0x20) :
    code? '0' '0' (hexLetter (n / 16)) (hexLetter (n % 16)) =
      some n := by
  have hZero : Text.hexDigit? '0' = some 0 := rfl
  have hHigh := hexDigit?_hexLetter (n / 16) (by omega)
  have hLow := hexDigit?_hexLetter (n % 16) (by omega)
  simp only [code?, hZero, hHigh, hLow, Option.bind_eq_bind,
    Option.bind_some, Option.some.injEq]
  omega

/- A character is read back from its escape, whatever follows. -/
theorem scanOnto_escaped
    (done : List StringUnit)
    (c : Char)
    (rest : List Char) :
    scanOnto done (escaped c ++ rest) =
      scanOnto (.char c :: done) rest := by
  by_cases hQuote : c = '"'
  · subst hQuote
    rfl
  by_cases hBackslash : c = '\\'
  · subst hBackslash
    rfl
  by_cases hBackspace : c = '\x08'
  · subst hBackspace
    rfl
  by_cases hTab : c = '\t'
  · subst hTab
    rfl
  by_cases hNewline : c = '\n'
  · subst hNewline
    rfl
  by_cases hFormFeed : c = '\x0c'
  · subst hFormFeed
    rfl
  by_cases hReturn : c = '\r'
  · subst hReturn
    rfl
  unfold escaped
  simp only [hQuote, hBackslash, hBackspace, hTab, hNewline,
    hFormFeed, hReturn, if_false]
  by_cases hControl : c.toNat < 0x20
  · have hUnit : ofCode c.toNat = .char c := by
      unfold ofCode
      rw [if_neg (by omega), Char.ofNat_toNat]
    simp only [hControl, if_true, List.cons_append, List.nil_append,
      scanOnto, code?_hexLetter hControl, hUnit]
  · simp only [hControl, if_false, List.cons_append,
      List.nil_append]
    rw [scanOnto]
    · simp [hBackslash, hControl]
    all_goals simp_all

/- A text is read back from its escapes up to the closing quote. -/
theorem scanOnto_flatMap_escaped
    (done : List StringUnit)
    (cs rest : List Char) :
    scanOnto done (cs.flatMap escaped ++ '"' :: rest) =
      some (done.reverse ++ cs.map .char, rest) := by
  induction cs generalizing done with
  | nil => simp [scanOnto]
  | cons c cs ih =>
      rw [List.flatMap_cons, List.append_assoc, scanOnto_escaped, ih]
      simp

/- Characters are joined to the text they spell. -/
theorem joinOnto_map_char
    (done cs : List Char) :
    joinOnto done (cs.map .char) =
      some (String.ofList (done.reverse ++ cs)) := by
  induction cs generalizing done with
  | nil => simp [joinOnto]
  | cons c cs ih =>
      rw [List.map_cons, joinOnto, ih]
      simp

end StringUnit

namespace Token

open StringUnit

/- A string is read back, also one that spells no text. -/
theorem next?_stringText
    (text : Option String)
    (rest : List Char) :
    next? (stringText text ++ rest) = some (.string text, rest) := by
  cases text with
  | none => rfl
  | some s =>
      have hScan :
          StringUnit.scanOnto []
              (s.toList.flatMap escaped ++ '"' :: rest) =
            some (s.toList.map .char, rest) := by
        rw [scanOnto_flatMap_escaped, List.reverse_nil,
          List.nil_append]
      have hText : text? (s.toList.map .char) = some s := by
        rw [text?, joinOnto_map_char, List.reverse_nil,
          List.nil_append, String.ofList_toList]
      simp only [stringText, quoted, List.cons_append,
        List.append_assoc, List.nil_append, next?, hScan,
        Option.map_some, hText]

------------------------------------------------------------
-- Numerals
------------------------------------------------------------

/- Every character may stand in a numeral. -/
def Numeric (cs : List Char) : Prop :=
  ∀ c ∈ cs, inNumeral c = true

theorem Numeric.cons
    {c : Char}
    {cs : List Char}
    (hFirst : inNumeral c = true)
    (hRest : Numeric cs) :
    Numeric (c :: cs) := by
  intro d hd
  rcases List.mem_cons.mp hd with rfl | hBehind
  · exact hFirst
  · exact hRest d hBehind

theorem numeric_of_digits?
    {cs ds rest : List Char}
    (hRead : Numeral.digits? cs = some (ds, rest))
    (hRest : Numeric rest) :
    Numeric cs := by
  have hRestEq : cs.dropWhile Char.isDigit = rest := by
    unfold Numeral.digits? at hRead
    split at hRead
    · cases hRead
    · exact (Prod.mk.inj (Option.some.inj hRead)).2
  intro c hc
  rw [← List.takeWhile_append_dropWhile
      (p := Char.isDigit) (l := cs),
    List.mem_append, hRestEq] at hc
  rcases hc with hDigit | hBehind
  · simp [inNumeral, List.mem_takeWhile_imp hDigit]
  · exact hRest c hBehind

theorem numeric_of_power?
    {cs : List Char}
    {e : Int}
    (hRead : Numeral.power? cs = some e) :
    Numeric cs := by
  have hDigits
      {ds : List Char}
      (sign : Int → Int)
      (hSome :
        (Numeral.digits? ds).bind (fun split =>
          if split.2.isEmpty then
            some (sign (Nat.ofDigitChars 10 split.1 0))
          else none) = some e) :
      Numeric ds := by
    rw [Option.bind_eq_some_iff] at hSome
    rcases hSome with ⟨⟨ds, rest⟩, hSplit, hEmpty⟩
    split at hEmpty
    next hEnd =>
      have hNil : rest = [] := List.isEmpty_iff.mp hEnd
      apply numeric_of_digits? hSplit
      simp [hNil, Numeric]
    next => cases hEmpty
  unfold Numeral.power? at hRead
  split at hRead
  · exact .cons rfl (hDigits (fun n => -n) hRead)
  · exact .cons rfl (hDigits (fun n => n) hRead)
  · exact hDigits (fun n => n) hRead

theorem numeric_of_fraction?
    {cs ds rest : List Char}
    (hRead : Numeral.fraction? cs = some (ds, rest))
    (hRest : Numeric rest) :
    Numeric cs := by
  unfold Numeral.fraction? at hRead
  split at hRead
  · exact .cons rfl (numeric_of_digits? hRead hRest)
  · cases hRead
    exact hRest

theorem numeric_of_whole?
    {cs ds rest : List Char}
    (hRead : Numeral.whole? cs = some (ds, rest))
    (hRest : Numeric rest) :
    Numeric cs := by
  unfold Numeral.whole? at hRead
  split at hRead
  · cases hRead
  · exact numeric_of_digits? hRead hRest

theorem numeric_of_unsigned?
    {negative : Bool}
    {cs : List Char}
    {n : Numeral}
    (hRead : Numeral.unsigned? negative cs = some n) :
    Numeric cs := by
  unfold Numeral.unsigned? at hRead
  simp only [Option.bind_eq_bind, Option.bind_eq_some_iff,
    Prod.exists] at hRead
  rcases hRead with
    ⟨whole, behind, hWhole, fraction, tail, hFraction, hTail⟩
  apply numeric_of_whole? hWhole
  apply numeric_of_fraction? hFraction
  split at hTail
  · simp [Numeric]
  · split at hTail
    next hMark =>
      rw [Option.bind_eq_some_iff] at hTail
      rcases hTail with ⟨e, hPower, -⟩
      apply Numeric.cons _ (numeric_of_power? hPower)
      rcases hMark with rfl | rfl <;> rfl
    next => cases hTail

/- A numeral consists of the characters of numerals. -/
theorem numeric_of_ofChars?
    {cs : List Char}
    (hRead : (Numeral.ofChars? cs).isSome = true) :
    Numeric cs := by
  rcases Option.isSome_iff_exists.mp hRead with ⟨n, hSome⟩
  unfold Numeral.ofChars? at hSome
  split at hSome
  · exact .cons rfl (numeric_of_unsigned? hSome)
  · exact numeric_of_unsigned? hSome

/- The characters cannot continue a numeral. -/
def Stops (rest : List Char) : Prop :=
  ∀ c, rest.head? = some c → inNumeral c = false

/- A character of a numeral is no token of its own. -/
theorem mark?_of_inNumeral
    {c : Char}
    (hNumeral : inNumeral c = true) :
    mark? c = none := by
  unfold mark?
  split
  case h_7 => rfl
  all_goals exact absurd hNumeral (by decide)

/- A numeral is read back where no character continues it. -/
theorem next?_number
    {spelling rest : List Char}
    (hNumeral : (Numeral.ofChars? spelling).isSome = true)
    (hRest : Stops rest) :
    next? (spelling ++ rest) = some (.number spelling, rest) := by
  have hNumeric := numeric_of_ofChars? hNumeral
  cases spelling with
  | nil => cases hNumeral
  | cons c cs =>
      have hFirst : inNumeral c = true := hNumeric c (by simp)
      have hBehind : ∀ d ∈ cs, inNumeral d = true :=
        fun d hd => hNumeric d (by simp [hd])
      have hTake : rest.takeWhile inNumeral = [] := by
        cases rest with
        | nil => rfl
        | cons d rest => simp [hRest d rfl]
      have hDrop : rest.dropWhile inNumeral = rest := by
        cases rest with
        | nil => rfl
        | cons d rest => simp [hRest d rfl]
      rw [List.cons_append, next?]
      · simp only [mark?_of_inNumeral hFirst, hFirst, if_true,
          List.takeWhile_append_of_pos hBehind,
          List.dropWhile_append_of_pos hBehind, hTake, hDrop,
          List.append_nil, hNumeral]
      · rintro rfl
        exact absurd hFirst (by decide)
      all_goals
        rintro _ rfl
        exact absurd hFirst (by decide)

------------------------------------------------------------
-- Texts of several tokens
------------------------------------------------------------

/- A blank begins no token. -/
theorem next?_of_isBlank
    {c : Char}
    (cs : List Char)
    (hBlank : isBlank c = true) :
    next? (c :: cs) = none := by
  simp only [isBlank, Bool.or_eq_true, decide_eq_true_eq] at hBlank
  rcases hBlank with ((rfl | rfl) | rfl) | rfl <;> rfl

/-
  In front of `rest`, the characters are scanned as exactly
  these tokens.
-/
def Scans
    (cs : List Char)
    (ts : List Token)
    (rest : List Char) : Prop :=
  ∀ done,
    scanOnto done (cs ++ rest) = scanOnto (ts.reverse ++ done) rest

namespace Scans

theorem nil (rest : List Char) : Scans [] [] rest :=
  fun _ => rfl

theorem append
    {cs ds rest : List Char}
    {ts us : List Token}
    (hFront : Scans cs ts (ds ++ rest))
    (hBehind : Scans ds us rest) :
    Scans (cs ++ ds) (ts ++ us) rest := by
  intro done
  rw [List.append_assoc, hFront, hBehind, List.reverse_append,
    List.append_assoc]

/- Blanks are passed over. -/
theorem blanks
    {cs : List Char}
    (rest : List Char)
    (hBlank : ∀ c ∈ cs, isBlank c = true) :
    Scans cs [] rest := by
  intro done
  induction cs with
  | nil => rfl
  | cons c cs ih =>
      rw [List.cons_append, scanOnto, if_pos (hBlank c (by simp))]
      exact ih fun d hd => hBlank d (by simp [hd])

/- What is read as one token does not begin with a blank. -/
theorem of_next?
    {cs rest : List Char}
    {t : Token}
    (hNext : next? (cs ++ rest) = some (t, rest)) :
    Scans cs [t] rest := by
  intro done
  obtain ⟨c, behind, hShape⟩ :
      ∃ c behind, cs ++ rest = c :: behind := by
    apply List.exists_cons_of_ne_nil
    intro hNil
    rw [hNil] at hNext
    cases hNext
  rw [hShape] at hNext ⊢
  have hBlank : isBlank c = false := by
    by_contra hBlank
    rw [next?_of_isBlank _ (by simpa using hBlank)] at hNext
    cases hNext
  rw [scanOnto]
  simp only [hBlank, Bool.false_eq_true, if_false]
  split
  next hNone =>
    rw [hNext] at hNone
    cases hNone
  next u rest' hSome =>
    rw [hNext] at hSome
    cases hSome
    rfl

/- A text that is scanned to its end has these tokens. -/
theorem scan?_eq
    {cs : List Char}
    {ts : List Token}
    (hScans : Scans cs ts []) :
    scan? cs = some ts := by
  have hEnd := hScans []
  rw [List.append_nil, List.append_nil] at hEnd
  rw [scan?, hEnd, scanOnto, List.reverse_reverse]

end Scans

end Token

end Json

end CaptureLink
