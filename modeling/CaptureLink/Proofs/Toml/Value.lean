import CaptureLink.Proofs.Json.Numeral
import CaptureLink.Proofs.Text.Digit
import CaptureLink.Proofs.Toml.Layout
import Mathlib.Data.List.TakeWhile

/-
  Values of settings in TOML, read back.  Numbers and truth
  values are words, which end where no word goes on.  Arrays
  of strings are read item by item, whether they stand on one
  line or on several.

  Main statements:
    * `Toml.scalarAt?_word`
    * `Toml.word?_toDigits`
    * `Toml.valueAt?_integerText`
    * `Toml.valueAt?_boolText`
    * `Toml.valueAt?_stringText`
    * `Toml.valueAt?_arrayText`
-/

namespace CaptureLink

namespace Toml

open Json.Numeral (Digits Whole)

------------------------------------------------------------
-- Words
------------------------------------------------------------

/- No word goes on here. -/
def EndsWord (rest : List Char) : Prop :=
  ∀ c, rest.head? = some c → inWord c = false

/- A word is taken where it ends, and read for itself. -/
theorem scalarAt?_word
    {word rest : List Char}
    {v : Value}
    (hWord : ∀ c ∈ word, inWord c = true)
    (hRest : EndsWord rest)
    (hDate : dateAt? word = none)
    (hValue : word? word = some v) :
    scalarAt? (word ++ rest) = some (v, rest) := by
  have hTake : rest.takeWhile inWord = [] := by
    cases rest with
    | nil => rfl
    | cons c rest => simp [hRest c rfl]
  have hDrop : rest.dropWhile inWord = rest := by
    cases rest with
    | nil => rfl
    | cons c rest => simp [hRest c rfl]
  unfold scalarAt?
  simp only [List.takeWhile_append_of_pos hWord,
    List.dropWhile_append_of_pos hWord, hTake, hDrop,
    List.append_nil, hValue, hDate, reduceCtorEq, if_false]

------------------------------------------------------------
-- Numbers
------------------------------------------------------------

section Numbers

variable {cs : List Char}

/- Another character is not among digits. -/
theorem notMem_of_digits
    (c : Char)
    (hDigits : Digits cs)
    (hOther : c.isDigit = false) : c ∉ cs := by
  intro hMem
  rw [hDigits.digit c hMem] at hOther
  cases hOther

/- Digits stand in words. -/
theorem inWord_of_digits
    (hDigits : Digits cs) :
    ∀ c ∈ cs, inWord c = true := by
  intro c hMem
  by_contra hNot
  simp only [inWord, Bool.not_eq_true', Bool.not_eq_false,
    Bool.or_eq_true, decide_eq_true_eq] at hNot
  have hDigit := hDigits.digit c hMem
  rcases hNot with
    (((((rfl | rfl) | rfl) | rfl) | rfl) | rfl) | rfl
  all_goals exact absurd hDigit (by decide)

/- They are no date, which has hyphens. -/
theorem dateAt?_of_digits
    (hDigits : Digits cs) : dateAt? cs = none := by
  have hHyphen := notMem_of_digits '-' hDigits rfl
  unfold dateAt?
  split
  · simp at hHyphen
  · rfl

/- They are no time, which has colons. -/
theorem timeAt?_of_digits
    (hDigits : Digits cs) : timeAt? cs = none := by
  have hColon := notMem_of_digits ':' hDigits rfl
  unfold timeAt?
  split
  · simp at hColon
  · rfl

/- They have no sign. -/
theorem signed_of_digits
    (hDigits : Digits cs) : signed cs = (false, cs) := by
  have hMinus := notMem_of_digits '-' hDigits rfl
  have hPlus := notMem_of_digits '+' hDigits rfl
  unfold signed
  split
  · simp at hMinus
  · simp at hPlus
  · rfl

/- They are no float, which has a point or an exponent. -/
theorem isFloat_of_digits
    (hDigits : Digits cs) : isFloat cs = false := by
  have hLetter := notMem_of_digits 'n' hDigits rfl
  have hRun : runAt cs = (cs, []) := by
    have hAll : ∀ c ∈ cs, (c.isDigit || c = '_') = true := by
      intro c hMem
      rw [hDigits.digit c hMem, Bool.true_or]
    rw [runAt, List.span_eq_takeWhile_dropWhile,
      List.takeWhile_eq_self_iff.mpr hAll,
      List.dropWhile_eq_nil_iff.mpr hAll]
  have hNone : fractional? cs = none := by
    simp only [fractional?, signed_of_digits hDigits, hRun,
      exponent?, Option.map_none, ite_self]
  unfold isFloat
  rw [signed_of_digits hDigits, hNone]
  dsimp only
  split
  · simp at hLetter
  · simp at hLetter
  · rfl

/- A run of digits needs no underscores. -/
theorem isRun_of_digits
    (hDigits : Digits cs) : isRun Char.isDigit cs = true := by
  have hAll :
      ∀ c cs,
        (∀ d ∈ c :: cs, d.isDigit = true) →
          isRun Char.isDigit (c :: cs) = true := by
    intro c cs hDigits
    induction cs generalizing c with
    | nil => exact hDigits c List.mem_cons_self
    | cons d cs ih =>
        rw [List.forall_mem_cons] at hDigits
        have hMore := ih d hDigits.2
        rw [isRun, hDigits.1, hMore]
        · rfl
        · exact fun hNil => absurd hNil (List.cons_ne_nil d cs)
        · rintro rest hShape
          cases hShape
          exact absurd (hDigits.2 '_' List.mem_cons_self)
            (by decide)
  cases cs with
  | nil => exact absurd rfl hDigits.nonempty
  | cons c cs => exact hAll c cs hDigits.digit

/- Without a superfluous zero they are a whole number. -/
theorem isWhole_of_whole
    (hWhole : Whole cs) : isWhole cs = true := by
  have hZero : cs = ['0'] ∨ cs.head? ≠ some '0' := by
    by_cases hHead : cs.head? = some '0'
    · left
      have hOne := hWhole.unpadded hHead
      rw [List.length_eq_one_iff] at hOne
      rcases hOne with ⟨c, rfl⟩
      cases hHead
      rfl
    · exact .inr hHead
  rw [isWhole, isRun_of_digits hWhole.toDigits, Bool.true_and,
    Bool.or_eq_true, decide_eq_true_eq, decide_eq_true_eq]
  exact hZero

end Numbers

/- The digits of a number have its value. -/
theorem runValue_toDigits (n : Nat) :
    runValue 10 (Nat.toDigits 10 n) = n := by
  have hPlaces :
      (Nat.toDigits 10 n).filterMap Text.hexDigit? =
        (Nat.toDigits 10 n).map Text.place := by
    rw [← List.filterMap_eq_map]
    apply List.filterMap_congr
    intro c hMem
    exact Text.hexDigit?_of_isDigit (Text.isDigit_of_mem hMem)
  rw [runValue, hPlaces, Text.spelled_toDigits]

/- So they are read as this number, if it is not too great. -/
theorem word?_toDigits
    {n : Nat}
    (hGreat : n ≤ maxInteger) :
    word? (Nat.toDigits 10 n) = some (.integer n) := by
  have hWhole := Json.whole_toDigits n
  have hDigits := hWhole.toDigits
  have hInteger : integer? (Nat.toDigits 10 n) = some (n : Int) := by
    have hDecimal :
        decimal? (Nat.toDigits 10 n) = some (n : Int) := by
      simp only [decimal?, signed_of_digits hDigits,
        isWhole_of_whole hWhole, runValue_toDigits, bounded?,
        hGreat, if_true, Bool.false_eq_true, if_false]
    unfold integer?
    split
    next hShape =>
      have hLetter := notMem_of_digits 'x' hDigits rfl
      simp [hShape] at hLetter
    next hShape =>
      have hLetter := notMem_of_digits 'o' hDigits rfl
      simp [hShape] at hLetter
    next hShape =>
      have hLetter := notMem_of_digits 'b' hDigits rfl
      simp [hShape] at hLetter
    next => exact hDecimal
  have hMoment : isMoment (Nat.toDigits 10 n) = false := by
    rw [isMoment, dateAt?_of_digits hDigits]
    simp only [timeAt?_of_digits hDigits, reduceCtorEq,
      decide_false]
  have hLetter := notMem_of_digits 'e' hDigits rfl
  have hTrue : Nat.toDigits 10 n ≠ ['t', 'r', 'u', 'e'] := by
    intro hShape
    simp [hShape] at hLetter
  have hFalse : Nat.toDigits 10 n ≠ ['f', 'a', 'l', 's', 'e'] := by
    intro hShape
    simp [hShape] at hLetter
  rw [word?, if_neg hTrue, if_neg hFalse, hMoment,
    isFloat_of_digits hDigits, hInteger]
  rfl

------------------------------------------------------------
-- Values of one word
------------------------------------------------------------

section Values

variable {depth : Nat}
variable {rest : List Char}

/- A text that begins with neither mark is no string on a line. -/
theorem lineStringAt?_eq_none
    {c : Char}
    (cs : List Char)
    (hQuote : c ≠ '"')
    (hMark : c ≠ apostrophe) :
    lineStringAt? (c :: cs) = none := by
  unfold lineStringAt?
  split
  next hShape => exact absurd (List.cons.inj hShape).1 hQuote
  next hShape => exact absurd (List.cons.inj hShape).1 hMark
  next => rfl

/- It is no string at all. -/
theorem stringAt?_eq_none
    {c : Char}
    (cs : List Char)
    (hQuote : c ≠ '"')
    (hMark : c ≠ apostrophe) :
    stringAt? (c :: cs) = none := by
  unfold stringAt?
  split
  next hShape => exact absurd (List.cons.inj hShape).1 hQuote
  next hShape => exact absurd (List.cons.inj hShape).1 hMark
  next => exact lineStringAt?_eq_none cs hQuote hMark

/- A text that begins like no container is a string or a word. -/
theorem valueAt?_of_leaf
    {c : Char}
    (cs : List Char)
    (hArray : c ≠ '[')
    (hTable : c ≠ '\x7b') :
    valueAt? depth (c :: cs) =
      match stringAt? (c :: cs) with
      | some (s, rest) => some (.string (String.ofList s), rest)
      | none => scalarAt? (c :: cs) := by
  cases depth with
  | zero => rfl
  | succ depth =>
      unfold valueAt?
      split
      next hShape => cases hShape
      next hShape => exact absurd (List.cons.inj hShape).1 hArray
      next hShape => exact absurd (List.cons.inj hShape).1 hTable
      next => rfl

/- A letter or digit begins neither a container nor a string. -/
theorem valueAt?_of_word
    {word : List Char}
    {v : Value}
    (hFirst : ∀ c ∈ word.head?, c.isAlphanum = true)
    (hScalar : scalarAt? (word ++ rest) = some (v, rest))
    (hSome : word ≠ []) :
    valueAt? depth (word ++ rest) = some (v, rest) := by
  cases word with
  | nil => exact absurd rfl hSome
  | cons c word =>
      have hLetter : c.isAlphanum = true := hFirst c rfl
      have hOther {d : Char} (hNone : d.isAlphanum = false) :
          c ≠ d := by
        rintro rfl
        rw [hLetter] at hNone
        cases hNone
      rw [List.cons_append] at hScalar ⊢
      rw [valueAt?_of_leaf _ (hOther rfl) (hOther rfl),
        stringAt?_eq_none _ (hOther rfl) (hOther rfl)]
      exact hScalar

/- A number is read back. -/
theorem valueAt?_integerText
    {n : Nat}
    {text : List Char}
    (hText : integerText? n = some text)
    (hRest : EndsWord rest) :
    valueAt? depth (text ++ rest) = some (.integer n, rest) := by
  unfold integerText? at hText
  split at hText
  next hGreat =>
    cases hText
    have hDigits := Json.digits_toDigits n
    apply valueAt?_of_word _ _ hDigits.nonempty
    · intro c hHead
      have hDigit := hDigits.digit c (List.mem_of_mem_head? hHead)
      rw [Char.isAlphanum, hDigit, Bool.or_true]
    · exact scalarAt?_word (inWord_of_digits hDigits) hRest
        (dateAt?_of_digits hDigits) (word?_toDigits hGreat)
  next => cases hText

/- So is a truth value. -/
theorem valueAt?_boolText
    (b : Bool)
    (hRest : EndsWord rest) :
    valueAt? depth (boolText b ++ rest) = some (.bool b, rest) := by
  have hScalar :
      scalarAt? (boolText b ++ rest) = some (.bool b, rest) := by
    cases b with
    | true =>
        exact scalarAt?_word (List.all_eq_true.mp rfl) hRest rfl rfl
    | false =>
        exact scalarAt?_word (List.all_eq_true.mp rfl) hRest rfl rfl
  apply valueAt?_of_word _ hScalar
  · cases b with
    | true => exact List.cons_ne_nil _ _
    | false => exact List.cons_ne_nil _ _
  · cases b with
    | true =>
        rintro c ⟨⟩
        rfl
    | false =>
        rintro c ⟨⟩
        rfl

/- And a string, where no mark follows it. -/
theorem valueAt?_stringText
    (s : String)
    (hQuote : Avoids '"' rest)
    (hMark : Avoids apostrophe rest) :
    valueAt? depth (stringText s ++ rest) =
      some (.string s, rest) := by
  have hString := stringAt?_stringText s hQuote hMark
  rcases exists_stringText_eq s with ⟨mark, cs, hText, hKind⟩
  have hArray : mark ≠ '[' := by
    rcases hKind with rfl | rfl <;> decide
  have hTable : mark ≠ '\x7b' := by
    rcases hKind with rfl | rfl <;> decide
  rw [hText, List.cons_append] at hString ⊢
  rw [valueAt?_of_leaf _ hArray hTable, hString]
  simp only [String.ofList_toList]

end Values

------------------------------------------------------------
-- Arrays of strings
------------------------------------------------------------

/- Blanks in front of an item are passed over. -/
theorem afterBreaks?_blank
    {c : Char}
    (rest : List Char)
    (hBlank : (isSpace c || c = '\n') = true) :
    afterBreaks? (c :: rest) = afterBreaks? rest := by
  rw [afterBreaks?, if_pos hBlank]

/- Other signs than that of a comment end them. -/
theorem afterBreaks?_sign
    {c : Char}
    (rest : List Char)
    (hBlank : (isSpace c || c = '\n') = false)
    (hComment : c ≠ '#') :
    afterBreaks? (c :: rest) = some (c :: rest) := by
  rw [afterBreaks?, if_neg (by rw [hBlank]; decide),
    if_neg hComment]

/- A string is such a sign. -/
theorem afterBreaks?_stringText
    (s : String)
    (rest : List Char) :
    afterBreaks? (stringText s ++ rest) =
      some (stringText s ++ rest) := by
  rcases exists_stringText_eq s with ⟨mark, cs, hText, hKind⟩
  rw [hText, List.cons_append]
  rcases hKind with rfl | rfl
  · exact afterBreaks?_sign _ (by decide) (by decide)
  · exact afterBreaks?_sign _ (by decide) (by decide)

/- A string on a line of its own, behind the break in front. -/
def itemLine (s : String) : List Char :=
  ' ' :: ' ' :: ' ' :: ' ' :: (stringText s ++ [',', '\n'])

/- Two items or more stand on such lines. -/
theorem arrayText_of_two
    (s s' : String)
    (items : List String) :
    arrayText (s :: s' :: items) =
      '[' :: '\n' ::
        ((s :: s' :: items).flatMap itemLine ++ [']']) := rfl

section Arrays

variable {depth count : Nat}
variable {cs behind rest : List Char}

/- An item is read, whatever stands behind the sign that ends it. -/
theorem valueAt?_item
    {c : Char}
    (s : String)
    (hSign : c = ',' ∨ c = ']') :
    valueAt? depth (stringText s ++ c :: rest) =
      some (.string s, c :: rest) := by
  apply valueAt?_stringText
  · rcases hSign with rfl | rfl <;> simp
  · rcases hSign with rfl | rfl <;> simp [apostrophe]

/- An item comes before those behind its comma, if it has one. -/
theorem itemsAt?_item
    {c : Char}
    {s : String}
    (hSign : c = ',' ∨ c = ']')
    (hFront : afterBreaks? cs = some (stringText s ++ c :: behind)) :
    itemsAt? (valueAt? depth) (count + 1) cs =
      if c = ',' then
        (itemsAt? (valueAt? depth) count behind).map fun found =>
          (.string s :: found.1, found.2)
      else
        some ([.string s], behind) := by
  have hItem :
      valueAt? depth (stringText s ++ c :: behind) =
        some (.string s, c :: behind) :=
    valueAt?_item s hSign
  have hBehind :
      afterBreaks? (c :: behind) = some (c :: behind) := by
    rcases hSign with rfl | rfl
    · exact afterBreaks?_sign _ (by decide) (by decide)
    · exact afterBreaks?_sign _ (by decide) (by decide)
  rcases exists_stringText_eq s with ⟨mark, text, hText, hKind⟩
  rw [hText, List.cons_append] at hFront hItem
  rw [itemsAt?]
  simp only [hFront, Option.bind_eq_bind, Option.bind_some]
  split
  next hShape =>
    rcases hKind with rfl | rfl
    · cases hShape
    · cases hShape
  next =>
    simp only [hItem, hBehind, Option.bind_some]
    rcases hSign with rfl | rfl
    · rw [if_pos rfl, Option.map_eq_bind]
      rfl
    · rfl

/- The bracket behind all items ends them. -/
theorem itemsAt?_nil
    (hFront : afterBreaks? cs = some (']' :: rest)) :
    itemsAt? (valueAt? depth) (count + 1) cs = some ([], rest) := by
  unfold itemsAt?
  simp only [hFront, Option.bind_eq_bind, Option.bind_some]

/- Items on lines of their own are read one by one. -/
theorem itemsAt?_lines
    (items : List String)
    (hCount : items.length < count) :
    itemsAt? (valueAt? depth) count
        ('\n' :: (items.flatMap itemLine ++ ']' :: rest)) =
      some (items.map .string, rest) := by
  induction items generalizing count with
  | nil =>
      obtain ⟨count, rfl⟩ : ∃ more, count = more + 1 :=
        ⟨count - 1, by rw [List.length_nil] at hCount; omega⟩
      apply itemsAt?_nil
      rw [afterBreaks?_blank _ (by decide)]
      exact afterBreaks?_sign _ (by decide) (by decide)
  | cons s items ih =>
      obtain ⟨count, rfl⟩ : ∃ more, count = more + 1 :=
        ⟨count - 1, by omega⟩
      have hFront :
          afterBreaks?
              ('\n' :: ((s :: items).flatMap itemLine ++
                ']' :: rest)) =
            some (stringText s ++ ',' ::
              ('\n' :: (items.flatMap itemLine ++
                ']' :: rest))) := by
        simp only [List.flatMap_cons, itemLine, List.cons_append,
          List.append_assoc, List.nil_append]
        repeat rw [afterBreaks?_blank _ (by decide)]
        exact afterBreaks?_stringText s _
      rw [List.length_cons] at hCount
      rw [itemsAt?_item (.inl rfl) hFront, if_pos rfl,
        ih (by omega)]
      rfl

/- There are no more items than signs on their lines. -/
theorem length_le_flatMap_itemLine (items : List String) :
    items.length ≤ (items.flatMap itemLine).length := by
  induction items with
  | nil => exact Nat.le_refl _
  | cons s items ih =>
      rw [List.flatMap_cons, List.length_cons, List.length_append]
      have hLine : 0 < (itemLine s).length := Nat.succ_pos _
      omega

/- The text of an array stands between brackets. -/
theorem exists_arrayText_eq (items : List String) :
    ∃ cs, arrayText items = '[' :: (cs ++ [']']) := by
  match items with
  | [] => exact ⟨[], rfl⟩
  | [s] => exact ⟨stringText s, rfl⟩
  | s :: s' :: items =>
      exact ⟨'\n' :: (s :: s' :: items).flatMap itemLine, rfl⟩

/- It is written without carriage returns. -/
theorem return_notMem_arrayText (items : List String) :
    '\r' ∉ arrayText items := by
  have hItem (s : String) : '\r' ∉ itemLine s := by
    simp [itemLine, return_notMem_stringText s]
  match items with
  | [] => decide
  | [s] => simp [arrayText, return_notMem_stringText s]
  | s :: s' :: items =>
      rw [arrayText_of_two]
      simp [-List.flatMap_cons, hItem]

/- An array of strings is read back. -/
theorem valueAt?_arrayText
    (items : List String) :
    valueAt? (depth + 1) (arrayText items ++ rest) =
      some (.array (items.map .string), rest) := by
  have hArray {cs : List Char}
      (hItems :
        itemsAt? (valueAt? depth) (cs.length + 1) cs =
          some (items.map .string, rest)) :
      valueAt? (depth + 1) ('[' :: cs) =
        some (.array (items.map .string), rest) := by
    rw [valueAt?, hItems]
    rfl
  match items with
  | [] =>
      apply hArray
      apply itemsAt?_nil
      exact afterBreaks?_sign _ (by decide) (by decide)
  | [s] =>
      have hLine :
          arrayText [s] ++ rest =
            '[' :: (stringText s ++ ']' :: rest) := by
        simp only [arrayText, List.cons_append, List.append_assoc,
          List.nil_append]
      rw [hLine]
      apply hArray
      have hFront := afterBreaks?_stringText s (']' :: rest)
      rw [itemsAt?_item (.inr rfl) hFront]
      rfl
  | s :: s' :: items =>
      have hLines :
          arrayText (s :: s' :: items) ++ rest =
            '[' :: '\n' :: ((s :: s' :: items).flatMap itemLine ++
              ']' :: rest) := by
        rw [arrayText_of_two]
        simp only [List.cons_append, List.append_assoc,
          List.nil_append]
      rw [hLines]
      apply hArray
      apply itemsAt?_lines
      have hLength := length_le_flatMap_itemLine (s :: s' :: items)
      simp only [List.length_cons, List.length_append] at hLength ⊢
      omega

end Arrays

end Toml

end CaptureLink
