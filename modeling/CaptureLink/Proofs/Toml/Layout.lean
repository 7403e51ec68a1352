import CaptureLink.Proofs.Toml.Text

/-
  Strings in TOML as they are written.  The plainest way that
  can hold a string is taken, so whatever the string is, it is
  read back, and its text has no carriage return.

  Main statements:
    * `Toml.Style.Holds`
    * `Toml.holds_styleOf`
    * `Toml.stringAt?_stringText`
    * `Toml.return_notMem_stringText`
-/

namespace CaptureLink

namespace Toml

------------------------------------------------------------
-- The way that is taken
------------------------------------------------------------

/- What a text must be like to be written in a given way. -/
def Style.Holds : Style → List Char → Prop
| basic, _ => True
| literal, cs =>
    (∀ c ∈ cs, isPlain c = true) ∧ apostrophe ∉ cs
| basicLines, _ => True
| literalLines, cs =>
    (∀ c ∈ cs, (isPlain c || c = '\n') = true) ∧
      threeInRow apostrophe 0 cs = false

/- A character that is no control is plain, or a line break. -/
theorem isPlain_of_not_isControl
    {c : Char}
    (hControl : isControl c = false) :
    (isPlain c || c = '\n') = true := by
  by_cases hTab : c = '\t'
  · subst hTab
    rfl
  by_cases hBreak : c = '\n'
  · subst hBreak
    rfl
  simp only [isControl, hTab, hBreak, ne_eq, not_false_eq_true,
    decide_true, Bool.and_true, Bool.or_eq_false_iff,
    decide_eq_false_iff_not, Nat.not_lt] at hControl
  simp only [isPlain, hTab, hBreak, decide_false, Bool.false_or,
    Bool.or_false, Bool.and_eq_true, decide_eq_true_eq]
  exact hControl

/- The way that is taken can be taken. -/
theorem holds_styleOf (cs : List Char) : (styleOf cs).Holds cs := by
  have hPlain
      (hNone : cs.any isControl = false) :
      ∀ c ∈ cs, (isPlain c || c = '\n') = true := by
    intro c hMem
    apply isPlain_of_not_isControl
    rw [← Bool.not_eq_true]
    exact List.any_eq_false.mp hNone c hMem
  unfold styleOf
  dsimp only
  split
  · trivial
  split
  next hLiteral =>
    simp only [Bool.and_eq_true, Bool.not_eq_true',
      List.contains_eq_mem, decide_eq_false_iff_not] at hLiteral
    refine ⟨fun c hMem => ?_, hLiteral.2⟩
    have hHere := hPlain hLiteral.1.1 c hMem
    rw [Bool.or_eq_true, decide_eq_true_eq] at hHere
    rcases hHere with hPlain | rfl
    · exact hPlain
    · exact absurd hMem hLiteral.1.2
  split
  · trivial
  split
  next hLiteral =>
    rw [Bool.and_eq_true, Bool.not_eq_true',
      Bool.not_eq_true'] at hLiteral
    exact ⟨hPlain hLiteral.1, hLiteral.2⟩
  split
  · trivial
  · trivial

------------------------------------------------------------
-- Strings of all kinds
------------------------------------------------------------

section Strings

variable {cs rest : List Char}

/- A quote that is not the first of three opens a line. -/
theorem stringAt?_quote
    (hOther : ∀ more, cs ≠ '"' :: '"' :: more) :
    stringAt? ('"' :: cs) = basicAt? cs := by
  unfold stringAt?
  split
  next hShape => exact absurd (List.cons.inj hShape).2 (hOther _)
  next hShape => cases hShape
  next => rfl

/- So does an apostrophe. -/
theorem stringAt?_apostrophe
    (hOther : ∀ more, cs ≠ apostrophe :: apostrophe :: more) :
    stringAt? (apostrophe :: cs) = literalAt? cs := by
  unfold stringAt?
  split
  next hShape => cases hShape
  next hShape => exact absurd (List.cons.inj hShape).2 (hOther _)
  next => rfl

/- The break behind opening marks is dropped, and no other. -/
theorem dropBreak_between
    {breaks : Bool}
    {text : List Char}
    (hFirst : breaks = false → Avoids '\n' text) :
    dropBreak ((if breaks then ['\n'] else []) ++ text) = text := by
  cases breaks with
  | true => rfl
  | false =>
      have hHead := hFirst rfl
      rw [if_neg Bool.false_ne_true, List.nil_append]
      unfold dropBreak
      split
      · exact absurd rfl hHead
      · rfl

/- A text without a character does not begin with it. -/
theorem avoids_append
    {c : Char}
    (hNone : c ∉ cs)
    (hRest : Avoids c rest) : Avoids c (cs ++ rest) := by
  cases cs with
  | nil => exact hRest
  | cons d cs =>
      intro hHead
      cases hHead
      exact hNone List.mem_cons_self

/- Escapes do not begin with a quote. -/
theorem avoids_escaped
    (c : Char)
    (cs : List Char) :
    Avoids '"' (escaped (c :: cs) ++ rest) := by
  rw [escaped, List.flatMap_cons, List.append_assoc]
  by_cases hQuote : c = '"'
  · simp [hQuote]
  · rcases escapedChar_cases hQuote with
      ⟨hSelf, _⟩ | ⟨escape, hSelf, _⟩
    · simp [hQuote, hSelf]
    · simp [hQuote, hSelf]

/- A text with escapes begins with a break only if it does itself. -/
theorem avoids_escapedLines
    (hNone : '\n' ∉ cs)
    (hRest : Avoids '\n' rest) :
    Avoids '\n' (escapedLines 0 cs ++ rest) := by
  cases cs with
  | nil => exact hRest
  | cons c cs =>
      have hBreak : c ≠ '\n' := by
        rintro rfl
        exact hNone List.mem_cons_self
      rw [escapedLines]
      by_cases hQuote : c = '"'
      · rw [if_pos hQuote, if_neg (by decide)]
        simp
      · rw [if_neg hQuote, if_neg hBreak]
        rcases escapedChar_cases hQuote with
          ⟨hSelf, _⟩ | ⟨escape, hSelf, _⟩
        · simpa [hSelf] using hBreak
        · simp [hSelf]

/- A string is read back from any way in which it can be written. -/
theorem stringAt?_styled
    {style : Style}
    (hHolds : style.Holds cs)
    (hQuote : Avoids '"' rest)
    (hMark : Avoids apostrophe rest) :
    stringAt? (styled style cs ++ rest) = some (cs, rest) := by
  have hContains
      (hBreaks : cs.contains '\n' = false) : '\n' ∉ cs := by
    simpa [List.contains_eq_mem] using hBreaks
  cases style with
  | basic =>
      have hOther :
          ∀ more,
            escaped cs ++ '"' :: rest ≠ '"' :: '"' :: more := by
        intro more hShape
        cases cs with
        | nil =>
            rw [escaped, List.flatMap_nil, List.nil_append,
              List.cons.injEq] at hShape
            exact hQuote (by rw [hShape.2, List.head?_cons])
        | cons c cs =>
            apply avoids_escaped c cs
            rw [hShape, List.head?_cons]
      simp only [styled, between, List.append_assoc,
        List.cons_append, List.nil_append, Bool.false_eq_true,
        if_false]
      rw [stringAt?_quote hOther, basicAt?_escaped]
  | literal =>
      have hOther :
          ∀ more,
            cs ++ apostrophe :: rest ≠
              apostrophe :: apostrophe :: more := by
        intro more hShape
        cases cs with
        | nil =>
            rw [List.nil_append, List.cons.injEq] at hShape
            exact hMark (by rw [hShape.2, List.head?_cons])
        | cons c cs =>
            rw [List.cons_append, List.cons.injEq] at hShape
            apply hHolds.2
            rw [hShape.1]
            exact List.mem_cons_self
      simp only [styled, between, List.append_assoc,
        List.cons_append, List.nil_append, Bool.false_eq_true,
        if_false]
      rw [stringAt?_apostrophe hOther,
        literalAt?_append rest hHolds.1 hHolds.2]
  | basicLines =>
      have hOpen (text : List Char) :
          stringAt? ('"' :: '"' :: '"' :: text) =
            basicLinesAt? (dropBreak text) := rfl
      simp only [styled, between, List.append_assoc,
        List.cons_append, List.nil_append]
      rw [hOpen, dropBreak_between,
        basicLinesAt?_escapedLines cs hQuote]
      intro hBreaks
      exact avoids_escapedLines (hContains hBreaks)
        (avoids_cons.mpr (by decide))
  | literalLines =>
      have hOpen (text : List Char) :
          stringAt?
              (apostrophe :: apostrophe :: apostrophe :: text) =
            literalLinesAt? (dropBreak text) := rfl
      simp only [styled, between, List.append_assoc,
        List.cons_append, List.nil_append]
      rw [hOpen, dropBreak_between,
        literalLinesAt?_append hHolds.1 hHolds.2 hMark]
      intro hBreaks
      exact avoids_append (hContains hBreaks)
        (avoids_cons.mpr (by decide))

/- So a string is read back from its text. -/
theorem stringAt?_stringText
    (s : String)
    (hQuote : Avoids '"' rest)
    (hMark : Avoids apostrophe rest) :
    stringAt? (stringText s ++ rest) = some (s.toList, rest) :=
  stringAt?_styled (holds_styleOf s.toList) hQuote hMark

end Strings

------------------------------------------------------------
-- The texts of strings
------------------------------------------------------------

/- The text of a string begins with one of the marks. -/
theorem exists_stringText_eq (s : String) :
    ∃ mark cs,
      stringText s = mark :: cs ∧
        (mark = '"' ∨ mark = apostrophe) := by
  unfold stringText
  cases styleOf s.toList with
  | basic => exact ⟨_, _, rfl, .inl rfl⟩
  | literal => exact ⟨_, _, rfl, .inr rfl⟩
  | basicLines => exact ⟨_, _, rfl, .inl rfl⟩
  | literalLines => exact ⟨_, _, rfl, .inr rfl⟩

/- No letter of an escape is a carriage return. -/
theorem return_ne_hexLetter :
    ∀ n < 16, '\r' ≠ hexLetter n := by
  decide

/- A carriage return is written as an escape. -/
theorem return_notMem_escapedChar (c : Char) :
    '\r' ∉ escapedChar c := by
  unfold escapedChar
  split
  · decide
  split
  · decide
  split
  · decide
  split
  · decide
  split
  · decide
  split
  · decide
  next hReturn _ =>
    split
    next hControl =>
      have hByte := toNat_lt_of_isControl hControl
      have hHigh := return_ne_hexLetter (c.toNat / 16) (by omega)
      have hLow := return_ne_hexLetter (c.toNat % 16) (by omega)
      simp [hHigh, hLow]
    · simpa using Ne.symm hReturn

/- So none is in a text with escapes. -/
theorem return_notMem_escaped (cs : List Char) :
    '\r' ∉ escaped cs := by
  intro hMem
  rw [escaped, List.mem_flatMap] at hMem
  rcases hMem with ⟨c, _, hMem⟩
  by_cases hQuote : c = '"'
  · rw [if_pos hQuote] at hMem
    exact absurd hMem (by decide)
  · rw [if_neg hQuote] at hMem
    exact return_notMem_escapedChar c hMem

theorem return_notMem_escapedLines
    (seen : Nat)
    (cs : List Char) :
    '\r' ∉ escapedLines seen cs := by
  induction cs generalizing seen with
  | nil => exact List.not_mem_nil
  | cons c cs ih =>
      rw [escapedLines]
      split
      · split
        · simpa using ih 0
        · simpa using ih (seen + 1)
      split
      · simpa using ih 0
      · rw [List.mem_append, not_or]
        exact ⟨return_notMem_escapedChar c, ih 0⟩

/- Without escapes it would be no plain character. -/
theorem return_notMem_of_plain
    {cs : List Char}
    (hPlain : ∀ c ∈ cs, (isPlain c || c = '\n') = true) :
    '\r' ∉ cs := by
  intro hMem
  exact absurd (hPlain '\r' hMem) (by decide)

/- Marks around a text have no carriage return either. -/
theorem return_notMem_between
    {marks cs : List Char}
    (breaks : Bool)
    (hMarks : '\r' ∉ marks)
    (hText : '\r' ∉ cs) :
    '\r' ∉ between marks breaks cs := by
  unfold between
  cases breaks with
  | true => simp [hMarks, hText]
  | false => simp [hMarks, hText]

/- A string is written without carriage returns. -/
theorem return_notMem_stringText (s : String) :
    '\r' ∉ stringText s := by
  have hHolds := holds_styleOf s.toList
  unfold stringText
  cases hStyle : styleOf s.toList with
  | basic =>
      exact return_notMem_between _ (by decide)
        (return_notMem_escaped _)
  | literal =>
      rw [hStyle] at hHolds
      apply return_notMem_between _ (by decide)
      apply return_notMem_of_plain
      intro c hMem
      rw [hHolds.1 c hMem, Bool.true_or]
  | basicLines =>
      exact return_notMem_between _ (by decide)
        (return_notMem_escapedLines 0 _)
  | literalLines =>
      rw [hStyle] at hHolds
      exact return_notMem_between _ (by decide)
        (return_notMem_of_plain hHolds.1)

end Toml

end CaptureLink
