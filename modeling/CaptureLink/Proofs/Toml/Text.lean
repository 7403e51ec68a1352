import CaptureLink.Toml.Layout

/-
  Strings in TOML, read back.  Each of the four ways to write
  a string gives it back where the way is taken: escapes name
  the characters they stand for, and of marks in a row the
  last three close the string and the others belong to it.

  Main statements:
    * `Toml.escapedChar_cases`
    * `Toml.basicAt?_escaped`
    * `Toml.literalAt?_append`
    * `Toml.basicLinesAt?_escapedLines`
    * `Toml.literalLinesAt?_append`
-/

namespace CaptureLink

namespace Toml

------------------------------------------------------------
-- Escapes
------------------------------------------------------------

/- A control character has a code of one byte. -/
theorem toNat_lt_of_isControl
    {c : Char}
    (hControl : isControl c = true) : c.toNat < 0x100 := by
  simp only [isControl, Bool.and_eq_true, Bool.or_eq_true,
    decide_eq_true_eq] at hControl
  omega

/- A hexadecimal letter names its digit. -/
theorem hexDigit?_hexLetter :
    ∀ n < 16, Text.hexDigit? (hexLetter n) = some n := by
  decide

/- The escape of a control character names its code. -/
theorem coded?_hexLetter
    {c : Char}
    (hControl : isControl c = true) :
    coded? ['0', '0',
      hexLetter (c.toNat / 16), hexLetter (c.toNat % 16)] =
        some c := by
  have hByte := toNat_lt_of_isControl hControl
  have hZero : Text.hexDigit? '0' = some 0 := rfl
  have hHigh := hexDigit?_hexLetter (c.toNat / 16) (by omega)
  have hLow := hexDigit?_hexLetter (c.toNat % 16) (by omega)
  have hSpelled :
      Text.spelled 16 [0, 0, c.toNat / 16, c.toNat % 16] =
        c.toNat := by
    simp only [Text.spelled, List.foldl_cons, List.foldl_nil]
    omega
  have hValid : c.toNat.isValidChar := c.valid
  simp only [coded?, List.mapM_cons, List.mapM_nil, hZero, hHigh,
    hLow, Option.pure_def, Option.bind_eq_bind, Option.bind_some,
    hSpelled, hValid, if_true, Char.ofNat_toNat]

/-
  Every character but the quote stands for itself or is
  written as an escape, which is no gap between lines.
-/
theorem escapedChar_cases
    {c : Char}
    (hQuote : c ≠ '"') :
    (escapedChar c = [c] ∧ c ≠ '\\' ∧ isPlain c = true) ∨
      ∃ escape,
        escapedChar c = '\\' :: escape ∧
          ∀ rest,
            escapeAt? (escape ++ rest) = some (c, rest) ∧
              gapAt? (escape ++ rest) = none := by
  by_cases hBackspace : c = '\x08'
  · subst hBackspace
    exact .inr ⟨['b'], rfl, fun rest => ⟨rfl, rfl⟩⟩
  by_cases hTab : c = '\t'
  · subst hTab
    exact .inr ⟨['t'], rfl, fun rest => ⟨rfl, rfl⟩⟩
  by_cases hBreak : c = '\n'
  · subst hBreak
    exact .inr ⟨['n'], rfl, fun rest => ⟨rfl, rfl⟩⟩
  by_cases hFeed : c = '\x0c'
  · subst hFeed
    exact .inr ⟨['f'], rfl, fun rest => ⟨rfl, rfl⟩⟩
  by_cases hReturn : c = '\r'
  · subst hReturn
    exact .inr ⟨['r'], rfl, fun rest => ⟨rfl, rfl⟩⟩
  by_cases hBackslash : c = '\\'
  · subst hBackslash
    exact .inr ⟨['\\'], rfl, fun rest => ⟨rfl, rfl⟩⟩
  simp only [escapedChar, hBackspace, hTab, hBreak, hFeed, hReturn,
    hBackslash, if_false]
  by_cases hControl : isControl c = true
  · rw [if_pos hControl]
    refine .inr ⟨_, rfl, fun rest => ⟨?_, rfl⟩⟩
    simp only [List.cons_append, List.nil_append, escapeAt?,
      coded?_hexLetter hControl, Option.map_some]
  · rw [if_neg hControl]
    refine .inl ⟨rfl, hBackslash, ?_⟩
    simp only [isControl, hTab, hBreak, ne_eq, not_false_eq_true,
      decide_true, Bool.and_true, Bool.or_eq_true,
      decide_eq_true_eq, not_or, Nat.not_lt] at hControl
    simp only [isPlain, hTab, decide_false, Bool.false_or,
      Bool.and_eq_true, decide_eq_true_eq]
    exact hControl

------------------------------------------------------------
-- Strings on one line
------------------------------------------------------------

section OneLine

variable {c : Char}
variable {cs rest : List Char}

/- An escape is read as the character that it names. -/
theorem basicAt?_of_escape
    (hEscape : escapeAt? cs = some (c, rest)) :
    basicAt? ('\\' :: cs) = pushOnto c (basicAt? rest) := by
  rw [basicAt?]
  split
  next hSome =>
    rw [hEscape] at hSome
    cases hSome
    rfl
  next hNone =>
    rw [hEscape] at hNone
    cases hNone

/- Another character stands for itself. -/
theorem basicAt?_of_plain
    (rest : List Char)
    (hQuote : c ≠ '"')
    (hBackslash : c ≠ '\\')
    (hPlain : isPlain c = true) :
    basicAt? (c :: rest) = pushOnto c (basicAt? rest) := by
  rw [basicAt?, if_pos hPlain]
  · exact fun h => hQuote h
  · exact fun h => hBackslash h

/- A text is read back from its escapes up to the closing quote. -/
theorem basicAt?_escaped (cs rest : List Char) :
    basicAt? (escaped cs ++ '"' :: rest) = some (cs, rest) := by
  induction cs with
  | nil => rw [escaped, List.flatMap_nil, List.nil_append, basicAt?]
  | cons c cs ih =>
      rw [escaped, List.flatMap_cons, List.append_assoc, ← escaped]
      by_cases hQuote : c = '"'
      · rw [if_pos hQuote, hQuote]
        have hEscape :
            escapeAt? ('"' :: (escaped cs ++ '"' :: rest)) =
              some ('"', escaped cs ++ '"' :: rest) := rfl
        rw [List.cons_append, List.singleton_append,
          basicAt?_of_escape hEscape, ih, pushOnto]
      · rw [if_neg hQuote]
        rcases escapedChar_cases hQuote with
          ⟨hSelf, hBackslash, hPlain⟩ | ⟨escape, hSelf, hReads⟩
        · rw [hSelf, List.singleton_append,
            basicAt?_of_plain _ hQuote hBackslash hPlain, ih,
            pushOnto]
        · rw [hSelf, List.cons_append,
            basicAt?_of_escape (hReads _).1, ih, pushOnto]

/- A text without escapes is read up to the closing mark. -/
theorem literalAt?_append
    (rest : List Char)
    (hPlain : ∀ c ∈ cs, isPlain c = true)
    (hMark : apostrophe ∉ cs) :
    literalAt? (cs ++ apostrophe :: rest) = some (cs, rest) := by
  induction cs with
  | nil => rfl
  | cons c cs ih =>
      rw [List.forall_mem_cons] at hPlain
      rw [List.mem_cons, not_or] at hMark
      rw [List.cons_append, literalAt?, if_neg (Ne.symm hMark.1),
        if_pos hPlain.1, ih hPlain.2 hMark.2, pushOnto]

end OneLine

------------------------------------------------------------
-- Marks in a row
------------------------------------------------------------

/- The text does not begin with a character. -/
def Avoids
    (c : Char)
    (cs : List Char) : Prop :=
  cs.head? ≠ some c

@[simp]
theorem avoids_cons
    {c d : Char}
    {cs : List Char} :
    Avoids c (d :: cs) ↔ d ≠ c := by
  rw [Avoids, List.head?_cons, ne_eq, Option.some.injEq]

/- Up to two marks in front of the closing ones belong to a string. -/
theorem closing_replicate
    {mark : Char}
    {seen : Nat}
    {rest : List Char}
    (hSeen : seen ≤ 2)
    (hRest : Avoids mark rest) :
    closing mark (List.replicate seen mark ++ rest) =
      (List.replicate seen mark, rest) := by
  have hFirst : ∀ c cs, rest = c :: cs → c ≠ mark := by
    rintro c cs rfl rfl
    exact hRest rfl
  obtain rfl | rfl | rfl : seen = 0 ∨ seen = 1 ∨ seen = 2 := by
    omega
  · match rest, hFirst with
    | [], _ => rfl
    | [a], hFirst => simp [closing, hFirst a [] rfl]
    | a :: b :: rest, hFirst =>
        simp [closing, hFirst a (b :: rest) rfl]
  · match rest, hFirst with
    | [], _ => simp [closing]
    | a :: rest, hFirst => simp [closing, hFirst a rest rfl]
  · simp [closing]

/- Characters in front of the text that was read. -/
def pushAll
    (cs : List Char)
    (found : Option (List Char × List Char)) :
    Option (List Char × List Char) :=
  cs.foldr pushOnto found

theorem pushAll_some
    (cs ds rest : List Char) :
    pushAll cs (some (ds, rest)) = some (cs ++ ds, rest) := by
  induction cs with
  | nil => rfl
  | cons c cs ih =>
      rw [pushAll, List.foldr_cons, ← pushAll, ih, pushOnto,
        List.cons_append]

/- One more of some marks may as well stand in front of them. -/
theorem replicate_append_cons
    (mark : Char)
    (seen : Nat)
    (cs : List Char) :
    List.replicate seen mark ++ mark :: cs =
      mark :: (List.replicate seen mark ++ cs) := by
  rw [← List.cons_append, ← List.replicate_succ,
    List.replicate_succ', List.append_assoc,
    List.singleton_append]

/-
  A reader of strings on several lines takes a mark for itself
  unless it is the first of three.
-/
def TakesMark
    (mark : Char)
    (read : List Char → Option (List Char × List Char)) : Prop :=
  ∀ cs, (∀ rest, cs ≠ mark :: mark :: rest) →
    read (mark :: cs) = pushOnto mark (read cs)

/- So it takes up to two marks in front of another character. -/
theorem TakesMark.replicate
    {mark c : Char}
    {read : List Char → Option (List Char × List Char)}
    {seen : Nat}
    (hTakes : TakesMark mark read)
    (rest : List Char)
    (hSeen : seen ≤ 2)
    (hOther : c ≠ mark) :
    read (List.replicate seen mark ++ c :: rest) =
      pushAll (List.replicate seen mark) (read (c :: rest)) := by
  have hOne : read (mark :: c :: rest) =
      pushOnto mark (read (c :: rest)) := by
    apply hTakes
    rintro more hShape
    exact hOther (List.cons.inj hShape).1
  obtain rfl | rfl | rfl : seen = 0 ∨ seen = 1 ∨ seen = 2 := by
    omega
  · rfl
  · exact hOne
  · have hTwo : read (mark :: mark :: c :: rest) =
        pushOnto mark (read (mark :: c :: rest)) := by
      apply hTakes
      rintro more hShape
      exact hOther (List.cons.inj (List.cons.inj hShape).2).1
    rw [hOne] at hTwo
    exact hTwo

------------------------------------------------------------
-- Strings on several lines
------------------------------------------------------------

section Lines

variable {c : Char}
variable {cs rest : List Char}

/- A quote that is not the first of three stands for itself. -/
theorem takesMark_basicLinesAt? :
    TakesMark '"' basicLinesAt? := by
  intro cs hOther
  rw [basicLinesAt?, if_pos (by decide)]
  · exact fun rest _ hShape => hOther rest hShape
  · decide

/- An escape is read as the character that it names. -/
theorem basicLinesAt?_of_escape
    (hGap : gapAt? cs = none)
    (hEscape : escapeAt? cs = some (c, rest)) :
    basicLinesAt? ('\\' :: cs) =
      pushOnto c (basicLinesAt? rest) := by
  rw [basicLinesAt?]
  split
  next hSome =>
    rw [hGap] at hSome
    cases hSome
  next =>
    split
    next hSome =>
      rw [hEscape] at hSome
      cases hSome
      rfl
    next hNone =>
      rw [hEscape] at hNone
      cases hNone

/- Another character, or a line break, stands for itself. -/
theorem basicLinesAt?_of_plain
    (rest : List Char)
    (hQuote : c ≠ '"')
    (hBackslash : c ≠ '\\')
    (hPlain : (isPlain c || c = '\n') = true) :
    basicLinesAt? (c :: rest) =
      pushOnto c (basicLinesAt? rest) := by
  rw [basicLinesAt?, if_pos hPlain]
  · exact fun _ h _ => hQuote h
  · exact fun h => hBackslash h

/-
  A text is read back from its escapes up to the closing
  quotes.  The quotes in a row that stand directly in front
  are read together with it, since the last of them may stand
  directly in front of the closing ones.
-/
theorem basicLinesAt?_replicate_escapedLines
    {seen : Nat}
    (cs : List Char)
    (hSeen : seen ≤ 2)
    (hRest : Avoids '"' rest) :
    basicLinesAt?
        (List.replicate seen '"' ++
          (escapedLines seen cs ++ '"' :: '"' :: '"' :: rest)) =
      some (List.replicate seen '"' ++ cs, rest) := by
  have hTakes := takesMark_basicLinesAt?
  induction cs generalizing seen with
  | nil =>
      rw [escapedLines, List.nil_append, List.append_nil]
      simp only [replicate_append_cons]
      rw [basicLinesAt?, closing_replicate hSeen hRest]
  | cons c cs ih =>
      have hBehind := ih (Nat.zero_le 2)
      rw [List.replicate_zero, List.nil_append, List.nil_append]
        at hBehind
      by_cases hQuote : c = '"'
      · subst hQuote
        by_cases hTwo : seen = 2
        · subst hTwo
          have hEscape (cs : List Char) :
              escapeAt? ('"' :: cs) = some ('"', cs) := rfl
          have hGap (cs : List Char) :
              gapAt? ('"' :: cs) = none := rfl
          rw [escapedLines, if_pos rfl, if_pos rfl,
            List.cons_append, List.cons_append,
            hTakes.replicate _ hSeen (by decide),
            basicLinesAt?_of_escape (hGap _) (hEscape _),
            hBehind, pushOnto, pushAll_some]
        · have hMore := @ih (seen + 1) (by omega)
          rw [escapedLines, if_pos rfl, if_neg hTwo,
            List.cons_append, replicate_append_cons,
            replicate_append_cons]
          exact hMore
      · rw [escapedLines, if_neg hQuote]
        by_cases hBreak : c = '\n'
        · subst hBreak
          rw [if_pos rfl, List.cons_append,
            hTakes.replicate _ hSeen hQuote,
            basicLinesAt?_of_plain _ hQuote (by decide) rfl,
            hBehind, pushOnto, pushAll_some]
        · rw [if_neg hBreak, List.append_assoc]
          rcases escapedChar_cases hQuote with
            ⟨hSelf, hBackslash, hPlain⟩ |
              ⟨escape, hSelf, hReads⟩
          · rw [hSelf, List.singleton_append,
              hTakes.replicate _ hSeen hQuote,
              basicLinesAt?_of_plain _ hQuote hBackslash
                (by rw [hPlain, Bool.true_or]),
              hBehind, pushOnto, pushAll_some]
          · rw [hSelf, List.cons_append,
              hTakes.replicate _ hSeen (by decide),
              basicLinesAt?_of_escape (hReads _).2 (hReads _).1,
              hBehind, pushOnto, pushAll_some]

/- So a text is read back from its escapes. -/
theorem basicLinesAt?_escapedLines
    (cs : List Char)
    (hRest : Avoids '"' rest) :
    basicLinesAt?
        (escapedLines 0 cs ++ '"' :: '"' :: '"' :: rest) =
      some (cs, rest) :=
  basicLinesAt?_replicate_escapedLines cs (Nat.zero_le 2) hRest

/- A mark that is not the first of three stands for itself. -/
theorem takesMark_literalLinesAt? :
    TakesMark apostrophe literalLinesAt? := by
  intro cs hOther
  unfold apostrophe at hOther ⊢
  rw [literalLinesAt?, if_pos (by decide)]
  exact fun rest _ hShape => hOther rest hShape

/-
  A text without three marks in a row is read up to the
  closing ones, together with the marks directly in front.
-/
theorem literalLinesAt?_replicate_append
    {seen : Nat}
    (hSeen : seen ≤ 2)
    (hPlain : ∀ c ∈ cs, (isPlain c || c = '\n') = true)
    (hThree : threeInRow apostrophe seen cs = false)
    (hRest : Avoids apostrophe rest) :
    literalLinesAt?
        (List.replicate seen apostrophe ++
          (cs ++ apostrophe :: apostrophe :: apostrophe :: rest)) =
      some (List.replicate seen apostrophe ++ cs, rest) := by
  have hTakes := takesMark_literalLinesAt?
  induction cs generalizing seen with
  | nil =>
      rw [List.nil_append, List.append_nil]
      simp only [replicate_append_cons]
      have hClose :
          ∀ cs, literalLinesAt?
              (apostrophe :: apostrophe :: apostrophe :: cs) =
            some (closing apostrophe cs) := fun _ => rfl
      rw [hClose, closing_replicate hSeen hRest]
  | cons c cs ih =>
      rw [List.forall_mem_cons] at hPlain
      rw [threeInRow] at hThree
      by_cases hMark : c = apostrophe
      · subst hMark
        rw [if_pos rfl, Bool.or_eq_false_iff,
          decide_eq_false_iff_not] at hThree
        have hMore := @ih (seen + 1) (by omega) hPlain.2 hThree.2
        rw [List.cons_append, replicate_append_cons,
          replicate_append_cons]
        exact hMore
      · rw [if_neg hMark] at hThree
        have hBehind := ih (Nat.zero_le 2) hPlain.2 hThree
        rw [List.replicate_zero, List.nil_append,
          List.nil_append] at hBehind
        have hSelf (cs : List Char) :
            literalLinesAt? (c :: cs) =
              pushOnto c (literalLinesAt? cs) := by
          rw [literalLinesAt?, if_pos hPlain.1]
          exact fun _ h _ => hMark h
        rw [List.cons_append, hTakes.replicate _ hSeen hMark,
          hSelf, hBehind, pushOnto, pushAll_some]

/- So such a text is read as it is. -/
theorem literalLinesAt?_append
    (hPlain : ∀ c ∈ cs, (isPlain c || c = '\n') = true)
    (hThree : threeInRow apostrophe 0 cs = false)
    (hRest : Avoids apostrophe rest) :
    literalLinesAt?
        (cs ++ apostrophe :: apostrophe :: apostrophe :: rest) =
      some (cs, rest) :=
  literalLinesAt?_replicate_append (Nat.zero_le 2) hPlain hThree
    hRest

end Lines

end Toml

end CaptureLink
