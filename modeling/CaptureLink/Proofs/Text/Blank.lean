import CaptureLink.Text.Blank
import Mathlib.Data.List.TakeWhile

/-
  Blanks around a text.  However many there are, trimming
  takes all of them away and nothing else, if the text itself
  neither begins nor ends with one.

  Main statements:
    * `Text.Bare`
    * `Text.Padded`
    * `Text.trim_of_padded`
-/

namespace CaptureLink

namespace Text

/- A text with no blank at its ends. -/
structure Bare (cs : List Char) : Prop where
  head : ∀ c ∈ cs.head?, isBlank c = false
  last : ∀ c ∈ cs.getLast?, isBlank c = false

/- A text with nothing but blanks around another. -/
def Padded (text core : List Char) : Prop :=
  ∃ before after,
    text = before ++ (core ++ after) ∧
      (∀ c ∈ before, isBlank c = true) ∧
      ∀ c ∈ after, isBlank c = true

/- So is a text that is put between blanks. -/
theorem padded_between
    (before core after : String)
    (hBefore : before.toList.all isBlank = true)
    (hAfter : after.toList.all isBlank = true) :
    Padded (before ++ (core ++ after)).toList core.toList :=
  ⟨before.toList, after.toList,
    by simp only [String.toList_append],
    List.all_eq_true.mp hBefore, List.all_eq_true.mp hAfter⟩

/- A text without any blanks is bare. -/
theorem bare_of_visible
    {cs : List Char}
    (hVisible : ∀ c ∈ cs, isBlank c = false) : Bare cs where
  head := fun c hHead => hVisible c (List.mem_of_mem_head? hHead)
  last := fun c hLast => hVisible c (List.mem_of_getLast? hLast)

/- A text between two signs is bare if these are no blanks. -/
theorem bare_between
    {first last : Char}
    (between : List Char)
    (hFirst : isBlank first = false)
    (hLast : isBlank last = false) :
    Bare (first :: (between ++ [last])) where
  head := by
    rintro c ⟨⟩
    exact hFirst
  last := by
    rw [← List.cons_append, List.getLast?_concat]
    rintro c ⟨⟩
    exact hLast

/- Blanks in front are taken away, up to the first other sign. -/
theorem dropWhile_blank_append
    {blanks cs : List Char}
    (hBlanks : ∀ c ∈ blanks, isBlank c = true)
    (hHead : ∀ c ∈ cs.head?, isBlank c = false) :
    (blanks ++ cs).dropWhile isBlank = cs := by
  rw [List.dropWhile_append_of_pos hBlanks]
  cases cs with
  | nil => rfl
  | cons c cs =>
      rw [List.dropWhile_cons_of_neg]
      rw [hHead c rfl]
      exact Bool.false_ne_true

/- Blanks behind are taken away, back to the last other sign. -/
theorem trimEnd_append
    {cs blanks : List Char}
    (hBlanks : ∀ c ∈ blanks, isBlank c = true)
    (hLast : ∀ c ∈ cs.getLast?, isBlank c = false) :
    trimEnd (cs ++ blanks) = cs := by
  rw [trimEnd, List.reverse_append, dropWhile_blank_append,
    List.reverse_reverse]
  · intro c hMem
    exact hBlanks c (List.mem_reverse.mp hMem)
  · intro c hHead
    rw [List.head?_reverse] at hHead
    exact hLast c hHead

/- All blanks around a bare text are taken away. -/
theorem trim_of_padded
    {text core : List Char}
    (hPadded : Padded text core)
    (hBare : Bare core) :
    trim text = core := by
  rcases hPadded with ⟨before, after, rfl, hBefore, hAfter⟩
  have hEnd : trimEnd (core ++ after) = core :=
    trimEnd_append hAfter hBare.last
  cases core with
  | nil =>
      -- There is no other sign, so the blanks in front are all.
      have hAll : ∀ c ∈ before ++ after, isBlank c = true := by
        intro c hMem
        exact (List.mem_append.mp hMem).elim (hBefore c) (hAfter c)
      rw [List.nil_append, trim, trimStart,
        List.dropWhile_eq_nil_iff.mpr hAll]
      rfl
  | cons first core =>
      rw [trim, trimStart, dropWhile_blank_append hBefore, hEnd]
      exact hBare.head

end Text

end CaptureLink
