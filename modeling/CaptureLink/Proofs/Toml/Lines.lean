import CaptureLink.Proofs.Toml.Value

/-
  Lines of documents, read back.  Each line does one thing to
  the draft.  Whether the last one has a break behind it makes
  no difference, for then an empty line comes last.

  Main statements:
    * `Toml.Field`
    * `Toml.Line`
    * `Toml.Reads`
    * `Toml.reads_joined`
    * `Toml.ofChars?_joined`
-/

namespace CaptureLink

namespace Toml

------------------------------------------------------------
-- Keys
------------------------------------------------------------

/- A key that needs no marks. -/
structure Bare (key : String) : Prop where
  nonempty : key.toList ≠ []
  bare : ∀ c ∈ key.toList, inBareKey c = true

/- This can be checked character by character. -/
theorem bare_iff (key : String) :
    (!key.toList.isEmpty && key.toList.all inBareKey) = true ↔
      Bare key := by
  rw [Bool.and_eq_true, Bool.not_eq_true', List.all_eq_true]
  constructor
  · rintro ⟨hSome, hBare⟩
    exact ⟨List.isEmpty_eq_false_iff.mp hSome, hBare⟩
  · intro hKey
    exact ⟨List.isEmpty_eq_false_iff.mpr hKey.nonempty, hKey.bare⟩

instance (key : String) : Decidable (Bare key) :=
  decidable_of_iff _ (bare_iff key)

/- Where a character does not belong to keys, no key goes on. -/
theorem ne_of_inBareKey
    {c d : Char}
    (hBare : inBareKey c = true)
    (hOther : inBareKey d = false) : c ≠ d := by
  rintro rfl
  rw [hBare] at hOther
  cases hOther

/- Blanks do not. -/
theorem isSpace_of_inBareKey
    {c : Char}
    (hBare : inBareKey c = true) : isSpace c = false := by
  rw [isSpace, decide_eq_false (ne_of_inBareKey hBare rfl),
    decide_eq_false (ne_of_inBareKey hBare rfl)]
  rfl

/- Without a blank in front there is none to pass over. -/
theorem skipSpaces_of_head
    {cs : List Char}
    (hHead : ∀ c, cs.head? = some c → isSpace c = false) :
    skipSpaces cs = cs := by
  cases cs with
  | nil => rfl
  | cons c cs =>
      rw [skipSpaces, List.dropWhile_cons_of_neg]
      rw [hHead c rfl]
      exact Bool.false_ne_true

section Keys

variable {key : String}
variable {c : Char}
variable {rest : List Char}

/- Such a key has a first character. -/
theorem Bare.exists_cons
    (hKey : Bare key) :
    ∃ c cs, key.toList = c :: cs ∧ inBareKey c = true := by
  rcases List.exists_cons_of_ne_nil hKey.nonempty with
    ⟨c, cs, hChars⟩
  exact ⟨c, cs, hChars, hKey.bare c (hChars ▸ List.mem_cons_self)⟩

/- It is no blank. -/
theorem Bare.skipSpaces_append
    (hKey : Bare key)
    (rest : List Char) :
    skipSpaces (key.toList ++ rest) = key.toList ++ rest := by
  rcases hKey.exists_cons with ⟨c, cs, hChars, hBare⟩
  apply skipSpaces_of_head
  rw [hChars]
  rintro d ⟨⟩
  exact isSpace_of_inBareKey hBare

/- The key is read up to the first sign that is none of it. -/
theorem Bare.keyAt?_append
    (hKey : Bare key)
    (hOther : inBareKey c = false) :
    keyAt? (key.toList ++ c :: rest) = some (key, c :: rest) := by
  have hStop : ¬inBareKey c = true := by
    rw [hOther]
    exact Bool.false_ne_true
  have hTake :
      (key.toList ++ c :: rest).takeWhile inBareKey =
        key.toList := by
    rw [List.takeWhile_append_of_pos hKey.bare,
      List.takeWhile_cons_of_neg hStop, List.append_nil]
  have hDrop :
      (key.toList ++ c :: rest).dropWhile inBareKey =
        c :: rest := by
    rw [List.dropWhile_append_of_pos hKey.bare,
      List.dropWhile_cons_of_neg hStop]
  rcases hKey.exists_cons with ⟨d, ds, hChars, hBare⟩
  have hLine : lineStringAt? (key.toList ++ c :: rest) = none := by
    rw [hChars, List.cons_append]
    exact lineStringAt?_eq_none _ (ne_of_inBareKey hBare rfl)
      (ne_of_inBareKey hBare rfl)
  unfold keyAt?
  rw [hLine, hTake, hDrop]
  dsimp only
  split
  next hNil => exact absurd hNil hKey.nonempty
  next => rw [String.ofList_toList]

/- It is a path of its own, if no point follows. -/
theorem Bare.keyPathAt?_append
    {behind : List Char}
    (hKey : Bare key)
    (hOther : inBareKey c = false)
    (hBehind : skipSpaces (c :: rest) = behind)
    (hPoint : Avoids '.' behind) :
    keyPathAt? (key.toList ++ c :: rest) =
      some ([], key, behind) := by
  have hKeys :
      keysAt? nesting (key.toList ++ c :: rest) =
        some ([key], behind) := by
    have hRoom : nesting = 78 + 1 := rfl
    rw [hRoom, keysAt?, hKey.skipSpaces_append,
      hKey.keyAt?_append hOther]
    simp only [Option.bind_eq_bind, Option.bind_some, hBehind]
    split
    next => exact absurd rfl (avoids_cons.mp hPoint)
    next => rfl
  rw [keyPathAt?, hKeys]
  rfl

/- It is written without carriage returns. -/
theorem Bare.return_notMem
    (hKey : Bare key) : '\r' ∉ key.toList := by
  intro hMem
  exact ne_of_inBareKey (hKey.bare _ hMem) rfl rfl

end Keys

------------------------------------------------------------
-- Fields
------------------------------------------------------------

/- Nothing else is on the line. -/
def EndsLine (rest : List Char) : Prop :=
  ∀ c, rest.head? = some c → c = '\n'

/- There the line ends, and the next one begins. -/
theorem EndsLine.eq_nil_or
    {rest : List Char}
    (hEnds : EndsLine rest) :
    rest = [] ∨ ∃ behind, rest = '\n' :: behind := by
  cases rest with
  | nil => exact .inl rfl
  | cons c behind =>
      rw [hEnds c rfl]
      exact .inr ⟨behind, rfl⟩

/- Words end there. -/
theorem EndsLine.endsWord
    {rest : List Char}
    (hEnds : EndsLine rest) : EndsWord rest := by
  intro c hHead
  rw [hEnds c hHead]
  rfl

/- No mark stands there. -/
theorem EndsLine.avoids
    {mark : Char}
    {rest : List Char}
    (hEnds : EndsLine rest)
    (hMark : mark ≠ '\n') : Avoids mark rest := by
  intro hHead
  exact hMark (hEnds mark hHead)

/- A key, and a text that spells its value at the end of a line. -/
structure Field where
  key : String
  text : List Char
  value : Value
  bare : Bare key
  front : ∀ c, text.head? = some c → isSpace c = false
  reads :
    ∀ rest,
      EndsLine rest →
        valueAt? nesting (text ++ rest) = some (value, rest)
  feeds : '\r' ∉ text

namespace Field

/- What a table says about the key. -/
def entry (f : Field) : String × Value :=
  (f.key, f.value)

/- The blank in front of the value is passed over. -/
theorem skipSpaces_text
    (f : Field)
    {rest : List Char}
    (hEnds : EndsLine rest) :
    skipSpaces (' ' :: (f.text ++ rest)) = f.text ++ rest := by
  rw [skipSpaces, List.dropWhile_cons_of_pos rfl]
  apply skipSpaces_of_head
  intro c hHead
  cases hText : f.text with
  | nil =>
      rw [hText, List.nil_append] at hHead
      rw [hEnds c hHead]
      rfl
  | cons d cs =>
      rw [hText] at hHead
      apply f.front c
      rw [hText]
      exact hHead

/- A string. -/
def ofString
    (key : String)
    (bare : Bare key)
    (s : String) : Field where
  key := key
  text := stringText s
  value := .string s
  bare := bare
  front := by
    rcases exists_stringText_eq s with ⟨mark, cs, hText, hKind⟩
    rw [hText]
    rintro c ⟨⟩
    rcases hKind with rfl | rfl
    · rfl
    · rfl
  reads := fun rest hEnds =>
    valueAt?_stringText s (hEnds.avoids (by decide))
      (hEnds.avoids (by decide))
  feeds := return_notMem_stringText s

/- A truth value. -/
def ofBool
    (key : String)
    (bare : Bare key)
    (b : Bool) : Field where
  key := key
  text := boolText b
  value := .bool b
  bare := bare
  front := by
    cases b with
    | true =>
        rintro c ⟨⟩
        rfl
    | false =>
        rintro c ⟨⟩
        rfl
  reads := fun rest hEnds => valueAt?_boolText b hEnds.endsWord
  feeds := by
    cases b with
    | true => decide
    | false => decide

/- A number that is not too great. -/
def ofNat
    (key : String)
    (bare : Bare key)
    (n : Nat)
    (hGreat : n ≤ maxInteger) : Field where
  key := key
  text := Nat.toDigits 10 n
  value := .integer n
  bare := bare
  front := by
    intro c hHead
    have hDigits := Json.digits_toDigits n
    have hDigit := hDigits.digit c (List.mem_of_mem_head? hHead)
    apply isSpace_of_inBareKey
    rw [inBareKey, Char.isAlphanum, hDigit, Bool.or_true,
      Bool.true_or, Bool.true_or]
  reads := fun rest hEnds =>
    valueAt?_integerText (if_pos hGreat) hEnds.endsWord
  feeds := notMem_of_digits '\r' (Json.digits_toDigits n) rfl

/- An array of strings. -/
def ofStrings
    (key : String)
    (bare : Bare key)
    (items : List String) : Field where
  key := key
  text := arrayText items
  value := .array (items.map .string)
  bare := bare
  front := by
    rcases exists_arrayText_eq items with ⟨cs, hText⟩
    rw [hText]
    rintro c ⟨⟩
    rfl
  reads := fun rest _ => valueAt?_arrayText items
  feeds := return_notMem_arrayText items

end Field

------------------------------------------------------------
-- Lines
------------------------------------------------------------

/-
  Reading the lines of a text makes one draft into another.
  This holds for every bound on their number that is great
  enough, so a line in front leaves one for those behind it.
-/
def Reads
    (d : Draft)
    (cs : List Char)
    (d' : Draft) : Prop :=
  ∀ count, cs.length < count → linesAt? count d cs = some d'

/- A line of a document. -/
inductive Line where
| blank
| header (name : String) (bare : Bare name)
| field (f : Field)

namespace Line

/- How it is written. -/
def text : Line → List Char
| blank => []
| header name _ => '[' :: (name.toList ++ [']'])
| field f => f.key.toList ++ (' ' :: '=' :: ' ' :: f.text)

/- What it does to a draft. -/
def step? (d : Draft) : Line → Option Draft
| blank => some d
| header name _ => d.openTable? [] name
| field f => d.assign? ⟨[], f.key, f.value⟩

/- Lines with a break in front of each. -/
def broken (ls : List Line) : List Char :=
  ls.flatMap fun l => '\n' :: l.text

/- Lines with breaks between them. -/
def joined (ls : List Line) : List Char :=
  (broken ls).tail

@[simp]
theorem broken_nil : broken [] = [] := rfl

@[simp]
theorem broken_cons
    (l : Line)
    (ls : List Line) :
    broken (l :: ls) = '\n' :: (l.text ++ broken ls) := rfl

@[simp]
theorem broken_append (ls ls' : List Line) :
    broken (ls ++ ls') = broken ls ++ broken ls' :=
  List.flatMap_append

theorem joined_cons
    (l : Line)
    (ls : List Line) :
    joined (l :: ls) = l.text ++ broken ls := rfl

/- A line ends where the lines behind it begin. -/
theorem endsLine_broken (ls : List Line) : EndsLine (broken ls) := by
  cases ls with
  | nil =>
      rintro c ⟨⟩
  | cons l ls =>
      rintro c ⟨⟩
      rfl

/- It has no blank in front. -/
theorem skipSpaces_text
    (l : Line)
    {rest : List Char}
    (hEnds : EndsLine rest) :
    skipSpaces (l.text ++ rest) = l.text ++ rest := by
  cases l with
  | blank =>
      rcases hEnds.eq_nil_or with rfl | ⟨behind, rfl⟩
      · rfl
      · rfl
  | header name bare => rfl
  | field f =>
      rw [text, List.append_assoc, f.bare.skipSpaces_append]

/- A header opens its table. -/
theorem lineAt?_header
    {d d' : Draft}
    {name : String}
    {rest behind : List Char}
    (hName : Bare name)
    (hStep : d.openTable? [] name = some d')
    (hAfter : afterLine? rest = some behind) :
    lineAt? d ((header name hName).text ++ rest) =
      some (d', behind) := by
  have hText :
      (header name hName).text ++ rest =
        '[' :: (name.toList ++ ']' :: rest) := by
    simp only [text, List.cons_append, List.append_assoc,
      List.nil_append]
  have hPath :
      keyPathAt? (name.toList ++ ']' :: rest) =
        some ([], name, ']' :: rest) :=
    hName.keyPathAt?_append rfl rfl (by simp)
  rw [hText, lineAt?, headerAt?, hPath]
  · simp only [Option.bind_eq_bind, Option.bind_some, hStep,
      hAfter]
  · -- No second bracket follows, since the name is bare.
    intro more hShape
    rcases hName.exists_cons with ⟨c, cs, hChars, hBare⟩
    rw [hChars] at hShape
    exact ne_of_inBareKey hBare rfl (List.cons.inj hShape).1

/- A field is entered into the open table. -/
theorem lineAt?_field
    {d d' : Draft}
    {f : Field}
    {rest behind : List Char}
    (hStep : d.assign? ⟨[], f.key, f.value⟩ = some d')
    (hEnds : EndsLine rest)
    (hAfter : afterLine? rest = some behind) :
    lineAt? d ((field f).text ++ rest) = some (d', behind) := by
  have hText :
      (field f).text ++ rest =
        f.key.toList ++ ' ' :: '=' :: ' ' :: (f.text ++ rest) := by
    simp only [text, List.cons_append, List.append_assoc]
  have hPath :
      keyPathAt? ((field f).text ++ rest) =
        some ([], f.key, '=' :: ' ' :: (f.text ++ rest)) := by
    rw [hText]
    exact f.bare.keyPathAt?_append rfl rfl (by simp)
  have hValue :
      valueAt? nesting (skipSpaces (' ' :: (f.text ++ rest))) =
        some (f.value, rest) := by
    rw [f.skipSpaces_text hEnds]
    exact f.reads rest hEnds
  have hAssignment :
      assignmentAt? (valueAt? nesting) ((field f).text ++ rest) =
        some (⟨[], f.key, f.value⟩, rest) := by
    rw [assignmentAt?, hPath]
    simp only [Option.bind_eq_bind, Option.bind_some, hValue]
  rcases f.bare.exists_cons with ⟨c, cs, hChars, hBare⟩
  rw [hText, hChars, List.cons_append] at hAssignment ⊢
  have hOther {d : Char} (hNone : inBareKey d = false) :
      c ≠ d := ne_of_inBareKey hBare hNone
  rw [lineAt?, hAssignment]
  · simp only [Option.bind_eq_bind, Option.bind_some, hStep,
      hAfter]
  · exact fun _ hShape => hOther rfl (List.cons.inj hShape).1
  · exact fun _ hShape => hOther rfl (List.cons.inj hShape).1
  · exact fun _ hShape => hOther rfl (List.cons.inj hShape).1

end Line

/- Behind the end of a line stands the next one. -/
theorem EndsLine.afterLine?
    {rest : List Char}
    (hEnds : EndsLine rest) :
    afterLine? rest = some rest.tail := by
  rcases hEnds.eq_nil_or with rfl | ⟨behind, rfl⟩
  · rfl
  · rfl

/- Where nothing is left, the draft is finished. -/
theorem reads_nil_iff {d d' : Draft} : Reads d [] d' ↔ d = d' := by
  constructor
  · intro hReads
    exact Option.some.inj (hReads 1 Nat.zero_lt_one)
  · rintro rfl count hCount
    cases count with
    | zero => exact absurd hCount (Nat.lt_irrefl 0)
    | succ count => rfl

/- A line that is not empty is read, and then what is behind it. -/
theorem Reads.of_lineAt?
    {d d₁ d' : Draft}
    {c : Char}
    {cs behind : List Char}
    (hSpaces : skipSpaces (c :: cs) = c :: cs)
    (hBreak : c ≠ '\n')
    (hLine : lineAt? d (c :: cs) = some (d₁, behind))
    (hShorter : behind.length ≤ cs.length)
    (hBehind : Reads d₁ behind d') :
    Reads d (c :: cs) d' := by
  intro count hCount
  cases count with
  | zero => exact absurd hCount (Nat.not_lt_zero _)
  | succ count =>
      rw [linesAt?, hSpaces]
      split
      next hShape => cases hShape
      next hShape => exact absurd (List.cons.inj hShape).1 hBreak
      next =>
        rw [hLine]
        apply hBehind
        rw [List.length_cons] at hCount
        omega

/- So is any line, if it does something to the draft. -/
theorem Reads.of_line
    {d d₁ d' : Draft}
    {l : Line}
    {rest : List Char}
    (hStep : l.step? d = some d₁)
    (hEnds : EndsLine rest)
    (hBehind : Reads d₁ rest.tail d') :
    Reads d (l.text ++ rest) d' := by
  have hSpaces := l.skipSpaces_text hEnds
  have hShorter : rest.tail.length ≤ rest.length := by
    rw [List.length_tail]
    exact Nat.sub_le _ _
  cases l with
  | blank =>
      cases hStep
      rcases hEnds.eq_nil_or with rfl | ⟨behind, rfl⟩
      · exact hBehind
      · intro count hCount
        cases count with
        | zero => exact absurd hCount (Nat.not_lt_zero _)
        | succ count =>
            exact hBehind count (Nat.lt_of_succ_lt_succ hCount)
  | header name bare =>
      have hLine :=
        Line.lineAt?_header bare hStep hEnds.afterLine?
      rw [Line.text, List.cons_append] at hLine hSpaces ⊢
      refine .of_lineAt? hSpaces (by decide) hLine ?_ hBehind
      rw [List.length_append]
      omega
  | field f =>
      have hLine := Line.lineAt?_field hStep hEnds hEnds.afterLine?
      rcases f.bare.exists_cons with ⟨c, cs, hChars, hBare⟩
      rw [Line.text, hChars, List.cons_append, List.cons_append]
        at hLine hSpaces ⊢
      refine
        .of_lineAt? hSpaces (ne_of_inBareKey hBare rfl) hLine ?_
          hBehind
      rw [List.length_append]
      omega

/- Lines are read one by one, as far as they are accepted. -/
theorem reads_joined
    {d d' : Draft}
    {ls : List Line}
    (hSteps : ls.foldlM Line.step? d = some d') :
    Reads d (Line.joined ls) d' := by
  induction ls generalizing d with
  | nil => exact reads_nil_iff.mpr (Option.some.inj hSteps)
  | cons l ls ih =>
      rw [List.foldlM_cons, Option.bind_eq_bind,
        Option.bind_eq_some_iff] at hSteps
      rcases hSteps with ⟨d₁, hStep, hSteps⟩
      rw [Line.joined_cons]
      exact .of_line hStep (Line.endsLine_broken ls) (ih hSteps)

/- Text that breaks lines with line feeds alone is taken as it is. -/
theorem feedLines_eq_self
    {cs : List Char}
    (hFeeds : '\r' ∉ cs) : feedLines cs = cs := by
  induction cs with
  | nil => rfl
  | cons c cs ih =>
      rw [List.mem_cons, not_or] at hFeeds
      rw [feedLines, ih hFeeds.2]
      exact fun _ hShape => absurd hShape.symm hFeeds.1

/- No line has a carriage return in it. -/
theorem Line.return_notMem (l : Line) : '\r' ∉ l.text := by
  cases l with
  | blank => exact List.not_mem_nil
  | header name bare => simp [text, bare.return_notMem]
  | field f => simp [text, f.bare.return_notMem, f.feeds]

/- Nor have all of them. -/
theorem Line.return_notMem_joined (ls : List Line) :
    '\r' ∉ joined ls := by
  intro hMem
  rcases List.mem_flatMap.mp (List.mem_of_mem_tail hMem) with
    ⟨l, -, hLine⟩
  rcases List.mem_cons.mp hLine with hBreak | hText
  · cases hBreak
  · exact l.return_notMem hText

/- No line begins with a byte order mark. -/
theorem Line.avoids_joined (ls : List Line) :
    Avoids '\uFEFF' (joined ls) := by
  cases ls with
  | nil =>
      intro hHead
      cases hHead
  | cons l ls =>
      rw [joined_cons]
      cases l with
      | blank =>
          intro hHead
          cases endsLine_broken ls _ hHead
      | header name bare => simp [text]
      | field f =>
          rcases f.bare.exists_cons with ⟨c, cs, hChars, hBare⟩
          rw [text, hChars, List.cons_append, List.cons_append,
            avoids_cons]
          exact ne_of_inBareKey hBare rfl

/- Without such a mark none is dropped. -/
theorem dropMark_eq_self
    {cs : List Char}
    (hMark : Avoids '\uFEFF' cs) : dropMark cs = cs := by
  unfold dropMark
  split
  · exact absurd rfl (avoids_cons.mp hMark)
  · rfl

/- A document of lines is what they make of an empty draft. -/
theorem ofChars?_joined
    {d : Draft}
    {ls : List Line}
    (hSteps : ls.foldlM Line.step? .empty = some d) :
    ofChars? (Line.joined ls) = d.close? := by
  have hReads :=
    reads_joined hSteps _ (Nat.lt_succ_self _)
  rw [ofChars?, dropMark_eq_self (Line.avoids_joined ls),
    feedLines_eq_self (Line.return_notMem_joined ls)]
  simp only [Option.bind_eq_bind, hReads, Option.bind_some]

end Toml

end CaptureLink
