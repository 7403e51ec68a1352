import CaptureLink.Text.Digit

/-
  Strings in TOML: with escapes or without, on one line or on
  several.  Lines end with a line feed throughout, since the
  reader of documents sees to that beforehand.

  Key definitions include:
    * `Toml.isPlain`
    * `Toml.basicAt?`
    * `Toml.literalAt?`
    * `Toml.basicLinesAt?`
    * `Toml.literalLinesAt?`
    * `Toml.stringAt?`
-/

namespace CaptureLink

namespace Toml

------------------------------------------------------------
-- Characters
------------------------------------------------------------

/- The mark around strings without escapes. -/
def apostrophe : Char := '\x27'

/- The blanks inside a line. -/
def isSpace (c : Char) : Bool :=
  c = ' ' || c = '\t'

/- A character that may stand for itself in strings and comments. -/
def isPlain (c : Char) : Bool :=
  c = '\t' || (0x20 ≤ c.toNat && c.toNat ≠ 0x7F)

/- The character of an escape of one letter. -/
def escape? : Char → Option Char
| 'b' => some '\x08'
| 't' => some '\t'
| 'n' => some '\n'
| 'f' => some '\x0c'
| 'r' => some '\r'
| '"' => some '"'
| '\\' => some '\\'
| _ => none

/- The character whose code some hexadecimal digits spell. -/
def coded? (ds : List Char) : Option Char := do
  let code := Text.spelled 16 (← ds.mapM Text.hexDigit?)
  if code.isValidChar then some (Char.ofNat code) else none

/- The character that an escape names, behind its backslash. -/
def escapeAt? : List Char → Option (Char × List Char)
| 'u' :: a :: b :: c :: d :: rest =>
    (coded? [a, b, c, d]).map (·, rest)
| 'U' :: a :: b :: c :: d :: e :: f :: g :: h :: rest =>
    (coded? [a, b, c, d, e, f, g, h]).map (·, rest)
| letter :: rest => (escape? letter).map (·, rest)
| [] => none

/- An escape takes at least one character. -/
theorem length_lt_of_escapeAt?
    {cs rest : List Char}
    {c : Char}
    (h : escapeAt? cs = some (c, rest)) :
    rest.length < cs.length := by
  unfold escapeAt? at h
  split at h <;>
    simp only [Option.map_eq_some_iff, Prod.mk.injEq,
      reduceCtorEq] at h <;>
    obtain ⟨_, _, _, rfl⟩ := h <;>
    simp only [List.length_cons] <;>
    omega

/- A character in front of the text that was read. -/
def pushOnto
    (c : Char) :
    Option (List Char × List Char) → Option (List Char × List Char)
| some (cs, rest) => some (c :: cs, rest)
| none => none

------------------------------------------------------------
-- Strings on one line
------------------------------------------------------------

/- A string with escapes, behind its opening quote. -/
def basicAt? (cs : List Char) : Option (List Char × List Char) :=
  match cs with
  | [] => none
  | '"' :: rest => some ([], rest)
  | '\\' :: rest =>
      match _h : escapeAt? rest with
      | some (c, rest) => pushOnto c (basicAt? rest)
      | none => none
  | c :: rest =>
      if isPlain c then pushOnto c (basicAt? rest) else none
termination_by cs.length
decreasing_by
  · have := length_lt_of_escapeAt? _h
    simp only [List.length_cons]
    omega
  · simp

/- A string without escapes, behind its opening mark. -/
def literalAt? : List Char → Option (List Char × List Char)
| [] => none
| c :: rest =>
    if c = apostrophe then some ([], rest)
    else if isPlain c then pushOnto c (literalAt? rest)
    else none

------------------------------------------------------------
-- Strings on several lines
------------------------------------------------------------

/- The marks, two at most, that stand between a text and its closing marks. -/
def closing
    (mark : Char) :
    List Char → List Char × List Char
| a :: b :: rest =>
    if a = mark ∧ b = mark then ([mark, mark], rest)
    else if a = mark then ([mark], b :: rest)
    else ([], a :: b :: rest)
| [a] => if a = mark then ([mark], []) else ([], [a])
| [] => ([], [])

/- What follows a backslash at the end of a line, and all blanks behind it. -/
def gapAt? (cs : List Char) : Option (List Char) :=
  match cs.dropWhile isSpace with
  | '\n' :: rest => some (rest.dropWhile fun c => isSpace c || c = '\n')
  | _ => none

/- A gap takes at least one character. -/
theorem length_lt_of_gapAt?
    {cs rest : List Char}
    (h : gapAt? cs = some rest) :
    rest.length < cs.length := by
  unfold gapAt? at h
  split at h
  · rename_i behind hDrop
    have hOuter : (cs.dropWhile isSpace).length ≤ cs.length :=
      (List.dropWhile_sublist _).length_le
    have hInner :
        (behind.dropWhile fun c => isSpace c || c = '\n').length ≤
          behind.length :=
      (List.dropWhile_sublist _).length_le
    rw [hDrop] at hOuter
    simp only [Option.some.injEq] at h
    simp only [List.length_cons] at hOuter
    rw [← h]
    omega
  · cases h

/- A string with escapes on several lines. -/
def basicLinesAt? (cs : List Char) : Option (List Char × List Char) :=
  match cs with
  | [] => none
  | '"' :: '"' :: '"' :: rest => some (closing '"' rest)
  | '\\' :: rest =>
      match _hGap : gapAt? rest with
      | some behind => basicLinesAt? behind
      | none =>
          match _hEscape : escapeAt? rest with
          | some (c, behind) => pushOnto c (basicLinesAt? behind)
          | none => none
  | c :: rest =>
      if isPlain c || c = '\n' then
        pushOnto c (basicLinesAt? rest)
      else
        none
termination_by cs.length
decreasing_by
  · have := length_lt_of_gapAt? _hGap
    simp only [List.length_cons]
    omega
  · have := length_lt_of_escapeAt? _hEscape
    simp only [List.length_cons]
    omega
  · simp

/- A string without escapes on several lines. -/
def literalLinesAt? : List Char → Option (List Char × List Char)
| '\x27' :: '\x27' :: '\x27' :: rest =>
    some (closing apostrophe rest)
| c :: rest =>
    if isPlain c || c = '\n' then
      pushOnto c (literalLinesAt? rest)
    else
      none
| [] => none

/- The text behind a line break that directly follows opening marks. -/
def dropBreak : List Char → List Char
| '\n' :: rest => rest
| cs => cs

------------------------------------------------------------
-- Strings of all kinds
------------------------------------------------------------

/- A string on one line, as it may also stand for a key. -/
def lineStringAt? : List Char → Option (List Char × List Char)
| '"' :: rest => basicAt? rest
| '\x27' :: rest => literalAt? rest
| _ => none

/- A string. -/
def stringAt? : List Char → Option (List Char × List Char)
| '"' :: '"' :: '"' :: rest => basicLinesAt? (dropBreak rest)
| '\x27' :: '\x27' :: '\x27' :: rest =>
    literalLinesAt? (dropBreak rest)
| cs => lineStringAt? cs

end Toml

end CaptureLink
