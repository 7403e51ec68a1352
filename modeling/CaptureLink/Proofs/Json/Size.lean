import CaptureLink.Json.Record
import CaptureLink.Text.Utf8
import Mathlib.Tactic.Ring

/-
  How many bytes JSON text takes.  The size of a text between
  quotes is additive, and the size of a record is that of its
  fields and of the signs between them.

  Main statements:
    * `Text.length_bytes_ofList`
    * `Json.spelledSize_append`
    * `Json.Tree.size_text`
    * `Json.Tree.size_record`
    * `Json.Tree.size_natural_le`
-/

namespace CaptureLink

------------------------------------------------------------
-- Characters
------------------------------------------------------------

namespace Text

/- The number of bytes that spell some characters. -/
def weight : List Char → Nat
| [] => 0
| c :: cs => c.utf8Size + weight cs

@[simp] theorem weight_nil : weight [] = 0 :=
  rfl

@[simp] theorem weight_cons
    (c : Char)
    (cs : List Char) :
    weight (c :: cs) = c.utf8Size + weight cs :=
  rfl

@[simp] theorem weight_append (cs ds : List Char) :
    weight (cs ++ ds) = weight cs + weight ds := by
  induction cs with
  | nil => simp
  | cons c cs ih => simp [ih, Nat.add_assoc]

/- The bytes of a text are those of its characters. -/
theorem length_bytes_ofList (cs : List Char) :
    (bytes (String.ofList cs)).length = weight cs := by
  have hSize :
      ∀ s : String, (bytes s).length = s.utf8ByteSize := by
    intro s
    simp [bytes]
  rw [hSize]
  induction cs with
  | nil => simp
  | cons c cs ih =>
      have hSplit :
          String.ofList (c :: cs) =
            String.singleton c ++ String.ofList cs := by
        apply String.toList_injective
        simp
      rw [hSplit, String.utf8ByteSize_append, ih, weight_cons,
        String.utf8ByteSize_singleton]

/- Digits take one byte each. -/
theorem weight_of_digits
    {cs : List Char}
    (hDigits : ∀ c ∈ cs, c.isDigit = true) :
    weight cs = cs.length := by
  induction cs with
  | nil => rfl
  | cons c cs ih =>
      have hSmall : c.utf8Size = 1 := by
        have hDigit := hDigits c List.mem_cons_self
        rw [Char.isDigit, Bool.and_eq_true, decide_eq_true_eq,
          decide_eq_true_eq] at hDigit
        unfold Char.utf8Size
        rw [if_pos]
        exact UInt32.le_trans hDigit.2 (by decide)
      rw [weight_cons, hSmall, List.length_cons, Nat.add_comm,
        ih fun d hMem => hDigits d (List.mem_cons_of_mem _ hMem)]

end Text

namespace Json

open Text

------------------------------------------------------------
-- Texts
------------------------------------------------------------

/- The number of bytes that a text takes inside quotes. -/
def spelledSize (s : String) : Nat :=
  weight (s.toList.flatMap escaped)

/- What stands behind each other adds up. -/
@[simp] theorem spelledSize_append (s t : String) :
    spelledSize (s ++ t) = spelledSize s + spelledSize t := by
  simp only [spelledSize, String.toList_append,
    List.flatMap_append, weight_append]

/- A string token takes two quotes more. -/
theorem weight_stringText (s : String) :
    weight (stringText (some s)) = spelledSize s + 2 := by
  have hQuote : Char.utf8Size '"' = 1 := rfl
  simp only [stringText, quoted, weight_cons, weight_append,
    weight_nil, hQuote, spelledSize]
  omega

namespace Tree

------------------------------------------------------------
-- Values
------------------------------------------------------------

/- The number of bytes that a value takes on one line. -/
def size (t : Tree) : Nat :=
  weight t.compact

@[simp] theorem size_text (s : String) :
    (text s).size = spelledSize s + 2 := by
  simp only [size, compact, text, write, weight_stringText]

/- No truth value takes more than five bytes. -/
theorem size_bool_le (b : Bool) :
    (Tree.bool b).size ≤ 5 := by
  cases b with
  | true => decide
  | false => decide

/- Numbers of 32 bits have ten digits at most. -/
theorem size_natural_le
    {n : Nat}
    (hWord : n < 2 ^ 32) :
    (natural n).size ≤ 10 := by
  have hDigits :
      ∀ c ∈ Nat.toDigits 10 n, c.isDigit = true := fun c hc =>
    Nat.isDigit_of_mem_toDigits (by omega) (by omega) hc
  simp only [size, compact, natural, write,
    weight_of_digits hDigits]
  apply (Nat.length_toDigits_le_iff (by omega) (by omega)).mpr
  omega

------------------------------------------------------------
-- Records
------------------------------------------------------------

/- A field takes a colon, two quotes, and a comma or a bracket. -/
def fieldSize (field : String × Tree) : Nat :=
  spelledSize field.1 + field.2.size + 4

/- The fields of a record, with the commas between them. -/
theorem weight_writeMembers
    (field : String × Tree)
    (fields : List (String × Tree)) :
    weight (writeMembers .compact
        ((field :: fields).map
          fun (name, value) => (some name, value))) + 1 =
      ((field :: fields).map fieldSize).sum := by
  have hColon : weight (Layout.colon .compact) = 1 := rfl
  have hComma : Char.utf8Size ',' = 1 := rfl
  induction fields generalizing field with
  | nil =>
      simp only [List.map_cons, List.map_nil, writeMembers,
        Layout.newline, List.nil_append, weight_append,
        weight_stringText, hColon, List.sum_cons, List.sum_nil,
        fieldSize, size, compact]
      omega
  | cons next fields ih =>
      have hRest := ih next
      simp only [List.map_cons, List.sum_cons] at hRest
      simp only [List.map_cons, writeMembers, Layout.newline,
        List.nil_append, weight_append, weight_cons,
        weight_stringText, hColon, hComma, List.sum_cons,
        fieldSize, size, compact] at hRest ⊢
      omega

/- A record takes its fields and one bracket more. -/
theorem size_record
    {fields : List (String × Tree)}
    (hSome : fields ≠ []) :
    (record fields).size = (fields.map fieldSize).sum + 1 := by
  have hOpen : Char.utf8Size '\x7b' = 1 := rfl
  have hClose : Char.utf8Size '\x7d' = 1 := rfl
  cases fields with
  | nil => exact absurd rfl hSome
  | cons field fields =>
      have hMembers := weight_writeMembers field fields
      rw [List.map_cons] at hMembers
      simp only [size, compact, record, List.map_cons, write,
        Layout.deeper, Layout.newline, List.append_nil,
        weight_cons, weight_append, weight_nil, hOpen,
        hClose] at hMembers ⊢
      omega

end Tree

end Json

end CaptureLink
