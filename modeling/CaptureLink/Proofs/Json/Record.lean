import CaptureLink.Json.Record
import CaptureLink.Proofs.Json.Layout
import Mathlib.Data.List.Nodup

/-
  Trees that stand for something, and how they survive a
  reader without expectations.  A tree in which every string
  is a text, every numeral a double and no key repeated is
  not changed by settling, and the fields of a record are
  found by their names.

  Main statements:
    * `Json.Tree.Settled.settle?_eq_self`
    * `Json.Tree.settled_record`
    * `Json.Tree.fields?_record`
-/

namespace CaptureLink

namespace Json

namespace Tree

------------------------------------------------------------
-- Settled trees
------------------------------------------------------------

/-
  The tree is as a settled tree of this depth has to be, so
  settling it changes nothing.
-/
inductive Settled : Nat → Tree → Prop where
| null {depth : Nat} : Settled depth .null
| bool {depth : Nat} (b : Bool) : Settled depth (.bool b)
| number
    {depth : Nat}
    {spelling : List Char}
    {x : Binary64}
    (hRead :
      (Numeral.ofChars? spelling).bind Numeral.toBinary64? =
        some x) :
    Settled depth (.number spelling)
| text {depth : Nat} (s : String) : Settled depth (.text s)
| array
    {depth : Nat}
    {items : List Tree}
    (hItems : ∀ t ∈ items, Settled depth t) :
    Settled (depth + 1) (.array items)
| object
    {depth : Nat}
    {members : List (Option String × Tree)}
    (hKeys : ∀ m ∈ members, m.1.isSome = true)
    (hNodup : (members.map Prod.fst).Nodup)
    (hMembers : ∀ m ∈ members, Settled depth m.2) :
    Settled (depth + 1) (.object members)

/- In a settled tree every numeral is one. -/
theorem Settled.legible
    {depth : Nat}
    {t : Tree}
    (hSettled : Settled depth t) :
    t.Legible := by
  induction hSettled with
  | null => exact .null
  | bool b => exact .bool b
  | @number depth spelling x hRead =>
      apply Legible.number
      cases hNumeral : Numeral.ofChars? spelling with
      | none => simp [hNumeral] at hRead
      | some n => rfl
  | text s => exact .string (some s)
  | array _ ih => exact .array ih
  | object _ _ _ ih => exact .object ih

/- Where no key is repeated, every member is the last of its key. -/
theorem lastOfEach_eq_self
    {α : Type}
    {members : List (Option String × α)}
    (hNodup : (members.map Prod.fst).Nodup) :
    lastOfEach members = members := by
  induction members with
  | nil => rfl
  | cons m members ih =>
      rw [List.map_cons, List.nodup_cons] at hNodup
      have hLast : members.any (·.1 == m.1) = false := by
        rw [List.any_eq_false]
        intro m' hm hEq
        apply hNodup.1
        rw [List.mem_map]
        exact ⟨m', hm, by simpa using hEq⟩
      rw [lastOfEach, hLast, ih hNodup.2]
      rfl

theorem mapM_eq_self
    {α : Type}
    {f : α → Option α}
    {xs : List α}
    (hFixed : ∀ x ∈ xs, f x = some x) :
    xs.mapM f = some xs := by
  induction xs with
  | nil => rfl
  | cons x xs ih =>
      rw [List.mapM_cons, hFixed x (by simp),
        ih fun y hy => hFixed y (by simp [hy])]
      rfl

/- Settling a settled tree changes nothing. -/
theorem Settled.settle?_eq_self
    {depth : Nat}
    {t : Tree}
    (hSettled : Settled depth t) :
    t.settle? depth = some t := by
  induction hSettled with
  | null => simp [settle?]
  | bool b => simp [settle?]
  | number hRead => simp only [settle?, hRead]
  | text s => simp [settle?, Tree.text]
  | array _ ih =>
      rw [settle?, mapM_eq_self ih]
      rfl
  | object hKeys hNodup _ ih =>
      rw [settle?, mapM_eq_self]
      · simp [lastOfEach_eq_self hNodup]
      · rintro ⟨key, value⟩ hm
        rcases Option.isSome_iff_exists.mp (hKeys _ hm) with
          ⟨k, rfl⟩
        simp only [Option.bind_eq_bind, Option.bind_some, ih _ hm]

/- A settled tree may nest deeper. -/
theorem Settled.mono
    {depth depth' : Nat}
    {t : Tree}
    (hSettled : Settled depth t)
    (hDepth : depth ≤ depth') :
    Settled depth' t := by
  induction hSettled generalizing depth' with
  | null => exact .null
  | bool b => exact .bool b
  | number hRead => exact .number hRead
  | text s => exact .text s
  | array _ ih =>
      obtain ⟨d, rfl⟩ := Nat.exists_eq_add_of_le hDepth
      rw [Nat.add_right_comm]
      exact .array fun t ht => ih t ht (Nat.le_add_right _ _)
  | object hKeys hNodup _ ih =>
      obtain ⟨d, rfl⟩ := Nat.exists_eq_add_of_le hDepth
      rw [Nat.add_right_comm]
      exact .object hKeys hNodup
        fun m hm => ih m hm (Nat.le_add_right _ _)

------------------------------------------------------------
-- Simple values
------------------------------------------------------------

/- A finite double is written as a settled numeral. -/
theorem settled_real
    {depth : Nat}
    {x : Binary64}
    (hFinite : x.isFinite = true) :
    Settled depth (.real x) := by
  rw [real, if_pos hFinite]
  exact .number (toBinary64?_realText hFinite)

theorem settled_natural
    {depth n : Nat}
    (hn : n < 2 ^ 53) :
    Settled depth (.natural n) := by
  rcases exists_toBinary64?_toDigits hn with ⟨x, hx⟩
  exact .number hx

theorem real?_real
    {x : Binary64}
    (hFinite : x.isFinite = true) :
    (real x).real? = some x := by
  rw [real, if_pos hFinite]
  exact toBinary64?_realText hFinite

theorem word32?_natural (w : UInt32) :
    (natural w.toNat).word32? = some w := by
  have hLt := w.toNat_lt
  simp [natural, word32?, ofChars?_toDigits, Numeral.natural?,
    Nat.ofDigitChars_ten_toDigits, hLt]

------------------------------------------------------------
-- Records
------------------------------------------------------------

/- A record of settled values is settled. -/
theorem settled_record
    {depth : Nat}
    {fields : List (String × Tree)}
    (hNodup : (fields.map Prod.fst).Nodup)
    (hFields : ∀ field ∈ fields, Settled depth field.2) :
    Settled (depth + 1) (.record fields) := by
  apply Settled.object
  · intro m hm
    rcases List.mem_map.mp hm with ⟨field, _, rfl⟩
    rfl
  · rw [List.map_map]
    change (fields.map (some ∘ Prod.fst)).Nodup
    rw [← List.map_map]
    exact hNodup.map (Option.some_injective _)
  · intro m hm
    rcases List.mem_map.mp hm with ⟨field, hField, rfl⟩
    exact hFields field hField

/- The only value of a field is found by its name. -/
theorem valuesOf_eq_lookup
    {fields : List (String × Tree)}
    (hNodup : (fields.map Prod.fst).Nodup)
    (name : String) :
    valuesOf (fields.map fun (key, value) => (some key, value))
      name = (List.lookup name fields).toList := by
  induction fields with
  | nil => rfl
  | cons field fields ih =>
      obtain ⟨key, value⟩ := field
      rw [List.map_cons, List.nodup_cons] at hNodup
      have hRest := ih hNodup.2
      unfold valuesOf at hRest ⊢
      rw [List.map_cons, List.lookup_cons]
      by_cases hKey : name = key
      · subst hKey
        have hNone : List.lookup name fields = none := by
          rw [List.lookup_eq_none_iff]
          intro field hField
          rw [bne_iff_ne]
          rintro rfl
          exact hNodup.1 (List.mem_map.mpr ⟨field, hField, rfl⟩)
        rw [hNone] at hRest
        simp [hRest]
      · have hKey' : ¬key = name := fun h => hKey h.symm
        have hBeq : (name == key) = false := beq_false_of_ne hKey
        simp [hKey', hBeq, hRest]

/- The fields of a record, by their names. -/
theorem fields?_record
    {fields : List (String × Tree)}
    (hNodup : (fields.map Prod.fst).Nodup)
    (names : List String) :
    (record fields).fields? names =
      some (names.map fun name => List.lookup name fields) := by
  have hKeys :
      (fields.map fun (key, value) =>
        ((some key, value) : Option String × Tree)).all
          (·.1.isSome) = true := by
    simp
  have hSingle (found : Option Tree) :
      single? found.toList = some found := by
    cases found <;> rfl
  rw [record, fields?, if_pos hKeys]
  induction names with
  | nil => rfl
  | cons name names ih =>
      rw [List.mapM_cons, ih, valuesOf_eq_lookup hNodup, hSingle]
      rfl

end Tree

end Json

end CaptureLink
