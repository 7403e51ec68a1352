import CaptureLink.Proofs.Json.Record

/-
  What settling makes of a tree.  It succeeds where every
  string is a text, every numeral a double, and containers do
  not nest too deep.  What comes out is settled, and so every
  object that comes out is a record.

  Main statements:
    * `Json.Tree.Ordinary`
    * `Json.Tree.isSome_settle?_iff`
    * `Json.Tree.settled_of_settle?`
    * `Json.Tree.exists_record_of_settle?`
-/

namespace CaptureLink

namespace Json

namespace Tree

------------------------------------------------------------
-- Trees that can be settled
------------------------------------------------------------

/-
  The tree is within the limits of a reader without
  expectations.  Keys may be repeated.
-/
inductive Ordinary : Nat → Tree → Prop where
| null {depth : Nat} : Ordinary depth .null
| bool {depth : Nat} (b : Bool) : Ordinary depth (.bool b)
| number
    {depth : Nat}
    {spelling : List Char}
    (hRead :
      ((Numeral.ofChars? spelling).bind
        Numeral.toBinary64?).isSome = true) :
    Ordinary depth (.number spelling)
| text {depth : Nat} (s : String) : Ordinary depth (.text s)
| array
    {depth : Nat}
    {items : List Tree}
    (hItems : ∀ t ∈ items, Ordinary depth t) :
    Ordinary (depth + 1) (.array items)
| object
    {depth : Nat}
    {members : List (Option String × Tree)}
    (hKeys : ∀ m ∈ members, m.1.isSome = true)
    (hMembers : ∀ m ∈ members, Ordinary depth m.2) :
    Ordinary (depth + 1) (.object members)

/- All results are there exactly if each is. -/
theorem isSome_mapM_iff
    {α β : Type}
    {f : α → Option β}
    {xs : List α} :
    (xs.mapM f).isSome = true ↔
      ∀ x ∈ xs, (f x).isSome = true := by
  induction xs with
  | nil => simp
  | cons x xs ih =>
      rw [List.forall_mem_cons, ← ih, List.mapM_cons]
      cases f x with
      | none => simp
      | some y => cases xs.mapM f with
        | none => simp
        | some ys => simp

/- Each result is the result of something. -/
theorem exists_of_mem_mapM
    {α β : Type}
    {f : α → Option β}
    {xs : List α}
    {ys : List β}
    {y : β}
    (hMap : xs.mapM f = some ys)
    (hMem : y ∈ ys) :
    ∃ x ∈ xs, f x = some y := by
  induction xs generalizing ys with
  | nil =>
      cases hMap
      cases hMem
  | cons x xs ih =>
      rw [List.mapM_cons] at hMap
      simp only [Option.bind_eq_bind, Option.bind_eq_some_iff]
        at hMap
      rcases hMap with ⟨z, hFirst, zs, hRest, hSome⟩
      cases hSome
      rcases List.mem_cons.mp hMem with rfl | hMem
      · exact ⟨x, List.mem_cons_self, hFirst⟩
      · rcases ih hRest hMem with ⟨x', hx', hResult⟩
        exact ⟨x', List.mem_cons_of_mem _ hx', hResult⟩

/- One member of an object, settled. -/
def settleMember?
    (depth : Nat)
    (m : Option String × Tree) :
    Option (Option String × Tree) := do
  let key ← m.1
  let value ← settle? depth m.2
  some (some key, value)

/- An object is settled member by member. -/
theorem settle?_object
    (depth : Nat)
    (members : List (Option String × Tree)) :
    settle? (depth + 1) (.object members) =
      (members.mapM (settleMember? depth)).map fun settled =>
        .object (lastOfEach settled) := by
  rw [settle?, Option.map_eq_bind]
  rfl

theorem isSome_settleMember?_iff
    (depth : Nat)
    (m : Option String × Tree) :
    (settleMember? depth m).isSome = true ↔
      m.1.isSome = true ∧ (settle? depth m.2).isSome = true := by
  obtain ⟨key, value⟩ := m
  cases key with
  | none => simp [settleMember?]
  | some key =>
      cases hValue : settle? depth value with
      | none => simp [settleMember?, hValue]
      | some value' => simp [settleMember?, hValue]

------------------------------------------------------------
-- Last members
------------------------------------------------------------

/- The last members of all keys are some of the members. -/
theorem lastOfEach_sublist
    {α : Type}
    (members : List (Option String × α)) :
    (lastOfEach members).Sublist members := by
  induction members with
  | nil => exact .slnil
  | cons m members ih =>
      rw [lastOfEach]
      split
      · exact ih.cons m
      · exact ih.cons_cons m

/- Of each key only one is the last. -/
theorem nodup_lastOfEach
    {α : Type}
    (members : List (Option String × α)) :
    ((lastOfEach members).map Prod.fst).Nodup := by
  induction members with
  | nil => exact List.nodup_nil
  | cons m members ih =>
      rw [lastOfEach]
      split
      · exact ih
      · rename_i hLast
        rw [List.map_cons, List.nodup_cons]
        refine ⟨?_, ih⟩
        intro hMem
        rcases List.mem_map.mp hMem with ⟨m', hm', hKey⟩
        apply hLast
        rw [List.any_eq_true]
        exact ⟨m', (lastOfEach_sublist members).subset hm',
          beq_iff_eq.mpr hKey⟩

------------------------------------------------------------
-- What is settled
------------------------------------------------------------

/- Only what is ordinary can be settled, and then it is settled. -/
def Settles
    (depth : Nat)
    (t t' : Tree) : Prop :=
  t.settle? depth = some t' → Ordinary depth t ∧ Settled depth t'

/- This holds of an array if it holds of the items. -/
theorem settles_array
    {depth : Nat}
    {items : List Tree}
    {t' : Tree}
    (hInside : ∀ u u', Settles depth u u') :
    Settles (depth + 1) (.array items) t' := by
  intro hSettle
  rw [settle?, Option.map_eq_some_iff] at hSettle
  rcases hSettle with ⟨settled, hItems, rfl⟩
  have hEach :=
    isSome_mapM_iff.mp (Option.isSome_of_eq_some hItems)
  constructor
  · apply Ordinary.array
    intro u hMem
    rcases Option.isSome_iff_exists.mp (hEach u hMem) with
      ⟨u', hItem⟩
    exact (hInside u u' hItem).1
  · apply Settled.array
    intro u' hMem
    rcases exists_of_mem_mapM hItems hMem with ⟨u, _, hItem⟩
    exact (hInside u u' hItem).2

/- It holds of an object if it holds of the values. -/
theorem settles_object
    {depth : Nat}
    {members : List (Option String × Tree)}
    {t' : Tree}
    (hInside : ∀ u u', Settles depth u u') :
    Settles (depth + 1) (.object members) t' := by
  intro hSettle
  rw [settle?_object, Option.map_eq_some_iff] at hSettle
  rcases hSettle with ⟨settled, hMembers, rfl⟩
  have hEach :=
    isSome_mapM_iff.mp (Option.isSome_of_eq_some hMembers)
  simp only [isSome_settleMember?_iff] at hEach
  have hSettled :
      ∀ m ∈ lastOfEach settled,
        m.1.isSome = true ∧ Settled depth m.2 := by
    intro m hMem
    have hMem' := (lastOfEach_sublist settled).subset hMem
    rcases exists_of_mem_mapM hMembers hMem' with
      ⟨⟨key, value⟩, _, hMember⟩
    simp only [settleMember?, Option.bind_eq_bind,
      Option.bind_eq_some_iff, Option.some.injEq] at hMember
    rcases hMember with ⟨k, _, v, hValue, rfl⟩
    exact ⟨rfl, (hInside value v hValue).2⟩
  constructor
  · apply Ordinary.object fun m hMem => (hEach m hMem).1
    intro m hMem
    rcases Option.isSome_iff_exists.mp (hEach m hMem).2 with
      ⟨v, hValue⟩
    exact (hInside m.2 v hValue).1
  · exact .object (fun m hMem => (hSettled m hMem).1)
      (nodup_lastOfEach settled)
      fun m hMem => (hSettled m hMem).2

/- It holds of a value that is no container. -/
theorem settles_scalar
    {depth : Nat}
    {t t' : Tree}
    (hArray : ∀ items, t ≠ .array items)
    (hObject : ∀ members, t ≠ .object members) :
    Settles depth t t' := by
  intro hSettle
  cases t with
  | null =>
      simp only [settle?, Option.some.injEq] at hSettle
      exact hSettle ▸ ⟨.null, .null⟩
  | bool b =>
      simp only [settle?, Option.some.injEq] at hSettle
      exact hSettle ▸ ⟨.bool b, .bool b⟩
  | number spelling =>
      cases hRead :
          (Numeral.ofChars? spelling).bind
            Numeral.toBinary64? with
      | none =>
          simp only [settle?, hRead, reduceCtorEq] at hSettle
      | some x =>
          simp only [settle?, hRead, Option.some.injEq]
            at hSettle
          subst hSettle
          refine ⟨.number ?_, .number hRead⟩
          rw [hRead, Option.isSome_some]
  | string text =>
      simp only [settle?, Option.map_eq_some_iff] at hSettle
      rcases hSettle with ⟨s, rfl, rfl⟩
      exact ⟨.text s, .text s⟩
  | array items => exact absurd rfl (hArray items)
  | object members => exact absurd rfl (hObject members)

/- So it holds of all trees. -/
theorem settled_of_settle? :
    ∀ {depth : Nat} {t t' : Tree}, Settles depth t t' := by
  intro depth
  induction depth with
  | zero =>
      intro t t'
      cases t with
      | array items =>
          intro hSettle
          cases hSettle
      | object members =>
          intro hSettle
          cases hSettle
      | _ =>
          apply settles_scalar
          · intro _ hEq
            cases hEq
          · intro _ hEq
            cases hEq
  | succ depth ih =>
      intro t t'
      cases t with
      | array items => exact settles_array fun u u' => ih
      | object members => exact settles_object fun u u' => ih
      | _ =>
          apply settles_scalar
          · intro _ hEq
            cases hEq
          · intro _ hEq
            cases hEq

/- Exactly the ordinary trees can be settled. -/
theorem isSome_settle?_iff
    (depth : Nat)
    (t : Tree) :
    (t.settle? depth).isSome = true ↔ Ordinary depth t := by
  constructor
  · intro hSome
    rcases Option.isSome_iff_exists.mp hSome with ⟨t', hSettle⟩
    exact (settled_of_settle? hSettle).1
  · intro hOrdinary
    induction hOrdinary with
    | null => rw [settle?, Option.isSome_some]
    | bool b => rw [settle?, Option.isSome_some]
    | number hRead =>
        rcases Option.isSome_iff_exists.mp hRead with ⟨x, hx⟩
        simp only [settle?, hx, Option.isSome_some]
    | text s =>
        simp only [Tree.text, settle?, Option.map_some,
          Option.isSome_some]
    | array _ ih =>
        rw [settle?, Option.isSome_map, isSome_mapM_iff]
        exact ih
    | object hKeys _ ih =>
        rw [settle?_object, Option.isSome_map, isSome_mapM_iff]
        intro m hm
        rw [isSome_settleMember?_iff]
        exact ⟨hKeys m hm, ih m hm⟩

------------------------------------------------------------
-- Records
------------------------------------------------------------

/- Where every key is a text, the members are those of a record. -/
theorem exists_fields
    {members : List (Option String × Tree)}
    (hKeys : ∀ m ∈ members, m.1.isSome = true) :
    ∃ fields : List (String × Tree),
      fields.map (fun field => (some field.1, field.2)) =
        members := by
  induction members with
  | nil => exact ⟨[], rfl⟩
  | cons m members ih =>
      obtain ⟨key, value⟩ := m
      rw [List.forall_mem_cons] at hKeys
      rcases Option.isSome_iff_exists.mp hKeys.1 with ⟨name, rfl⟩
      rcases ih hKeys.2 with ⟨fields, rfl⟩
      exact ⟨(name, value) :: fields, rfl⟩

/- An object that is settled is a record without repeated fields. -/
theorem exists_record_of_settled
    {depth : Nat}
    {members : List (Option String × Tree)}
    (hSettled : Settled depth (.object members)) :
    ∃ fields,
      Tree.object members = .record fields ∧
        (fields.map Prod.fst).Nodup := by
  cases hSettled with
  | object hKeys hNodup _ =>
      rcases exists_fields hKeys with ⟨fields, rfl⟩
      refine ⟨fields, rfl, ?_⟩
      rw [List.map_map] at hNodup
      exact List.Nodup.of_map some (by rwa [List.map_map])

/- So what an object becomes is a record. -/
theorem exists_record_of_settle?
    {depth : Nat}
    {members : List (Option String × Tree)}
    (hOrdinary : Ordinary depth (.object members)) :
    ∃ fields,
      (Tree.object members).settle? depth =
          some (.record fields) ∧
        (fields.map Prod.fst).Nodup := by
  rcases Option.isSome_iff_exists.mp
      ((isSome_settle?_iff depth _).mpr hOrdinary) with
    ⟨t, hSettle⟩
  have hSettled := (settled_of_settle? hSettle).2
  cases hOrdinary with
  | object hKeys hMembers =>
      rw [settle?_object, Option.map_eq_some_iff] at hSettle
      rcases hSettle with ⟨settled, hMap, rfl⟩
      rcases exists_record_of_settled hSettled with
        ⟨fields, hRecord, hNodup⟩
      refine ⟨fields, ?_, hNodup⟩
      rw [settle?_object, hMap, Option.map_some, hRecord]

end Tree

end Json

end CaptureLink
