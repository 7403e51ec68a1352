import CaptureLink.Proofs.AckTable.History

/-
  What becomes of every message that is waited for.  After
  any history a table holds exactly the records that nothing
  has ended, and whoever wanted to know how waiting ends was
  told once, by the first operation that ended it.

  Main statements:
    * `AckTable.records_run`
    * `AckTable.log_run`
    * `AckTable.fate_of_registrations`
-/

namespace CaptureLink

namespace AckTable

------------------------------------------------------------
-- The table after a history
------------------------------------------------------------

/- A table holds the records that nothing ended, in their order. -/
theorem records_run (ops : List Operation) :
    (run ops).table.records = waiting ops := by
  induction ops using List.reverseRecOn with
  | nil => rfl
  | append_singleton ops op ih =>
      have hApply :=
        records_apply (run ops).place (run ops).table op
      rw [ih, place_run] at hApply
      rw [run_append, waiting_append, ← hApply, ← place_run]
      rfl

/- A record is there if it was registered and nothing ended it. -/
theorem mem_records_run_iff
    {ops : List Operation}
    {r : AckRecord Nat} :
    r ∈ (run ops).table.records ↔
      ∃ i,
        registered? ops i = some r ∧ fateAt ops i r = none := by
  rw [records_run, waiting, List.mem_filterMap]
  constructor
  · rintro ⟨i, _, hWaits⟩
    rcases Option.filter_eq_some_iff.mp hWaits with
      ⟨hRegistered, hFate⟩
    exact ⟨i, hRegistered, Option.isNone_iff_eq_none.mp hFate⟩
  · rintro ⟨i, hRegistered, hFate⟩
    have hPlace : i < ops.length := by
      by_cases hi : i < ops.length
      · exact hi
      · have hNone := registered?_of_le (Nat.le_of_not_lt hi)
        rw [hNone] at hRegistered
        cases hRegistered
    refine ⟨i, List.mem_range.mpr hPlace, ?_⟩
    rw [waits?, Option.filter_eq_some_iff, hFate]
    exact ⟨hRegistered, rfl⟩

------------------------------------------------------------
-- Labels
------------------------------------------------------------

/-
  What is registered is registered by waiting for a message,
  and is labelled with its place, or not at all.
-/
theorem exists_expect_of_registered?
    {ops : List Operation}
    {i : Nat}
    {r : AckRecord Nat}
    (hRegistered : registered? ops i = some r) :
    ∃ continued,
      ops[i]? = some (.expect r.id r.deadline continued) ∧
        r.label = if continued then some i else none := by
  rcases Option.bind_eq_some_iff.mp hRegistered with
    ⟨op, hOp, hRecord⟩
  cases op with
  | expect id deadline continued =>
      cases hRecord
      exact ⟨continued, hOp, rfl⟩
  | acknowledge id => cases hRecord
  | expire now => cases hRecord
  | clear => cases hRecord

/- A label is the place of a registration that is continued. -/
theorem expect_of_label
    {ops : List Operation}
    {i label : Nat}
    {r : AckRecord Nat}
    (hRegistered : registered? ops i = some r)
    (hLabel : r.label = some label) :
    label = i ∧
      ops[i]? = some (.expect r.id r.deadline true) := by
  rcases exists_expect_of_registered? hRegistered with
    ⟨continued, hOp, hPlace⟩
  rw [hLabel] at hPlace
  cases continued with
  | false => cases hPlace
  | true =>
      cases hPlace
      exact ⟨rfl, hOp⟩

/- Where only one place gives something, that is all there is. -/
theorem filterMap_range_of_ne
    {β : Type}
    {g : Nat → Option β}
    {i : Nat}
    (hOther : ∀ j, j ≠ i → g j = none)
    (n : Nat) :
    (List.range n).filterMap g =
      if i < n then (g i).toList else [] := by
  induction n with
  | zero => rfl
  | succ n ih =>
      rw [List.range_succ, List.filterMap_append, ih]
      by_cases hLast : n = i
      · subst hLast
        rw [if_neg (Nat.lt_irrefl _), if_pos (Nat.lt_succ_self _),
          List.nil_append]
        cases hGiven : g n with
        | none => simp [hGiven]
        | some b => simp [hGiven]
      · have hBefore : i < n + 1 ↔ i < n := by
          omega
        simp only [List.filterMap_cons, hOther n hLast,
          List.filterMap_nil, List.append_nil, hBefore]

/- A label finds the registration at its place, if it waits. -/
theorem filter_label_waiting
    (ops : List Operation)
    (i : Nat) :
    (waiting ops).filter (fun r => r.label = some i) =
      ((waits? ops i).filter
        fun r => r.label = some i).toList := by
  have hOther :
      ∀ j, j ≠ i →
        ((waits? ops j).filter fun r => r.label = some i) =
          none := by
    intro j hPlace
    rw [Option.filter_eq_none_iff]
    intro r hWaits hLabel
    rcases Option.filter_eq_some_iff.mp hWaits with
      ⟨hRegistered, _⟩
    exact hPlace
      (expect_of_label hRegistered
        (of_decide_eq_true hLabel)).1.symm
  rw [waiting, List.filter_filterMap,
    filterMap_range_of_ne hOther]
  by_cases hi : i < ops.length
  · rw [if_pos hi]
  · have hNone : waits? ops i = none := by
      rw [waits?, registered?_of_le (Nat.le_of_not_lt hi)]
      rfl
    rw [if_neg hi, hNone]
    rfl

------------------------------------------------------------
-- What is told
------------------------------------------------------------

/- What is told of a registration that meets some fate. -/
def verdict
    (i : Nat) :
    Option (Nat × Ending) → Option Told
| some (during, ending) =>
    ending.outcome?.map fun outcome =>
      ⟨during, ⟨i, outcome⟩⟩
| none => none

/- What is told of the registration at a place, if anybody asks. -/
def toldAt?
    (ops : List Operation)
    (i : Nat) : Option Told := do
  let r ← registered? ops i
  let _ ← r.label
  verdict i (fateAt ops i r)

/- What a record tells carries the label of the record. -/
theorem label_of_told?
    {op : Operation}
    {r : AckRecord Nat}
    {settlement : Settlement Nat}
    (hTold : told? op r = some settlement) :
    r.label = some settlement.label := by
  rcases Option.bind_eq_some_iff.mp hTold with
    ⟨ending, _, hEnding⟩
  rcases Option.bind_eq_some_iff.mp hEnding with
    ⟨outcome, _, hSettle⟩
  rcases Option.map_eq_some_iff.mp hSettle with
    ⟨label, hLabel, hSettlement⟩
  rw [hLabel, ← hSettlement]

/-
  What is told under a label is told by records with this
  label, if every record tells of its own.
-/
theorem filter_label_told
    {κ : Type}
    [DecidableEq κ]
    {tell : AckRecord κ → Option (Settlement κ)}
    (hTell :
      ∀ r settlement,
        tell r = some settlement →
          r.label = some settlement.label)
    (records : List (AckRecord κ))
    (label : κ) :
    (records.filterMap tell).filter (·.label = label) =
      (records.filter (fun r => r.label = some label)).filterMap
        tell := by
  induction records with
  | nil => rfl
  | cons r records ih =>
      cases hTold : tell r with
      | none =>
          rw [List.filterMap_cons_none hTold, ih]
          by_cases hLabel : r.label = some label
          · simp [hLabel, hTold]
          · simp [hLabel]
      | some settlement =>
          have hLabel := hTell r settlement hTold
          rw [List.filterMap_cons_some hTold]
          by_cases hSame : settlement.label = label
          · have hSome : r.label = some label := by
              rw [hLabel, hSame]
            simp [hSame, hSome, hTold, ih]
          · have hOther : r.label ≠ some label := by
              rw [hLabel]
              intro hEq
              exact hSame (Option.some.inj hEq)
            simp [hSame, hOther, ih]

/- Nothing is told of what is registered last, or later. -/
theorem toldAt?_append_of_le
    {ops : List Operation}
    {i : Nat}
    (op : Operation)
    (hi : ops.length ≤ i) :
    toldAt? (ops ++ [op]) i = none := by
  unfold toldAt?
  rcases Nat.eq_or_lt_of_le hi with hEq | hLt
  · subst hEq
    rw [registered?_append_length]
    cases op.record? ops.length with
    | none => rfl
    | some r =>
        simp only [fateAt_append_length, verdict,
          Option.bind_eq_bind, Option.bind_some]
        cases r.label with
        | none => rfl
        | some label => rfl
  · have hBehind : (ops ++ [op]).length ≤ i := by
      rw [List.length_append, List.length_singleton]
      exact hLt
    rw [registered?_of_le hBehind]
    rfl

/-
  With one more operation of a history there is told what was
  told before, and then what the operation tells of the
  record, if it still waits.
-/
theorem toldAt?_append_of_lt
    {ops : List Operation}
    {i : Nat}
    (op : Operation)
    (hi : i < ops.length) :
    (toldAt? (ops ++ [op]) i).toList =
      (toldAt? ops i).toList ++
        ((((waits? ops i).filter fun r => r.label = some i).toList
          ).filterMap (told? op)).map fun settlement =>
            ⟨ops.length, settlement⟩ := by
  unfold toldAt?
  rw [registered?_append_of_lt op hi]
  cases hRegistered : registered? ops i with
  | none => simp [waits?, hRegistered]
  | some r =>
      simp only [Option.bind_eq_bind, Option.bind_some,
        fateAt_append_of_lt op r hi]
      cases hFate : fateAt ops i r with
      | some ended =>
          rw [waits?_of_ended hRegistered hFate]
          simp
      | none =>
          rw [waits?_of_waiting hRegistered hFate,
            Option.filter_some]
          cases hLabel : r.label with
          | none => simp
          | some label =>
              have hSame := (expect_of_label hRegistered hLabel).1
              subst hSame
              cases hEnding : op.ending? r.id r.deadline with
              | none => simp [verdict, told?, hEnding]
              | some ending =>
                  cases ending with
                  | acknowledged =>
                      simp [verdict, told?, hEnding, hLabel,
                        Ending.outcome?, AckRecord.settle]
                  | timedOut =>
                      simp [verdict, told?, hEnding, hLabel,
                        Ending.outcome?, AckRecord.settle]
                  | forgotten =>
                      simp [verdict, told?, hEnding,
                        Ending.outcome?]

/-
  Of every registration there is told what its fate is, by
  the operation that ends it, and nothing else.
-/
theorem log_run
    (ops : List Operation)
    (i : Nat) :
    (run ops).log.filter (·.settlement.label = i) =
      (toldAt? ops i).toList := by
  induction ops using List.reverseRecOn with
  | nil => rfl
  | append_singleton ops op ih =>
      have hLog :
          (run (ops ++ [op])).log =
            (run ops).log ++
              ((waiting ops).filterMap (told? op)).map
                fun settlement =>
                  ⟨ops.length, settlement⟩ := by
        rw [run_append, ← records_run, ← told_apply,
          ← place_run]
        rfl
      have hLast :
          (((waiting ops).filterMap (told? op)).map
              fun settlement =>
                (⟨ops.length, settlement⟩ : Told)).filter
              (·.settlement.label = i) =
            (((waits? ops i).filter fun r =>
              r.label = some i).toList.filterMap (told? op)).map
                fun settlement =>
                  ⟨ops.length, settlement⟩ := by
        rw [List.filter_map, ← filter_label_waiting,
          ← filter_label_told fun _ _ => label_of_told?]
        rfl
      rw [hLog, List.filter_append, ih, hLast]
      by_cases hi : i < ops.length
      · rw [toldAt?_append_of_lt op hi]
      · have hBehind : ops.length ≤ i := Nat.le_of_not_lt hi
        have hNone := registered?_of_le hBehind
        rw [toldAt?_append_of_le op hBehind]
        simp [toldAt?, waits?, hNone]

------------------------------------------------------------
-- Answers
------------------------------------------------------------

/- An acknowledgment is expected exactly if the message waits. -/
theorem acknowledge_eq_pending
    {κ : Type}
    (t : AckTable κ)
    (id : String) :
    (t.acknowledge id).2.2 = t.pending id := by
  unfold acknowledge pending
  cases t.find? id with
  | none => rfl
  | some r => rfl

/- A message waits if one of its registrations was never ended. -/
theorem pending_run_iff
    (ops : List Operation)
    (id : String) :
    (run ops).table.pending id = true ↔
      ∃ i deadline continued,
        ops[i]? = some (.expect id deadline continued) ∧
          fate id deadline (i + 1) (ops.drop (i + 1)) = none := by
  unfold pending find?
  rw [List.find?_isSome]
  constructor
  · rintro ⟨r, hMem, hId⟩
    rcases mem_records_run_iff.mp hMem with
      ⟨i, hRegistered, hFate⟩
    rcases exists_expect_of_registered? hRegistered with
      ⟨continued, hOp, _⟩
    have hSame : r.id = id := of_decide_eq_true hId
    subst hSame
    exact ⟨i, r.deadline, continued, hOp, hFate⟩
  · rintro ⟨i, deadline, continued, hOp, hFate⟩
    have hRegistered :
        registered? ops i =
          some
            ⟨id, deadline, if continued then some i else none⟩ := by
      rw [registered?, hOp]
      rfl
    exact
      ⟨_, mem_records_run_iff.mpr ⟨i, hRegistered, hFate⟩,
        decide_eq_true rfl⟩

/- The records that are given up and those that stay are all. -/
theorem size_expire
    {κ : Type}
    (t : AckTable κ)
    (now : Nat) :
    (t.expire now).1.size + (t.expire now).2.2 = t.size := by
  simp only [expire, filter, size]
  rw [Nat.add_comm]
  exact (List.length_eq_length_filter_add _).symm

/- As many wait as there are registrations that nothing ended. -/
theorem size_run (ops : List Operation) :
    (run ops).table.size =
      (List.range ops.length).countP fun i =>
        (waits? ops i).isSome := by
  rw [size, records_run, waiting, List.length_filterMap_eq_countP]

/- As many are given up as there are of these that are due. -/
theorem count_expire_run
    (ops : List Operation)
    (now : Nat) :
    ((run ops).table.expire now).2.2 =
      (List.range ops.length).countP fun i =>
        (waits? ops i).any (·.due now) := by
  simp only [expire]
  rw [records_run, waiting, ← List.countP_eq_length_filter,
    List.countP_filterMap]
  congr 1
  funext i
  cases waits? ops i with
  | none => rfl
  | some r => rfl

------------------------------------------------------------
-- Every registration
------------------------------------------------------------

/-
  After every history, whoever registered for a message was
  told at most once how waiting ended: by the first operation
  behind the registration that ended it, if this was the
  acknowledgment or the end of the deadline.  Nobody else was
  told anything.  A message waits, and so its acknowledgment
  is expected, exactly if one of its registrations was not
  ended.  To give up on messages gives the number of those
  that are removed, which are those that are due, and the
  size is the number of registrations that were not ended.
-/
theorem fate_of_registrations (ops : List Operation) :
    (∀ i id deadline,
      ops[i]? = some (.expect id deadline true) →
        (run ops).log.filter (·.settlement.label = i) =
          match fate id deadline (i + 1) (ops.drop (i + 1)) with
          | some (during, .acknowledged) =>
              [⟨during, ⟨i, .acknowledged⟩⟩]
          | some (during, .timedOut) =>
              [⟨during, ⟨i, .timedOut⟩⟩]
          | _ => []) ∧
    (∀ told ∈ (run ops).log, ∃ id deadline,
      ops[told.settlement.label]? =
        some (.expect id deadline true)) ∧
    (∀ id,
      ((run ops).table.acknowledge id).2.2 =
          (run ops).table.pending id ∧
        ((run ops).table.pending id = true ↔
          ∃ i deadline continued,
            ops[i]? = some (.expect id deadline continued) ∧
              fate id deadline (i + 1) (ops.drop (i + 1)) =
                none)) ∧
    (∀ now,
      ((run ops).table.expire now).1.size +
            ((run ops).table.expire now).2.2 =
          (run ops).table.size ∧
        ((run ops).table.expire now).2.2 =
          (List.range ops.length).countP fun i =>
            (waits? ops i).any (·.due now)) ∧
    (run ops).table.size =
      (List.range ops.length).countP fun i =>
        (waits? ops i).isSome := by
  refine ⟨?_, ?_, ?_, ?_, size_run ops⟩
  · intro i id deadline hOp
    have hTold :
        toldAt? ops i =
          verdict i
            (fate id deadline (i + 1) (ops.drop (i + 1))) := by
      unfold toldAt? registered?
      rw [hOp]
      rfl
    rw [log_run, hTold]
    cases fate id deadline (i + 1) (ops.drop (i + 1)) with
    | none => rfl
    | some ended =>
        obtain ⟨during, ending⟩ := ended
        cases ending with
        | acknowledged => rfl
        | timedOut => rfl
        | forgotten => rfl
  · intro told hMem
    have hFilter :
        told ∈ (run ops).log.filter
          (·.settlement.label = told.settlement.label) :=
      List.mem_filter.mpr ⟨hMem, decide_eq_true rfl⟩
    rw [log_run, Option.mem_toList] at hFilter
    rcases Option.bind_eq_some_iff.mp hFilter with
      ⟨r, hRegistered, hRest⟩
    rcases Option.bind_eq_some_iff.mp hRest with
      ⟨label, hLabel, _⟩
    exact ⟨r.id, r.deadline,
      (expect_of_label hRegistered hLabel).2⟩
  · intro id
    exact
      ⟨acknowledge_eq_pending _ id, pending_run_iff ops id⟩
  · intro now
    exact ⟨size_expire _ now, count_expire_run ops now⟩

/-
  A registration with a deadline is replaced, its deadline
  passes, and the acknowledgment is for the later one.
-/
theorem fate_of_registrations_replaced :
    let ops : List Operation :=
      [ .expect "m" (some 5) true,
        .expect "m" none true,
        .expire 9,
        .acknowledge "m" ]
    (run ops).log.filter (·.settlement.label = 0) = [] ∧
      (run ops).log.filter (·.settlement.label = 1) =
        [⟨3, ⟨1, .acknowledged⟩⟩] :=
  ⟨(fate_of_registrations _).1 0 "m" (some 5) rfl,
    (fate_of_registrations _).1 1 "m" none rfl⟩

end AckTable

end CaptureLink
