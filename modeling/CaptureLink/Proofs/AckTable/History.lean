import CaptureLink.AckTable
import Mathlib.Data.List.Basic
import Mathlib.Data.List.Induction

/-
  Histories of a table of acknowledgments.  A history says
  what was done with the table, and alone decides what becomes
  of every message: waiting for it ends with the first
  operation that concerns it.

  Main statements:
    * `AckTable.Operation`
    * `AckTable.fate`
    * `AckTable.run`
    * `AckTable.records_apply`
    * `AckTable.told_apply`
    * `AckTable.waiting_append`
-/

namespace CaptureLink

namespace AckTable

------------------------------------------------------------
-- Operations
------------------------------------------------------------

/- What can be done with a table. -/
inductive Operation where
/- Wait for a message, and tell how this ends if `continued`. -/
| expect (id : String) (deadline : Option Nat) (continued : Bool)
| acknowledge (id : String)
| expire (now : Nat)
/- Nothing is waited for any longer. -/
| clear
deriving DecidableEq, Repr

/- How waiting for a message ends. -/
inductive Ending where
| acknowledged
| timedOut
/- The message is waited for anew, or the table was cleared. -/
| forgotten
deriving DecidableEq, Repr

/- What is told then; nothing is when the message is forgotten. -/
def Ending.outcome? : Ending → Option AckOutcome
| .acknowledged => some .acknowledged
| .timedOut => some .timedOut
| .forgotten => none

namespace Operation

/- How the operation ends waiting for a message, if it does. -/
def ending?
    (id : String)
    (deadline : Option Nat) :
    Operation → Option Ending
| .expect id' _ _ =>
    if id' = id then some .forgotten else none
| .acknowledge id' =>
    if id' = id then some .acknowledged else none
| .expire now =>
    match deadline with
    | some deadline =>
        if deadline ≤ now then some .timedOut else none
    | none => none
| .clear => some .forgotten

/-
  The record that the operation at `place` of a history makes.
  The place is its label, so no two of them are confused.
-/
def record?
    (place : Nat) :
    Operation → Option (AckRecord Nat)
| .expect id deadline continued =>
    some
      ⟨id, deadline, if continued then some place else none⟩
| _ => none

end Operation

/-
  The first of some operations, counted from `place`, that
  ends waiting for a message, and how it ends it.
-/
def fate
    (id : String)
    (deadline : Option Nat)
    (place : Nat) :
    List Operation → Option (Nat × Ending)
| [] => none
| op :: ops =>
    match op.ending? id deadline with
    | some ending => some (place, ending)
    | none => fate id deadline (place + 1) ops

------------------------------------------------------------
-- Runs
------------------------------------------------------------

/- The table after the operation at `place`, and what was told. -/
def apply
    (place : Nat)
    (t : AckTable Nat) :
    Operation → AckTable Nat × List (Settlement Nat)
| .expect id deadline continued =>
    ( t.expect
        ⟨id, deadline, if continued then some place else none⟩,
      [] )
| .acknowledge id =>
    ((t.acknowledge id).1, (t.acknowledge id).2.1)
| .expire now => ((t.expire now).1, (t.expire now).2.1)
| .clear => (.empty, [])

/- Something was told, and during which operation. -/
structure Told where
  during : Nat
  settlement : Settlement Nat
deriving DecidableEq, Repr

/- How many operations there were, the table, and what was told. -/
structure Run where
  place : Nat
  table : AckTable Nat
  log : List Told

/- One more operation. -/
def Run.step
    (r : Run)
    (op : Operation) : Run where
  place := r.place + 1
  table := (r.table.apply r.place op).1
  log :=
    r.log ++ (r.table.apply r.place op).2.map fun settlement =>
      ⟨r.place, settlement⟩

/- All operations of a history, on an empty table. -/
def run (ops : List Operation) : Run :=
  ops.foldl Run.step ⟨0, .empty, []⟩

/- A history that goes on. -/
theorem run_append
    (ops : List Operation)
    (op : Operation) :
    run (ops ++ [op]) = (run ops).step op := by
  simp only [run, List.foldl_append, List.foldl_cons,
    List.foldl_nil]

/- The place is the number of operations. -/
theorem place_run (ops : List Operation) :
    (run ops).place = ops.length := by
  induction ops using List.reverseRecOn with
  | nil => rfl
  | append_singleton ops op ih =>
      rw [run_append, List.length_append, List.length_singleton,
        ← ih]
      rfl

------------------------------------------------------------
-- One operation
------------------------------------------------------------

/- A table has at most one record of a message. -/
theorem filter_id_eq_find?
    {κ : Type}
    (t : AckTable κ)
    (id : String) :
    t.records.filter (·.id = id) = (t.find? id).toList := by
  obtain ⟨records, hNodup⟩ := t
  simp only [find?]
  induction records with
  | nil => rfl
  | cons r records ih =>
      rw [List.map_cons, List.nodup_cons] at hNodup
      rcases hNodup with ⟨hFirst, hRest⟩
      by_cases hId : r.id = id
      · have hNone : records.filter (·.id = id) = [] := by
          rw [List.filter_eq_nil_iff]
          intro r' hMem hId'
          rw [decide_eq_true_eq] at hId'
          apply hFirst
          rw [hId, ← hId']
          exact List.mem_map_of_mem hMem
        simp [hId, hNone]
      · simpa [hId] using ih hRest

/- After an acknowledgment the message waits no more. -/
theorem records_acknowledge
    {κ : Type}
    (t : AckTable κ)
    (id : String) :
    (t.acknowledge id).1.records =
      t.records.filter (·.id ≠ id) := by
  unfold acknowledge
  cases hFind : t.find? id with
  | some r => rfl
  | none =>
      have hNone := filter_id_eq_find? t id
      rw [hFind, Option.toList_none, List.filter_eq_nil_iff]
        at hNone
      symm
      rw [List.filter_eq_self]
      intro r hMem
      simpa using hNone r hMem

/- What is told then is what the records of the message have to tell. -/
theorem settlements_acknowledge
    {κ : Type}
    (t : AckTable κ)
    (id : String) :
    (t.acknowledge id).2.1 =
      (t.records.filter (·.id = id)).filterMap
        (·.settle .acknowledged) := by
  rw [filter_id_eq_find?]
  unfold acknowledge
  cases t.find? id with
  | none => rfl
  | some r =>
      cases hSettle : r.settle .acknowledged with
      | none => simp [hSettle]
      | some settlement => simp [hSettle]

/- What a record has to tell when it is ended. -/
def told?
    (op : Operation)
    (r : AckRecord Nat) : Option (Settlement Nat) := do
  let ending ← op.ending? r.id r.deadline
  let outcome ← ending.outcome?
  r.settle outcome

/- Waiting for the message goes on. -/
def survives
    (op : Operation)
    (r : AckRecord Nat) : Bool :=
  (op.ending? r.id r.deadline).isNone

/-
  An operation removes the records that it ends, keeps the
  others in their order, and puts a new one behind them.
-/
theorem records_apply
    (place : Nat)
    (t : AckTable Nat)
    (op : Operation) :
    (t.apply place op).1.records =
      t.records.filter (survives op) ++
        (op.record? place).toList := by
  cases op with
  | expect id deadline continued =>
      simp only [apply, expect, erase, filter, Operation.record?,
        Option.toList_some]
      congr 1
      apply List.filter_congr
      intro r _
      by_cases hId : id = r.id
      · simp [survives, Operation.ending?, hId]
      · simp [survives, Operation.ending?, hId, eq_comm]
  | acknowledge id =>
      simp only [apply, records_acknowledge, Operation.record?,
        Option.toList_none, List.append_nil]
      apply List.filter_congr
      intro r _
      by_cases hId : id = r.id
      · simp [survives, Operation.ending?, hId]
      · simp [survives, Operation.ending?, hId, eq_comm]
  | expire now =>
      simp only [apply, expire, filter, Operation.record?,
        Option.toList_none, List.append_nil]
      apply List.filter_congr
      intro r _
      cases hDeadline : r.deadline with
      | none =>
          simp [AckRecord.due, survives, Operation.ending?,
            hDeadline]
      | some deadline =>
          by_cases hDue : deadline ≤ now
          · simp [AckRecord.due, survives, Operation.ending?,
              hDeadline, hDue]
          · simp [AckRecord.due, survives, Operation.ending?,
              hDeadline, hDue]
  | clear =>
      simp only [apply, empty, Operation.record?,
        Option.toList_none, List.append_nil]
      symm
      rw [List.filter_eq_nil_iff]
      intro r _
      simp [survives, Operation.ending?]

/- An operation tells what the records it ends have to tell. -/
theorem told_apply
    (place : Nat)
    (t : AckTable Nat)
    (op : Operation) :
    (t.apply place op).2 = t.records.filterMap (told? op) := by
  cases op with
  | expect id deadline continued =>
      symm
      simp only [apply]
      rw [List.filterMap_eq_nil_iff]
      intro r _
      by_cases hId : id = r.id
      · simp [told?, Operation.ending?, Ending.outcome?, hId]
      · simp [told?, Operation.ending?, hId]
  | acknowledge id =>
      simp only [apply, settlements_acknowledge]
      rw [List.filterMap_filter]
      congr 1
      funext r
      by_cases hId : id = r.id
      · simp [told?, Operation.ending?, Ending.outcome?, hId]
      · simp [told?, Operation.ending?, hId, eq_comm]
  | expire now =>
      simp only [apply, expire]
      rw [List.filterMap_filter]
      congr 1
      funext r
      cases hDeadline : r.deadline with
      | none =>
          simp [AckRecord.due, told?, Operation.ending?,
            hDeadline]
      | some deadline =>
          by_cases hDue : deadline ≤ now
          · simp [AckRecord.due, told?, Operation.ending?,
              Ending.outcome?, hDeadline, hDue]
          · simp [AckRecord.due, told?, Operation.ending?,
              hDeadline, hDue]
  | clear =>
      symm
      simp only [apply]
      rw [List.filterMap_eq_nil_iff]
      intro r _
      simp [told?, Operation.ending?, Ending.outcome?]

------------------------------------------------------------
-- What still waits
------------------------------------------------------------

/- The record that a history makes at some place, if any. -/
def registered?
    (ops : List Operation)
    (i : Nat) : Option (AckRecord Nat) :=
  ops[i]?.bind (·.record? i)

/- What becomes of it in the rest of the history. -/
def fateAt
    (ops : List Operation)
    (i : Nat)
    (r : AckRecord Nat) : Option (Nat × Ending) :=
  fate r.id r.deadline (i + 1) (ops.drop (i + 1))

/- The record made at some place, if nothing has ended it. -/
def waits?
    (ops : List Operation)
    (i : Nat) : Option (AckRecord Nat) :=
  (registered? ops i).filter fun r => (fateAt ops i r).isNone

/- All records that nothing has ended, the oldest first. -/
def waiting (ops : List Operation) : List (AckRecord Nat) :=
  (List.range ops.length).filterMap (waits? ops)

/- A registration that was ended does not wait. -/
theorem waits?_of_ended
    {ops : List Operation}
    {i : Nat}
    {r : AckRecord Nat}
    {ended : Nat × Ending}
    (hRegistered : registered? ops i = some r)
    (hFate : fateAt ops i r = some ended) :
    waits? ops i = none := by
  rw [waits?, hRegistered, Option.filter_some, hFate]
  rfl

/- A registration that nothing has ended waits. -/
theorem waits?_of_waiting
    {ops : List Operation}
    {i : Nat}
    {r : AckRecord Nat}
    (hRegistered : registered? ops i = some r)
    (hFate : fateAt ops i r = none) :
    waits? ops i = some r := by
  rw [waits?, hRegistered, Option.filter_some, hFate]
  rfl

/- What was ended stays ended, and what was not may be ended now. -/
theorem fate_append
    (id : String)
    (deadline : Option Nat)
    (place : Nat)
    (ops : List Operation)
    (op : Operation) :
    fate id deadline place (ops ++ [op]) =
      (fate id deadline place ops).or
        ((op.ending? id deadline).map fun ending =>
          (place + ops.length, ending)) := by
  induction ops generalizing place with
  | nil =>
      simp only [List.nil_append, fate, List.length_nil,
        Nat.add_zero, Option.none_or]
      cases op.ending? id deadline with
      | none => rfl
      | some ending => rfl
  | cons first ops ih =>
      simp only [List.cons_append, fate, List.length_cons]
      cases first.ending? id deadline with
      | none =>
          simp only [ih]
          rw [Nat.add_right_comm, Nat.add_assoc]
      | some ending => rfl

/- What was registered before an operation still was. -/
theorem registered?_append_of_lt
    {ops : List Operation}
    {i : Nat}
    (op : Operation)
    (hi : i < ops.length) :
    registered? (ops ++ [op]) i = registered? ops i := by
  unfold registered?
  rw [List.getElem?_append_left hi]

/- An operation registers its own record. -/
theorem registered?_append_length
    (ops : List Operation)
    (op : Operation) :
    registered? (ops ++ [op]) ops.length =
      op.record? ops.length := by
  unfold registered?
  rw [List.getElem?_concat_length]
  rfl

/- Nothing is registered behind the end of a history. -/
theorem registered?_of_le
    {ops : List Operation}
    {i : Nat}
    (hi : ops.length ≤ i) :
    registered? ops i = none := by
  unfold registered?
  rw [List.getElem?_eq_none hi]
  rfl

/- An operation may end what was registered before it. -/
theorem fateAt_append_of_lt
    {ops : List Operation}
    {i : Nat}
    (op : Operation)
    (r : AckRecord Nat)
    (hi : i < ops.length) :
    fateAt (ops ++ [op]) i r =
      (fateAt ops i r).or
        ((op.ending? r.id r.deadline).map fun ending =>
          (ops.length, ending)) := by
  have hPlace :
      i + 1 + (ops.drop (i + 1)).length = ops.length := by
    rw [List.length_drop]
    omega
  unfold fateAt
  rw [List.drop_append_of_le_length (by omega), fate_append,
    hPlace]

/- An operation does not end its own record. -/
theorem fateAt_append_length
    (ops : List Operation)
    (op : Operation)
    (r : AckRecord Nat) :
    fateAt (ops ++ [op]) ops.length r = none := by
  unfold fateAt
  rw [List.drop_eq_nil_of_le (by simp)]
  rfl

/- What waited before an operation waits on if it survives. -/
theorem waits?_append_of_lt
    {ops : List Operation}
    {i : Nat}
    (op : Operation)
    (hi : i < ops.length) :
    waits? (ops ++ [op]) i =
      (waits? ops i).filter (survives op) := by
  unfold waits?
  rw [registered?_append_of_lt op hi]
  cases registered? ops i with
  | none => rfl
  | some r =>
      simp only [Option.filter_some, fateAt_append_of_lt op r hi]
      cases fateAt ops i r with
      | some told => rfl
      | none =>
          simp only [Option.none_or, Option.isNone_none, if_true,
            Option.isNone_map, Option.filter_some]
          rfl

/- What an operation registers waits behind it. -/
theorem waits?_append_length
    (ops : List Operation)
    (op : Operation) :
    waits? (ops ++ [op]) ops.length = op.record? ops.length := by
  unfold waits?
  rw [registered?_append_length]
  cases op.record? ops.length with
  | none => rfl
  | some r =>
      rw [Option.filter_some, fateAt_append_length]
      rfl

/-
  What waits changes with an operation as a table does: what
  it ends is gone, and what it registers comes last.
-/
theorem waiting_append
    (ops : List Operation)
    (op : Operation) :
    waiting (ops ++ [op]) =
      (waiting ops).filter (survives op) ++
        (op.record? ops.length).toList := by
  have hBefore :
      (List.range ops.length).filterMap (waits? (ops ++ [op])) =
        (List.range ops.length).filterMap fun i =>
          (waits? ops i).filter (survives op) := by
    rw [List.filterMap_eq_flatMap_toList,
      List.filterMap_eq_flatMap_toList]
    apply List.flatMap_congr
    intro i hi
    rw [waits?_append_of_lt op (List.mem_range.mp hi)]
  unfold waiting
  rw [List.length_append, List.length_singleton, List.range_succ,
    List.filterMap_append, hBefore, List.filter_filterMap]
  congr 1
  simp only [List.filterMap_cons, List.filterMap_nil,
    waits?_append_length]
  cases op.record? ops.length with
  | none => rfl
  | some r => rfl

end AckTable

end CaptureLink
