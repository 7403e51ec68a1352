/-
  Messages that wait for an acknowledgment.  Each has at most
  one record, which may have a deadline and may carry a label
  by which whoever sent the message recognises its fate.

  Key definitions include:
    * `AckOutcome`
    * `Settlement`
    * `AckTable`
    * `AckTable.expect`
    * `AckTable.acknowledge`
    * `AckTable.expire`
    * `AckTable.find?`
-/

namespace CaptureLink

------------------------------------------------------------
-- Records
------------------------------------------------------------

/- How waiting for an acknowledgment ends. -/
inductive AckOutcome where
/- The peer acknowledged the message. -/
| acknowledged
/- The deadline passed. -/
| timedOut
deriving DecidableEq, Repr

/- What became of a message, told to whoever gave the label. -/
structure Settlement (κ : Type) where
  label : κ
  outcome : AckOutcome
deriving DecidableEq, Repr

/- A message that waits. -/
structure AckRecord (κ : Type) where
  id : String
  deadline : Option Nat
  label : Option κ
deriving DecidableEq, Repr

namespace AckRecord

variable {κ : Type}

/- The deadline is over; without one it never is. -/
def due
    (now : Nat)
    (r : AckRecord κ) : Bool :=
  match r.deadline with
  | some deadline => deadline ≤ now
  | none => false

/- What is told when waiting ends, if anybody wants to know. -/
def settle
    (outcome : AckOutcome)
    (r : AckRecord κ) : Option (Settlement κ) :=
  r.label.map (⟨·, outcome⟩)

end AckRecord

------------------------------------------------------------
-- Tables
------------------------------------------------------------

/- The waiting messages in the order in which they were sent. -/
structure AckTable (κ : Type) where
  records : List (AckRecord κ)
  nodup : (records.map AckRecord.id).Nodup

namespace AckTable

variable {κ : Type}

/- Nothing waits. -/
def empty : AckTable κ :=
  ⟨[], List.nodup_nil⟩

/- The record of a message. -/
def find?
    (t : AckTable κ)
    (id : String) : Option (AckRecord κ) :=
  t.records.find? (·.id = id)

/- A message waits. -/
def pending
    (t : AckTable κ)
    (id : String) : Bool :=
  (t.find? id).isSome

/- The number of messages that wait. -/
def size (t : AckTable κ) : Nat :=
  t.records.length

/- The records that a test lets pass. -/
def filter
    (t : AckTable κ)
    (keep : AckRecord κ → Bool) : AckTable κ where
  records := t.records.filter keep
  nodup := t.nodup.sublist (List.filter_sublist.map _)

/- The table without one message. -/
def erase
    (t : AckTable κ)
    (id : String) : AckTable κ :=
  t.filter (·.id ≠ id)

/- Wait for a message; an earlier record of it is forgotten. -/
def expect
    (t : AckTable κ)
    (r : AckRecord κ) : AckTable κ where
  records := (t.erase r.id).records ++ [r]
  nodup := by
    rw [List.map_append, List.nodup_append]
    refine ⟨(t.erase r.id).nodup, by simp, ?_⟩
    intro a ha b hb
    simp only [erase, filter, List.mem_map, List.mem_filter,
      decide_eq_true_eq] at ha
    obtain ⟨x, ⟨_, hx⟩, rfl⟩ := ha
    simp only [List.map_cons, List.map_nil,
      List.mem_singleton] at hb
    exact hb ▸ hx

/-
  A message is acknowledged.  The result says whether it was
  waited for.
-/
def acknowledge
    (t : AckTable κ)
    (id : String) : AckTable κ × List (Settlement κ) × Bool :=
  match t.find? id with
  | some r => (t.erase id, (r.settle .acknowledged).toList, true)
  | none => (t, [], false)

/-
  Give up on every message whose deadline is over.  The
  result is their number.
-/
def expire
    (t : AckTable κ)
    (now : Nat) : AckTable κ × List (Settlement κ) × Nat :=
  let late := t.records.filter (·.due now)
  ( t.filter (!·.due now),
    late.filterMap (·.settle .timedOut),
    late.length )

end AckTable

end CaptureLink
