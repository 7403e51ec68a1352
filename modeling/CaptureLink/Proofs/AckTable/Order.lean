import CaptureLink.Proofs.AckTable.History
import CaptureLink.Proofs.AckTable.Renaming
import Mathlib.Data.List.Perm.Basic
import Mathlib.Data.List.Nodup

/-
  The order in which things happen to a table of
  acknowledgments.  To give up at two instants is to give up
  at the later one, and what is done to different messages may
  be done in either order.  Tables that find the same records
  are not told apart, in whatever order they hold them.

  Main declarations:
    * `AckTable.Same`
    * `AckTable.same_iff_perm`
    * `AckTable.expire_twice`
    * `AckTable.Call`
    * `AckTable.Call.find?_perform`
    * `AckTable.Call.perform_of_find?_eq`
    * `AckTable.order_irrelevant`
-/

namespace CaptureLink

variable {κ : Type}

namespace AckTable

------------------------------------------------------------
-- Tables with the same records
------------------------------------------------------------

/- The same record is found of every message. -/
def Same (t t' : AckTable κ) : Prop :=
  ∀ id, t.find? id = t'.find? id

/- What is found of a message is its record in the table. -/
theorem find?_eq_some_iff
    (t : AckTable κ)
    (id : String)
    (r : AckRecord κ) :
    t.find? id = some r ↔ r ∈ t.records ∧ r.id = id := by
  have hMem :
      r ∈ t.records.filter (·.id = id) ↔
        r ∈ (t.find? id).toList := by
    rw [filter_id_eq_find?]
  simpa [eq_comm] using hMem.symm

/- Tables are the same if they hold the same records in some order. -/
theorem same_iff_perm
    (t t' : AckTable κ) :
    t.Same t' ↔ t.records.Perm t'.records := by
  constructor
  · intro hSame
    have hNodup : ∀ t : AckTable κ, t.records.Nodup :=
      fun t => t.nodup.of_map
    rw [List.perm_ext_iff_of_nodup (hNodup t) (hNodup t')]
    intro r
    have hHere := t.find?_eq_some_iff r.id r
    have hThere := t'.find?_eq_some_iff r.id r
    rw [← hSame r.id] at hThere
    simpa using hHere.symm.trans hThere
  · intro hPerm id
    apply Option.ext
    intro r
    rw [find?_eq_some_iff, find?_eq_some_iff, hPerm.mem_iff]

------------------------------------------------------------
-- Giving up
------------------------------------------------------------

/- A deadline is over at the later of two instants if at one. -/
theorem due_max
    (a b : Nat)
    (r : AckRecord κ) :
    r.due (max a b) = (r.due a || r.due b) := by
  unfold AckRecord.due
  cases r.deadline with
  | none => rfl
  | some deadline =>
      have hLater :
          deadline ≤ max a b ↔ deadline ≤ a ∨ deadline ≤ b := by
        omega
      simp only [hLater, Bool.decide_or]

/- What passes one of two tests passes the first or only the second. -/
theorem filter_or_perm
    {α : Type}
    (first second : α → Bool)
    (l : List α) :
    (l.filter first ++ (l.filter (!first ·)).filter second).Perm
      (l.filter fun x => first x || second x) := by
  have hSplit :=
    List.filter_append_perm first
      (l.filter fun x => first x || second x)
  have hFirst :
      (l.filter fun x => first x || second x).filter first =
        l.filter first := by
    rw [List.filter_filter]
    apply List.filter_congr
    intro x _
    cases first x with
    | _ => simp
  have hSecond :
      (l.filter fun x => first x || second x).filter (!first ·) =
        (l.filter (!first ·)).filter second := by
    rw [List.filter_filter, List.filter_filter]
    apply List.filter_congr
    intro x _
    cases first x with
    | _ => simp
  rwa [hFirst, hSecond] at hSplit

/- Tables with the same records give up the same ones. -/
theorem expire_same
    {t t' : AckTable κ}
    (hSame : t.Same t')
    (now : Nat) :
    (t.expire now).1.Same (t'.expire now).1 ∧
      (t.expire now).2.1.Perm (t'.expire now).2.1 ∧
      (t.expire now).2.2 = (t'.expire now).2.2 := by
  have hPerm := (same_iff_perm t t').mp hSame
  have hLate := hPerm.filter (·.due now)
  refine ⟨(same_iff_perm _ _).mpr (hPerm.filter _), ?_, ?_⟩
  · exact hLate.filterMap _
  · exact hLate.length_eq

/- To give up twice is to give up at the later instant. -/
theorem expire_twice
    (t : AckTable κ)
    (a b : Nat) :
    let first := t.expire a
    let second := first.1.expire b
    let whole := t.expire (max a b)
    second.1 = whole.1 ∧
      (first.2.1 ++ second.2.1).Perm whole.2.1 ∧
      first.2.2 + second.2.2 = whole.2.2 := by
  have hLate :=
    filter_or_perm (AckRecord.due a) (AckRecord.due b) t.records
  simp only [← due_max] at hLate
  refine ⟨eq_of_records_eq ?_, ?_, ?_⟩
  · simp only [expire, filter, List.filter_filter]
    apply List.filter_congr
    intro r _
    rw [due_max, Bool.not_or, Bool.and_comm]
  · have hTold := hLate.filterMap (·.settle .timedOut)
    rwa [List.filterMap_append] at hTold
  · have hCount := hLate.length_eq
    rwa [List.length_append] at hCount

/- Who is told then is told that time is over. -/
theorem outcome_of_expire
    {t : AckTable κ}
    {now : Nat}
    {settlement : Settlement κ}
    (hTold : settlement ∈ (t.expire now).2.1) :
    settlement.outcome = .timedOut := by
  rcases List.mem_filterMap.mp hTold with ⟨r, _, hSettle⟩
  rcases Option.map_eq_some_iff.mp hSettle with ⟨_, _, rfl⟩
  rfl

------------------------------------------------------------
-- One message
------------------------------------------------------------

/- One message is not found any longer, and the others are. -/
theorem find?_erase
    (t : AckTable κ)
    (id other : String) :
    (t.erase id).find? other =
      if other = id then none else t.find? other := by
  apply Option.ext
  intro r
  by_cases hOther : other = id
  · subst hOther
    simp [find?_eq_some_iff, erase, filter]
  · simp only [find?_eq_some_iff, erase, filter, List.mem_filter,
      decide_eq_true_eq, if_neg hOther, and_assoc]
    refine and_congr_right fun _ => ⟨And.right, fun hId => ?_⟩
    exact ⟨by rwa [hId], hId⟩

/- An acknowledged message is not found any longer. -/
theorem find?_acknowledge
    (t : AckTable κ)
    (id other : String) :
    (t.acknowledge id).1.find? other =
      if other = id then none else t.find? other := by
  have hErased : (t.acknowledge id).1 = t.erase id :=
    eq_of_records_eq (records_acknowledge t id)
  rw [hErased, find?_erase]

/- The new record is found, and the others are. -/
theorem find?_expect
    (t : AckTable κ)
    (r : AckRecord κ)
    (other : String) :
    (t.expect r).find? other =
      if other = r.id then some r else t.find? other := by
  have hAppend :
      (t.expect r).find? other =
        ((t.erase r.id).find? other).or
          ([r].find? (·.id = other)) :=
    List.find?_append
  rw [hAppend, find?_erase]
  by_cases hOther : other = r.id
  · simp [hOther]
  · simp [hOther, eq_comm]

/- What is done to one message. -/
inductive Call (κ : Type) where
/- Wait for it as long as it takes. -/
| queue (id : String) (label : Option κ)
/- Wait for it until some instant. -/
| queueUntil
    (id : String)
    (deadline : Nat)
    (label : Option κ)
/- It is acknowledged. -/
| acknowledge (id : String)

/-
  The table behind a call, what was told, and, if it gives
  something back, whether the message was waited for.
-/
structure Effect (κ : Type) where
  table : AckTable κ
  told : List (Settlement κ)
  found? : Option Bool

namespace Call

/- The message. -/
def id : Call κ → String
| .queue id _ => id
| .queueUntil id _ _ => id
| .acknowledge id => id

/- The record that the message has behind the call. -/
def record? : Call κ → Option (AckRecord κ)
| .queue id label => some ⟨id, none, label⟩
| .queueUntil id deadline label => some ⟨id, some deadline, label⟩
| .acknowledge _ => none

/- What the call does to a table. -/
def perform
    (t : AckTable κ) : Call κ → Effect κ
| .queue id label => ⟨t.expect ⟨id, none, label⟩, [], none⟩
| .queueUntil id deadline label =>
    ⟨t.expect ⟨id, some deadline, label⟩, [], none⟩
| .acknowledge id =>
    let (t', told, found) := t.acknowledge id
    ⟨t', told, some found⟩

/- A call sets the record of its message. -/
theorem find?_perform
    (c : Call κ)
    (t : AckTable κ)
    (other : String) :
    (c.perform t).table.find? other =
      if other = c.id then c.record? else t.find? other := by
  cases c with
  | queue id label => exact find?_expect t _ other
  | queueUntil id deadline label => exact find?_expect t _ other
  | acknowledge id => exact find?_acknowledge t id other

/- What it tells and gives back is up to the record before. -/
theorem perform_of_find?_eq
    {c : Call κ}
    {t t' : AckTable κ}
    (hFind : t.find? c.id = t'.find? c.id) :
    (c.perform t).told = (c.perform t').told ∧
      (c.perform t).found? = (c.perform t').found? := by
  cases c with
  | queue id label => exact ⟨rfl, rfl⟩
  | queueUntil id deadline label => exact ⟨rfl, rfl⟩
  | acknowledge id =>
      simp only [Call.id] at hFind
      simp only [perform, AckTable.acknowledge, hFind]
      cases t'.find? id with
      | none => exact ⟨rfl, rfl⟩
      | some r => exact ⟨rfl, rfl⟩

section Either

variable {c c' : Call κ}
variable {t t' : AckTable κ}

/- Two calls leave the same records in either order. -/
theorem same_perform_comm
    (hSame : t.Same t')
    (hOther : c.id ≠ c'.id) :
    (c'.perform (c.perform t).table).table.Same
      (c.perform (c'.perform t').table).table := by
  intro id
  simp only [find?_perform, hSame id]
  by_cases hFirst : id = c.id
  · rw [if_pos hFirst, if_pos hFirst, if_neg (hFirst ▸ hOther)]
  · simp only [if_neg hFirst]

/- A call on one message does not matter to another one. -/
theorem perform_behind
    (hSame : t.Same t')
    (hOther : c.id ≠ c'.id) :
    (c'.perform (c.perform t).table).told =
        (c'.perform t').told ∧
      (c'.perform (c.perform t).table).found? =
        (c'.perform t').found? := by
  apply perform_of_find?_eq
  rw [find?_perform, if_neg hOther.symm, hSame]

end Either

end Call

------------------------------------------------------------
-- Either order
------------------------------------------------------------

/-
  The order in which a table holds its records does not
  matter.  To give up at two instants, in either order, leaves
  the table and tells the same as to give up at the later one,
  and as often; and two calls on different messages may change
  places.
-/
theorem order_irrelevant
    {t t' : AckTable κ}
    (hSame : t.Same t') :
    (∀ a b between,
      (t.expire a).1.Same between →
        let first := t.expire a
        let second := between.expire b
        let whole := t'.expire (max a b)
        second.1.Same whole.1 ∧
          (first.2.1 ++ second.2.1).Perm whole.2.1 ∧
          (∀ settlement ∈ first.2.1 ++ second.2.1,
            settlement.outcome = .timedOut) ∧
          first.2.2 + second.2.2 = whole.2.2) ∧
    ∀ c c' : Call κ,
      c.id ≠ c'.id →
        let first := c.perform t
        let second := c'.perform first.table
        let first' := c'.perform t'
        let second' := c.perform first'.table
        second.table.Same second'.table ∧
          (first.told, first.found?) =
            (second'.told, second'.found?) ∧
          (second.told, second.found?) =
            (first'.told, first'.found?) := by
  constructor
  · intro a b between hBetween first second whole
    rcases expire_twice t a b with ⟨hTable, hTold, hCount⟩
    rcases expire_same hBetween b with
      ⟨hTable', hTold', hCount'⟩
    rcases expire_same hSame (max a b) with
      ⟨hTable'', hTold'', hCount''⟩
    refine ⟨?_, ?_, ?_, ?_⟩
    · intro id
      rw [← hTable' id, hTable, hTable'' id]
    · exact ((hTold'.symm.append_left _).trans hTold).trans hTold''
    · intro settlement hMem
      exact (List.mem_append.mp hMem).elim outcome_of_expire
        outcome_of_expire
    · rw [← hCount'', ← hCount, ← hCount']
  · intro c c' hOther first second first' second'
    have hSame' : t'.Same t := fun id => (hSame id).symm
    rcases Call.perform_behind hSame hOther with
      ⟨hTold, hFound⟩
    rcases Call.perform_behind hSame' hOther.symm with
      ⟨hTold', hFound'⟩
    refine ⟨Call.same_perform_comm hSame hOther, ?_, ?_⟩
    · exact Prod.ext hTold'.symm hFound'.symm
    · exact Prod.ext hTold hFound

/-
  Two messages with one deadline, one that waits for ever and
  one that nobody wants to know of.
-/
def fourWaiting : AckTable String where
  records :=
    [⟨"a", some 5, some "first"⟩, ⟨"b", some 5, some "second"⟩,
      ⟨"c", none, some "third"⟩, ⟨"d", some 7, none⟩]
  nodup := by decide

/- The same, held the other way round. -/
def fourTurned : AckTable String where
  records := fourWaiting.records.reverse
  nodup := by decide

/- What is told comes in another order, and is the same. -/
theorem order_irrelevant_four :
    fourWaiting.Same fourTurned ∧
      (let first := fourWaiting.expire 5
        let second := first.1.expire 7
        let whole := fourTurned.expire 7
        second.1.Same whole.1 ∧
          (first.2.1 ++ second.2.1).Perm whole.2.1 ∧
          first.2.1 ++ second.2.1 ≠ whole.2.1 ∧
          first.2.2 + second.2.2 = whole.2.2) ∧
      "a" ≠ "b" ∧
      (let answered := Call.acknowledge "a"
        let renewed := Call.queueUntil "b" 9 (some "anew")
        ((renewed.perform (answered.perform fourWaiting).table
              ).table.Same
            (answered.perform (renewed.perform fourTurned).table
              ).table) ∧
          (answered.perform
            (renewed.perform fourTurned).table).told =
              [⟨"first", .acknowledged⟩]) := by
  have hSame : fourWaiting.Same fourTurned :=
    (same_iff_perm _ _).mpr (List.reverse_perm _).symm
  rcases order_irrelevant hSame with ⟨hExpire, hCalls⟩
  rcases hExpire 5 7 _ (fun _ => rfl) with
    ⟨hTable, hTold, _, hCount⟩
  rcases hCalls (.acknowledge "a") (.queueUntil "b" 9 (some "anew"))
      (by decide) with
    ⟨hEither, hAnswered, _⟩
  refine ⟨hSame, ⟨hTable, hTold, by decide, hCount⟩, by decide,
    hEither, ?_⟩
  exact (Prod.mk.inj hAnswered).1.symm

end AckTable

end CaptureLink
