import CaptureLink.Proofs.AckTable.Fate
import CaptureLink.Proofs.Session.Settlement

/-
  What becomes of a message that a session has sent.  Waiting
  for it ends with the first operation that concerns it, or
  with the session, and then whoever wanted to know is told
  once or never.  What happens afterwards, in this session or
  in the next, is not told to him any more.

  Main statements:
    * `Session.ends`
    * `Session.fate`
    * `Session.outcomes`
    * `Session.labelled_perform`
    * `Session.outcomes_of_labelled`
    * `Session.outcomes_of_sent`
    * `Session.acknowledgments_end_with_session`
-/

namespace CaptureLink

namespace Session

variable {σ κ : Type}

------------------------------------------------------------
-- Fates
------------------------------------------------------------

/- The operation ends the session. -/
def ends
    (d : Delegate σ)
    (s : Session σ κ)
    (op : Operation κ) : Bool :=
  s.state.status ≠ .offline ∧
    (s.perform d op).session.state.status = .offline

/- How an operation ends waiting for a message, in this session. -/
def ending?
    (d : Delegate σ)
    (s : Session σ κ)
    (r : AckRecord κ)
    (op : Operation κ) : Option AckTable.Ending :=
  if s.ends d op then some .forgotten else op.ending? r

/-
  The first of some operations, counted from `place`, that
  ends waiting for a message, and how it ends it.
-/
def fate
    (d : Delegate σ)
    (r : AckRecord κ) :
    Nat → Session σ κ → List (Operation κ) →
      Option (Nat × AckTable.Ending)
| _, _, [] => none
| place, s, op :: ops =>
    match s.ending? d r op with
    | some ending => some (place, ending)
    | none => fate d r (place + 1) (s.perform d op).session ops

section Fates

variable {d : Delegate σ}
variable {r : AckRecord κ}

/- A fate is met in some operation, by which waiting ends. -/
theorem exists_of_fate
    {place during : Nat}
    {s : Session σ κ}
    {ops : List (Operation κ)}
    {ending : AckTable.Ending}
    (hFate : fate d r place s ops = some (during, ending)) :
    ∃ i op,
      during = place + i ∧
        ops[i]? = some op ∧
        (ending = .forgotten ∨ op.ending? r = some ending) := by
  induction ops generalizing place s with
  | nil => cases hFate
  | cons op ops ih =>
      unfold fate at hFate
      cases hEnding : s.ending? d r op with
      | none =>
          rw [hEnding] at hFate
          rcases ih hFate with ⟨i, op', hDuring, hOp, hHow⟩
          refine ⟨i + 1, op', ?_, hOp, hHow⟩
          omega
      | some ending' =>
          rw [hEnding] at hFate
          cases hFate
          refine ⟨0, op, rfl, rfl, ?_⟩
          unfold ending? at hEnding
          split at hEnding
          · cases hEnding
            exact .inl rfl
          · exact .inr hEnding

/- What was ended stays ended, and what was not may be ended later. -/
theorem fate_append
    (place : Nat)
    (s : Session σ κ)
    (ops ops' : List (Operation κ)) :
    fate d r place s (ops ++ ops') =
      (fate d r place s ops).or
        (fate d r (place + ops.length)
          (s.performAll d ops).session ops') := by
  induction ops generalizing place s with
  | nil => rfl
  | cons op ops ih =>
      simp only [List.cons_append, fate, List.length_cons]
      cases s.ending? d r op with
      | none =>
          simp only [ih, performAll]
          rw [Nat.add_right_comm, Nat.add_assoc]
      | some ending => rfl

/- Where the session ends, what still waits is forgotten. -/
theorem fate_of_ends
    {s : Session σ κ}
    {op : Operation κ}
    (place : Nat)
    (ops : List (Operation κ))
    (hEnds : s.ends d op = true) :
    fate d r place s (op :: ops) = some (place, .forgotten) := by
  simp only [fate, ending?, hEnds, if_true]

end Fates

------------------------------------------------------------
-- Logs
------------------------------------------------------------

/- Something was told, and during which operation. -/
structure Told (κ : Type) where
  during : Nat
  settlement : Settlement κ
deriving DecidableEq, Repr

/-
  What some operations, counted from `place`, tell of messages
  that waited.
-/
def outcomes
    (d : Delegate σ) :
    Nat → Session σ κ → List (Operation κ) → List (Told κ)
| _, _, [] => []
| place, s, op :: ops =>
    let step := s.perform d op
    (settlements step.events).map (⟨place, ·⟩) ++
      outcomes d (place + 1) step.session ops

/- What is told of a message that meets some fate. -/
def verdict
    (label : κ) :
    Option (Nat × AckTable.Ending) → Option (Told κ)
| some (during, ending) =>
    ending.outcome?.map fun outcome =>
      ⟨during, ⟨label, outcome⟩⟩
| none => none

/- What is told tells of a fate. -/
theorem exists_of_verdict
    {label : κ}
    {fate? : Option (Nat × AckTable.Ending)}
    {told : Told κ}
    (hTold : verdict label fate? = some told) :
    ∃ ending,
      fate? = some (told.during, ending) ∧
        ending.outcome? = some told.settlement.outcome := by
  rcases fate? with _ | ⟨during, ending⟩
  · cases hTold
  · rcases Option.map_eq_some_iff.mp hTold with
      ⟨outcome, hOutcome, rfl⟩
    exact ⟨ending, rfl, hOutcome⟩

section Verdicts

variable {d : Delegate σ}
variable {r : AckRecord κ}
variable {label : κ}
variable {place : Nat}
variable {s : Session σ κ}
variable {ops : List (Operation κ)}
variable {told : Told κ}

/- What is told is told during the operation that ends waiting so. -/
theorem exists_ending_of_verdict
    (hTold :
      verdict label (fate d r place s ops) = some told) :
    ∃ i op ending,
      told.during = place + i ∧
        ops[i]? = some op ∧
        op.ending? r = some ending ∧
        ending.outcome? = some told.settlement.outcome := by
  rcases exists_of_verdict hTold with ⟨ending, hFate, hOutcome⟩
  rcases exists_of_fate hFate with
    ⟨i, op, hDuring, hOp, hForgotten | hEnding⟩
  · rw [hForgotten] at hOutcome
    cases hOutcome
  · exact ⟨i, op, ending, hDuring, hOp, hEnding, hOutcome⟩

/- Only an acknowledgment of the message tells of one. -/
theorem exists_process_of_verdict
    (hTold :
      verdict label (fate d r place s ops) = some told)
    (hOutcome : told.settlement.outcome = .acknowledged) :
    ∃ i fresh e,
      told.during = place + i ∧
        ops[i]? = some (.process fresh e) ∧
        e.payload = some .acknowledge ∧
        e.responseId = some r.id := by
  rcases exists_ending_of_verdict hTold with
    ⟨i, op, ending, hDuring, hOp, hEnding, hEnds⟩
  rw [hOutcome] at hEnds
  cases ending with
  | acknowledged =>
      rcases Operation.exists_process_of_acknowledged hEnding with
        ⟨fresh, e, rfl, hNamed⟩
      exact ⟨i, fresh, e, hDuring, hOp, hNamed⟩
  | _ => cases hEnds

/- Only the clock tells of a deadline, when it is over. -/
theorem exists_pollTimeouts_of_verdict
    (hTold :
      verdict label (fate d r place s ops) = some told)
    (hOutcome : told.settlement.outcome = .timedOut) :
    ∃ i now,
      told.during = place + i ∧
        ops[i]? = some (.pollTimeouts now) ∧
        r.due now = true := by
  rcases exists_ending_of_verdict hTold with
    ⟨i, op, ending, hDuring, hOp, hEnding, hEnds⟩
  rw [hOutcome] at hEnds
  cases ending with
  | timedOut =>
      rcases Operation.exists_pollTimeouts_of_timedOut hEnding with
        ⟨now, rfl, hDue⟩
      exact ⟨i, now, hDuring, hOp, hDue⟩
  | _ => cases hEnds

/- What is told at all is told before the session ends. -/
theorem during_lt_of_ends
    {during rest : List (Operation κ)}
    {op : Operation κ}
    (hEnds : ((s.performAll d during).session).ends d op = true)
    (hTold :
      verdict label
          (fate d r place s (during ++ op :: rest)) =
        some told) :
    told.during < place + during.length := by
  rw [fate_append, fate_of_ends _ rest hEnds] at hTold
  cases hFate : fate d r place s during with
  | none =>
      rw [hFate] at hTold
      cases hTold
  | some met =>
      rw [hFate, Option.some_or, ← hFate] at hTold
      rcases exists_ending_of_verdict hTold with
        ⟨i, op', _, hDuring, hOp, _⟩
      have hIndex := (List.getElem?_eq_some_iff.mp hOp).1
      omega

end Verdicts

/- The label that an operation gives to a message. -/
def Operation.label? : Operation κ → Option κ
| .sendWithAck _ _ _ label => label
| _ => none

section Logs

variable (d : Delegate σ)

/- What is told is told in the events of the operations. -/
theorem map_settlement_outcomes
    (place : Nat)
    (s : Session σ κ)
    (ops : List (Operation κ)) :
    (outcomes d place s ops).map (·.settlement) =
      settlements (s.performAll d ops).events := by
  induction ops generalizing place s with
  | nil => rfl
  | cons op ops ih =>
      simp only [outcomes, performAll, List.map_append,
        List.map_map, settlements_append, ih]
      congr 1
      exact List.map_id _

/- The log of some operations and others. -/
theorem outcomes_append
    (place : Nat)
    (s : Session σ κ)
    (ops ops' : List (Operation κ)) :
    outcomes d place s (ops ++ ops') =
      outcomes d place s ops ++
        outcomes d (place + ops.length)
          (s.performAll d ops).session ops' := by
  induction ops generalizing place s with
  | nil => rfl
  | cons op ops ih =>
      simp only [List.cons_append, outcomes, ih, performAll,
        List.append_assoc, List.length_cons]
      rw [Nat.add_right_comm, Nat.add_assoc]

------------------------------------------------------------
-- One operation
------------------------------------------------------------

/- What ends a session tells nothing. -/
theorem told?_of_ends
    {s : Session σ κ}
    {op : Operation κ}
    (hEnds : s.ends d op = true)
    (r : AckRecord κ) :
    op.told? r = none := by
  rcases of_decide_eq_true hEnds with ⟨hBegun, hOffline⟩
  cases op with
  | process fresh e =>
      by_cases hAcknowledge : e.payload = some .acknowledge
      · obtain ⟨⟨id, responseId⟩, payload⟩ := e
        cases hAcknowledge
        cases responseId with
        | none => exact absurd hOffline hBegun
        | some target => exact absurd hOffline hBegun
      · simp [Operation.told?, Operation.ending?, hAcknowledge]
  | sendWithAck now fresh payload label =>
      exact absurd hOffline hBegun
  | pollTimeouts now => exact absurd hOffline hBegun
  | _ => rfl

/- What a labelled message tells is how waiting for it ends. -/
theorem told?_eq
    (s : Session σ κ)
    (op : Operation κ)
    {r : AckRecord κ}
    {label : κ}
    (hLabel : r.label = some label) :
    op.told? r =
      (s.ending? d r op).bind fun ending =>
        ending.outcome?.map (⟨label, ·⟩) := by
  by_cases hEnds : s.ends d op = true
  · simp [told?_of_ends d hEnds, ending?, hEnds,
      AckTable.Ending.outcome?]
  · simp [Operation.told?, AckRecord.settle, ending?, hEnds,
      hLabel, Option.map_eq_bind]

variable [DecidableEq κ]

/- The messages with some label that wait. -/
def labelled
    (label : κ)
    (s : Session σ κ) : List (AckRecord κ) :=
  s.acks.records.filter (·.label = some label)

variable {label : κ}
variable (s : Session σ κ)
variable (op : Operation κ)

/-
  What is told under a label is told by messages with this
  label, at first and later.
-/
theorem filter_outcomes_cons
    (place : Nat)
    (ops : List (Operation κ)) :
    (outcomes d place s (op :: ops)).filter
        (·.settlement.label = label) =
      ((labelled label s).filterMap op.told?).map (⟨place, ·⟩) ++
        (outcomes d (place + 1) (s.perform d op).session
          ops).filter (·.settlement.label = label) := by
  have hNow :
      (settlements (s.perform d op).events).filter
          (·.label = label) =
        (labelled label s).filterMap op.told? := by
    rw [settlements_perform]
    exact AckTable.filter_label_told
      (fun _ _ => Operation.label_of_told?) _ label
  simp only [outcomes, List.filter_append, List.filter_map,
    Function.comp_def, hNow]

/- An operation without the label leaves what it does not end. -/
theorem labelled_perform
    (hOther : op.label? ≠ some label) :
    labelled label (s.perform d op).session =
      if s.ends d op then []
      else (labelled label s).filter fun r => !op.settles r := by
  have hUnlabelled :
      (op.record? s.ackTimeout).toList.filter
        (·.label = some label) = [] := by
    cases op with
    | sendWithAck now fresh payload label' =>
        have hNe : label' ≠ some label := hOther
        simp [Operation.record?, hNe]
    | _ => rfl
  unfold labelled
  cases acksAfter_perform d s op with
  | ended hBegun hOffline hAcks =>
      simp only [hAcks, ends, hBegun, hOffline, ne_eq,
        not_false_eq_true, and_self, decide_true, if_true]
      rfl
  | going hBegun hAcks =>
      have hGoes : s.ends d op = false := by
        rw [ends, decide_eq_false_iff_not]
        rintro ⟨hStatus, hOffline⟩
        exact hBegun hStatus hOffline
      rw [hAcks, records_onAcks, List.filter_append, hUnlabelled,
        List.append_nil, List.filter_filter, List.filter_filter,
        hGoes]
      simp only [Bool.false_eq_true, if_false, Bool.and_comm]

/- Where no message has a label, none has it afterwards. -/
theorem labelled_of_none
    (hOther : op.label? ≠ some label)
    (hNone : labelled label s = []) :
    labelled label (s.perform d op).session = [] := by
  rw [labelled_perform d s op hOther, hNone, List.filter_nil,
    ite_self]

/- The only message with a label waits on unless waiting ends. -/
theorem labelled_of_only
    {r : AckRecord κ}
    (hOther : op.label? ≠ some label)
    (hOnly : labelled label s = [r]) :
    labelled label (s.perform d op).session =
      if (s.ending? d r op).isNone then [r] else [] := by
  rw [labelled_perform d s op hOther, hOnly]
  by_cases hEnds : s.ends d op = true
  · simp [ending?, hEnds]
  · cases hEnding : op.ending? r with
    | none =>
        simp [ending?, hEnds, hEnding,
          Operation.settles_eq_isSome]
    | some ending =>
        simp [ending?, hEnds, hEnding,
          Operation.settles_eq_isSome]

------------------------------------------------------------
-- All operations
------------------------------------------------------------

variable {s}

/- Where a label is not used, no message has it in the end. -/
theorem labelled_performAll
    {ops : List (Operation κ)}
    (hOther : ∀ op ∈ ops, op.label? ≠ some label)
    (hNone : labelled label s = []) :
    labelled label (s.performAll d ops).session = [] := by
  induction ops generalizing s with
  | nil => exact hNone
  | cons op ops ih =>
      exact ih
        (fun op' hMem => hOther op' (List.mem_cons_of_mem _ hMem))
        (labelled_of_none d s op (hOther op List.mem_cons_self)
          hNone)

/- Nothing is told under a label that is not used. -/
theorem outcomes_of_unlabelled
    {ops : List (Operation κ)}
    (place : Nat)
    (hOther : ∀ op ∈ ops, op.label? ≠ some label)
    (hNone : labelled label s = []) :
    (outcomes d place s ops).filter
      (·.settlement.label = label) = [] := by
  induction ops generalizing place s with
  | nil => rfl
  | cons op ops ih =>
      rw [filter_outcomes_cons, hNone, List.filterMap_nil,
        List.map_nil, List.nil_append]
      exact ih (place + 1)
        (fun op' hMem => hOther op' (List.mem_cons_of_mem _ hMem))
        (labelled_of_none d s op (hOther op List.mem_cons_self)
          hNone)

/-
  Of the only message with a label there is told what its fate
  is, during the operation that ends it, and nothing else.
-/
theorem outcomes_of_labelled
    {ops : List (Operation κ)}
    {r : AckRecord κ}
    (place : Nat)
    (hOther : ∀ op ∈ ops, op.label? ≠ some label)
    (hLabel : r.label = some label)
    (hOnly : labelled label s = [r]) :
    (outcomes d place s ops).filter
        (·.settlement.label = label) =
      (verdict label (fate d r place s ops)).toList := by
  induction ops generalizing place s with
  | nil => rfl
  | cons op ops ih =>
      have hRest : ∀ op' ∈ ops, op'.label? ≠ some label :=
        fun op' hMem => hOther op' (List.mem_cons_of_mem _ hMem)
      have hNext :=
        labelled_of_only d s op (hOther op List.mem_cons_self)
          hOnly
      rw [filter_outcomes_cons, hOnly, fate]
      cases hEnding : s.ending? d r op with
      | none =>
          have hSilent : op.told? r = none := by
            rw [told?_eq d s op hLabel, hEnding]
            rfl
          rw [hEnding] at hNext
          rw [List.filterMap_cons_none hSilent]
          exact ih (place + 1) hRest hNext
      | some ending =>
          rw [hEnding] at hNext
          rw [outcomes_of_unlabelled d (place + 1) hRest hNext,
            List.append_nil]
          cases hOutcome : ending.outcome? with
          | none =>
              have hSilent : op.told? r = none := by
                rw [told?_eq d s op hLabel, hEnding,
                  Option.bind_some, hOutcome]
                rfl
              rw [List.filterMap_cons_none hSilent, verdict,
                hOutcome]
              rfl
          | some outcome =>
              have hTold :
                  op.told? r = some ⟨label, outcome⟩ := by
                rw [told?_eq d s op hLabel, hEnding,
                  Option.bind_some, hOutcome]
                rfl
              rw [List.filterMap_cons_some hTold, verdict,
                hOutcome]
              rfl

------------------------------------------------------------
-- Messages of the server
------------------------------------------------------------

/- A new label is that of the message that is sent with it. -/
theorem labelled_sendWithAck
    (now : Nat)
    (fresh : String)
    (payload : Payload)
    (hNone : labelled label s = []) :
    labelled label
        (s.sendWithAck now fresh payload (some label)).1 =
      [⟨fresh, s.ackTimeout.map (now + ·), some label⟩] := by
  have hErased :
      (s.acks.erase fresh).records.filter
        (·.label = some label) = [] := by
    rw [labelled, List.filter_eq_nil_iff] at hNone
    rw [List.filter_eq_nil_iff]
    intro r hMem
    exact hNone r (List.mem_of_mem_filter hMem)
  simp only [labelled, sendWithAck, countSent, AckTable.expect,
    List.filter_append, hErased]
  simp

/-
  Under a label that is used once, there is told what becomes
  of the message that is sent with it, and nothing else.
-/
theorem outcomes_of_sent
    {before after : List (Operation κ)}
    (now : Nat)
    (fresh : String)
    (payload : Payload)
    (hBefore : ∀ op ∈ before, op.label? ≠ some label)
    (hAfter : ∀ op ∈ after, op.label? ≠ some label)
    (hNone : labelled label s = []) :
    let sent :=
      (s.performAll d before).session.sendWithAck now fresh
        payload (some label)
    (outcomes d 0 s
          (before ++
            .sendWithAck now fresh payload (some label) ::
              after)).filter
        (·.settlement.label = label) =
      (verdict label
        (fate d ⟨fresh, s.ackTimeout.map (now + ·), some label⟩
          (before.length + 1) sent.1 after)).toList := by
  intro sent
  have hReached := labelled_performAll d hBefore hNone
  have hSent := labelled_sendWithAck now fresh payload hReached
  rw [ackTimeout_performAll] at hSent
  rw [outcomes_append, List.filter_append,
    outcomes_of_unlabelled d 0 hBefore hNone, List.nil_append,
    Nat.zero_add]
  exact outcomes_of_labelled d (before.length + 1) hAfter rfl hSent

end Logs

/-
  If a label is used once, whoever sent a message with it is
  told what its fate is, and so at most once: that it was
  acknowledged, while an acknowledgment that names it is
  processed, or that its deadline was over, while this is
  found out.  When a session ends, whatever is told of the
  messages sent before has been told already.
-/
theorem acknowledgments_end_with_session
    [DecidableEq κ]
    (d : Delegate σ)
    (info : ServerInfo)
    (ackTimeout : Option Nat)
    (host : σ)
    (before after : List (Operation κ))
    (now : Nat)
    (fresh : String)
    (payload : Payload)
    (label : κ)
    (hOnce : ∀ op ∈ before ++ after, op.label? ≠ some label) :
    let s : Session σ κ := new info ackTimeout host
    let send : Operation κ :=
      .sendWithAck now fresh payload (some label)
    let sent :=
      (s.performAll d before).session.sendWithAck now fresh
        payload (some label)
    let ops := before ++ send :: after
    let log :=
      (outcomes d 0 s ops).filter (·.settlement.label = label)
    (outcomes d 0 s ops).map (·.settlement) =
        settlements (s.performAll d ops).events ∧
      log =
        (verdict label
          (fate d
            ⟨sent.2.id, ackTimeout.map (now + ·), some label⟩
            (before.length + 1) sent.1 after)).toList ∧
      log.length ≤ 1 ∧
      (∀ told ∈ log,
        before.length < told.during ∧
          (told.settlement.outcome = .acknowledged →
            ∃ name e,
              ops[told.during]? = some (.process name e) ∧
                e.payload = some .acknowledge ∧
                e.responseId = some sent.2.id) ∧
          (told.settlement.outcome = .timedOut →
            ∃ wait later,
              ackTimeout = some wait ∧
                ops[told.during]? = some (.pollTimeouts later) ∧
                now + wait ≤ later)) ∧
      ∀ during op rest,
        after = during ++ op :: rest →
          let reached :=
            (s.performAll d (before ++ send :: during)).session
          reached.state.status ≠ .offline →
          (reached.perform d op).session.state.status = .offline →
            ∀ told ∈ log,
              told.during < before.length + 1 + during.length := by
  intro s send sent ops log
  let r : AckRecord κ :=
    ⟨fresh, ackTimeout.map (now + ·), some label⟩
  have hLog :
      log =
        (verdict label
          (fate d r (before.length + 1) sent.1 after)).toList :=
    outcomes_of_sent d now fresh payload
      (fun op hMem => hOnce op (List.mem_append_left _ hMem))
      (fun op hMem => hOnce op (List.mem_append_right _ hMem)) rfl
  have hPlace :
      ∀ i, ops[before.length + 1 + i]? = after[i]? := by
    intro i
    rw [Nat.add_assoc, List.getElem?_append_right
      (Nat.le_add_right _ _), Nat.add_sub_cancel_left,
      Nat.add_comm 1 i, List.getElem?_cons_succ]
  rw [hLog]
  refine ⟨map_settlement_outcomes d 0 s ops, rfl,
    Option.length_toList_le, ?_, ?_⟩
  · intro told hMem
    have hTold := Option.mem_toList.mp hMem
    refine ⟨?_, ?_, ?_⟩
    · rcases exists_ending_of_verdict hTold with
        ⟨i, _, _, hDuring, _⟩
      omega
    · intro hOutcome
      rcases exists_process_of_verdict hTold hOutcome with
        ⟨i, name, e, hDuring, hOp, hNamed⟩
      rw [hDuring, hPlace]
      exact ⟨name, e, hOp, hNamed⟩
    · intro hOutcome
      rcases exists_pollTimeouts_of_verdict hTold hOutcome with
        ⟨i, later, hDuring, hOp, hDue⟩
      rw [hDuring, hPlace]
      cases ackTimeout with
      | none => cases hDue
      | some wait =>
          exact ⟨wait, later, rfl, hOp, of_decide_eq_true hDue⟩
  · intro during op rest hAfter reached hBegun hOffline told hMem
    have hReached :
        reached = (sent.1.performAll d during).session := by
      simp only [reached, performAll_append]
      rfl
    rw [hReached] at hBegun hOffline
    rw [hAfter] at hMem
    exact during_lt_of_ends
      (decide_eq_true ⟨hBegun, hOffline⟩)
      (Option.mem_toList.mp hMem)

/- A session in which the server sends a message. -/
def opening : List (Operation Nat) :=
  [.start "s1", .activate ⟨"rig", "1.0", .empty⟩]

/-
  The message is acknowledged, the session ends, and the next
  one hears of the message again and gives it up.
-/
def echoed : List (Operation Nat) :=
  [ .process "r1" ⟨⟨"c1", some "m1"⟩, some .acknowledge⟩,
    .shutdown,
    .start "s2",
    .process "r2" ⟨⟨"c2", some "m1"⟩, some .acknowledge⟩,
    .pollTimeouts 100 ]

/- It is told of once, before the session ends. -/
theorem acknowledgments_end_with_session_echoed :
    (∀ op ∈ opening ++ echoed, op.label? ≠ some 7) ∧
      let s : Session Unit Nat := new .standard (some 10) ()
      let log :=
        (outcomes .idle 0 s
            (opening ++
              .sendWithAck 0 "m1" .getCameraList (some 7) ::
                echoed)).filter
          (·.settlement.label = 7)
      log = [⟨3, ⟨7, .acknowledged⟩⟩] ∧
        ∀ told ∈ log, told.during < 4 := by
  have hOnce : ∀ op ∈ opening ++ echoed, op.label? ≠ some 7 := by
    decide
  refine ⟨hOnce, by decide +kernel, ?_⟩
  exact
    (acknowledgments_end_with_session .idle .standard (some 10) ()
      opening echoed 0 "m1" .getCameraList 7 hOnce).2.2.2.2
      (echoed.take 1) .shutdown (echoed.drop 2) rfl
      (by decide +kernel) (by decide +kernel)

end Session

end CaptureLink
