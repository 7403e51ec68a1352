import CaptureLink.Proofs.Session.Pending

/-
  What is told of the messages that wait for an acknowledgment.
  Every operation tells exactly what the records that it ends
  have to tell, in the order in which they were made.  Whatever
  ends a session tells nothing.

  Main statements:
    * `Session.settlements`
    * `Session.Operation.ending?`
    * `Session.Operation.told?`
    * `Session.settlements_perform`
    * `Session.Operation.settles_eq_isSome`
-/

namespace CaptureLink

namespace Session

variable {σ κ α : Type}

------------------------------------------------------------
-- Events
------------------------------------------------------------

/- How waiting for an acknowledgment ends in an event. -/
def Event.settlement? : Event κ → Option (Settlement κ)
| .notice _ => none
| .settled settlement => some settlement

/- How waiting ends in some events, in order. -/
def settlements (events : List (Event κ)) : List (Settlement κ) :=
  events.filterMap Event.settlement?

@[simp] theorem settlements_nil :
    settlements ([] : List (Event κ)) = [] :=
  rfl

@[simp] theorem settlements_notice (n : Notice) :
    settlements [(.notice n : Event κ)] = [] :=
  rfl

@[simp] theorem settlements_settled
    (settled : List (Settlement κ)) :
    settlements (settled.map .settled) = settled := by
  simp only [settlements, List.filterMap_map]
  exact List.filterMap_some

@[simp] theorem settlements_append
    (events events' : List (Event κ)) :
    settlements (events ++ events') =
      settlements events ++ settlements events' :=
  List.filterMap_append

------------------------------------------------------------
-- Operations on one record
------------------------------------------------------------

namespace Operation

/- How an operation ends waiting for a message, if it does. -/
def ending?
    (r : AckRecord κ) :
    Operation κ → Option AckTable.Ending
| .process _ e =>
    if e.payload = some .acknowledge ∧
        e.responseId = some r.id then
      some .acknowledged
    else none
| .sendWithAck _ fresh _ _ =>
    if fresh = r.id then some .forgotten else none
| .pollTimeouts now =>
    if r.due now then some .timedOut else none
| _ => none

/- An operation settles a record if it ends waiting somehow. -/
theorem settles_eq_isSome
    (op : Operation κ)
    (r : AckRecord κ) :
    op.settles r = (op.ending? r).isSome := by
  cases op with
  | process fresh e =>
      by_cases hNamed :
          e.payload = some .acknowledge ∧
            e.responseId = some r.id
      · simp [settles, ending?, hNamed]
      · simp [settles, ending?, hNamed]
  | sendWithAck now fresh payload label =>
      by_cases hSame : fresh = r.id
      · simp [settles, ending?, hSame]
      · simp [settles, ending?, hSame]
  | pollTimeouts now =>
      cases hDue : r.due now with
      | true => simp [settles, ending?, hDue]
      | false => simp [settles, ending?, hDue]
  | _ => rfl

/- Waiting ends with an acknowledgment when that is processed. -/
theorem exists_process_of_acknowledged
    {op : Operation κ}
    {r : AckRecord κ}
    (hEnding : op.ending? r = some .acknowledged) :
    ∃ fresh e,
      op = .process fresh e ∧
        e.payload = some .acknowledge ∧
        e.responseId = some r.id := by
  cases op with
  | process fresh e =>
      by_cases hNamed :
          e.payload = some .acknowledge ∧
            e.responseId = some r.id
      · exact ⟨fresh, e, rfl, hNamed⟩
      · simp [ending?, hNamed] at hEnding
  | sendWithAck now fresh payload label => simp [ending?] at hEnding
  | pollTimeouts now => simp [ending?] at hEnding
  | _ => cases hEnding

/- It ends with its deadline when that is found to be over. -/
theorem exists_pollTimeouts_of_timedOut
    {op : Operation κ}
    {r : AckRecord κ}
    (hEnding : op.ending? r = some .timedOut) :
    ∃ now, op = .pollTimeouts now ∧ r.due now = true := by
  cases op with
  | pollTimeouts now =>
      cases hDue : r.due now with
      | true => exact ⟨now, rfl, hDue⟩
      | false => simp [ending?, hDue] at hEnding
  | process fresh e => simp [ending?] at hEnding
  | sendWithAck now fresh payload label => simp [ending?] at hEnding
  | _ => cases hEnding

/- What the record has to tell then. -/
def told?
    (op : Operation κ)
    (r : AckRecord κ) : Option (Settlement κ) := do
  let ending ← op.ending? r
  let outcome ← ending.outcome?
  r.settle outcome

/- A record tells of its own label. -/
theorem label_of_told?
    {op : Operation κ}
    {r : AckRecord κ}
    {settlement : Settlement κ}
    (hTold : op.told? r = some settlement) :
    r.label = some settlement.label := by
  rcases Option.bind_eq_some_iff.mp hTold with
    ⟨ending, _, hEnding⟩
  rcases Option.bind_eq_some_iff.mp hEnding with
    ⟨outcome, _, hSettle⟩
  rcases Option.map_eq_some_iff.mp hSettle with
    ⟨label, hLabel, hSettlement⟩
  rw [hLabel, ← hSettlement]

/- What ends waiting for no message tells nothing. -/
theorem filterMap_told?_of_silent
    {op : Operation κ}
    (hSilent : ∀ r, op.told? r = none)
    (records : List (AckRecord κ)) :
    records.filterMap op.told? = [] :=
  List.filterMap_eq_nil_iff.mpr fun r _ => hSilent r

end Operation

------------------------------------------------------------
-- Handlers
------------------------------------------------------------

section Handlers

variable (d : Delegate σ)
variable (s : Session σ κ)

/- Where only an activated session acts, nothing else is told. -/
theorem settlements_whenActive
    {kind : Kind}
    {act : Step σ κ (Except Refusal α)}
    (hAct : settlements act.events = []) :
    settlements (s.whenActive kind act).events = [] := by
  by_cases hActive : s.state.status = .activated
  · rwa [whenActive_of_active kind act hActive]
  · rw [whenActive_of_inactive kind act hActive]
    rfl

/- Nothing is told when a session starts. -/
theorem settlements_start (fresh : String) :
    settlements (s.start fresh).events = [] := by
  unfold start
  cases s.state.status with
  | _ => rfl

/- Nothing is told when it is activated. -/
theorem settlements_activate (profile : ClientProfile) :
    settlements (s.activate d profile).events = [] := by
  unfold activate
  cases s.state.status with
  | starting =>
      by_cases hSpoken :
          profile.apiVersion = "" ∨
            s.info.speaksWith profile.apiVersion
      · simp only [hSpoken, if_true, announce_events,
          settlements_notice]
      · simp only [hSpoken, if_false]
        rfl
  | _ => rfl

/- Nothing is told when it ends. -/
theorem settlements_shutdown :
    settlements (s.shutdown d).events = [] := by
  unfold shutdown
  cases s.state.status with
  | _ => rfl

/- So it is with every message that does not acknowledge. -/
theorem settlements_handle
    (fresh : String)
    (header : Header)
    {payload : Payload}
    (hOther : payload ≠ .acknowledge) :
    settlements (s.handle d fresh header payload).events = [] := by
  cases payload with
  | sessionStart info => exact settlements_start s fresh
  | sessionActivate profile => exact settlements_activate d s profile
  | sessionShutdown => exact settlements_shutdown d s
  | acknowledge => exact absurd rfl hOther
  | getCameraList => exact settlements_whenActive s rfl
  | motionGetMode => exact settlements_whenActive s rfl
  | setActiveCamera id =>
      apply settlements_whenActive
      cases d.find? s.host id with
      | none => rfl
      | some camera =>
          simp only [pickCamera, announce_events,
            settlements_notice]
  | motionSetMode requested =>
      apply settlements_whenActive
      unfold changeMode
      cases s.state.mode.transition requested with
      | none => rfl
      | some mode =>
          simp only [announce_events, settlements_notice]
  | motionUpdate transform =>
      apply settlements_whenActive
      unfold takeTransform
      cases s.state.mode.capturing with
      | false => rfl
      | true =>
          simp only [if_true, announce_events,
            settlements_notice]
  | _ => rfl

/- A refusal tells nothing, also if it ends the session. -/
theorem settlements_refuse
    (fresh : String)
    (header : Header)
    (refusal : Refusal) :
    settlements (s.refuse d fresh header refusal).events = [] := by
  cases hFatal : refusal.toFault.fatal with
  | true =>
      simp only [refuse, hFatal, if_true]
      exact settlements_shutdown d s
  | false =>
      rw [refuse_of_harmless d fresh header s hFatal]
      rfl

------------------------------------------------------------
-- Operations
------------------------------------------------------------

/- A message tells what its handler tells. -/
theorem settlements_process_eq
    (fresh : String)
    {e : Envelope}
    {payload : Payload}
    (hPayload : e.payload = some payload) :
    settlements (s.process d fresh e).events =
      settlements
        (handle d fresh e.header payload
          { s with received := s.received + 1 }).events := by
  cases hResult :
      (handle d fresh e.header payload
        { s with received := s.received + 1 }).result with
  | ok answer =>
      rw [(process_events_of_ok d fresh hPayload hResult).2]
  | error refusal =>
      simp only [process, hPayload, hResult, settlements_append,
        settlements_refuse, List.append_nil]

/- It tells nothing unless it acknowledges. -/
theorem settlements_process_of_other
    (fresh : String)
    {e : Envelope}
    (hOther : e.payload ≠ some .acknowledge) :
    settlements (s.process d fresh e).events = [] := by
  cases hPayload : e.payload with
  | none =>
      rw [(process_missing_state d fresh s hPayload).2]
      rfl
  | some payload =>
      rw [settlements_process_eq d s fresh hPayload]
      apply settlements_handle
      intro hAcknowledge
      exact hOther (hPayload.trans (congrArg some hAcknowledge))

/- An acknowledgment tells what the record it names has to tell. -/
theorem settlements_process_acknowledge
    (fresh : String)
    {e : Envelope}
    (hAcknowledge : e.payload = some .acknowledge) :
    settlements (s.process d fresh e).events =
      s.acks.records.filterMap
        (Operation.told? (.process fresh e)) := by
  have hTarget : e.header.responseId = e.responseId := rfl
  rw [settlements_process_eq d s fresh hAcknowledge]
  unfold handle
  rw [hTarget]
  cases hNamed : e.responseId with
  | none =>
      symm
      apply Operation.filterMap_told?_of_silent
      intro r
      simp [Operation.told?, Operation.ending?, hNamed]
  | some target =>
      simp only [settlements_settled,
        AckTable.settlements_acknowledge]
      rw [List.filterMap_filter]
      congr 1
      funext r
      by_cases hSame : target = r.id
      · simp [Operation.told?, Operation.ending?, hAcknowledge,
          hNamed, AckTable.Ending.outcome?, hSame]
      · simp [Operation.told?, Operation.ending?, hNamed,
          hSame, Ne.symm hSame]

/- To give up on messages tells what the records due have to tell. -/
theorem settlements_pollTimeouts (now : Nat) :
    settlements (s.pollTimeouts now).events =
      s.acks.records.filterMap
        (Operation.told? (.pollTimeouts now)) := by
  simp only [pollTimeouts, AckTable.expire, settlements_settled]
  rw [List.filterMap_filter]
  congr 1
  funext r
  cases hDue : r.due now with
  | true =>
      simp [Operation.told?, Operation.ending?,
        AckTable.Ending.outcome?, hDue]
  | false => simp [Operation.told?, Operation.ending?, hDue]

/- Every operation tells what the records it ends have to tell. -/
theorem settlements_perform (op : Operation κ) :
    settlements (s.perform d op).events =
      s.acks.records.filterMap op.told? := by
  cases op with
  | process fresh e =>
      by_cases hAcknowledge : e.payload = some .acknowledge
      · exact settlements_process_acknowledge d s fresh hAcknowledge
      · rw [Operation.filterMap_told?_of_silent]
        · exact settlements_process_of_other d s fresh hAcknowledge
        · intro r
          simp [Operation.told?, Operation.ending?, hAcknowledge]
  | pollTimeouts now => exact settlements_pollTimeouts s now
  | sendWithAck now fresh payload label =>
      -- A message that gives up its name is forgotten silently.
      rw [Operation.filterMap_told?_of_silent]
      · rfl
      · intro r
        by_cases hSame : fresh = r.id
        · simp [Operation.told?, Operation.ending?,
            AckTable.Ending.outcome?, hSame]
        · simp [Operation.told?, Operation.ending?, hSame]
  | start fresh =>
      rw [Operation.filterMap_told?_of_silent fun _ => rfl]
      exact settlements_start s fresh
  | activate profile =>
      rw [Operation.filterMap_told?_of_silent fun _ => rfl]
      exact settlements_activate d s profile
  | shutdown =>
      rw [Operation.filterMap_told?_of_silent fun _ => rfl]
      exact settlements_shutdown d s
  | motionInfo fresh =>
      rw [Operation.filterMap_told?_of_silent fun _ => rfl]
      rfl

end Handlers

end Session

end CaptureLink
