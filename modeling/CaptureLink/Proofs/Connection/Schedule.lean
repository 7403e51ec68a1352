import CaptureLink.Proofs.Connection.Lifecycle
import CaptureLink.Proofs.Connection.Transports
import CaptureLink.Proofs.Session.Schedule

/-
  The order in which a connection deals with what arrives.
  The server's own messages, ticks of the clock,
  acknowledgments and reported faults do not disturb the
  requests of the client, wherever they come between them.

  Main statements:
    * `Connection.answers`
    * `Connection.exists_sent_answers`
    * `Connection.requests_undisturbed`
-/

namespace CaptureLink

namespace Connection

variable {σ κ β : Type}

open Session (Slot requests)

/- The answers among what comes of requests, without their names. -/
def answers
    (exchanges : List (Session.Exchange σ)) : List Envelope :=
  exchanges.filterMap Session.Exchange.answer

------------------------------------------------------------
-- Answers that leave
------------------------------------------------------------

/- Over a channel every message leaves. -/
theorem outgoing_carryOut_directly
    {d : Delegate σ}
    {words : Diagnosis}
    {name : Nat → String}
    {c : Connection σ κ Envelope}
    {r : Response σ κ}
    {answer : Option Envelope}
    (hAnswer : r.answer = .ok answer) :
    (c.carryOut (directly d words name) r).outgoing =
      c.outgoing ++ answer.toList := by
  cases answer with
  | none =>
      rw [carryOut_of_silent hAnswer]
      exact (List.append_nil _).symm
  | some e =>
      have hCarry : (directly d words name).port.carry e = .ok e := rfl
      rw [carryOut_of_spoken hAnswer hCarry]
      rfl

/- One request has one answer at most. -/
theorem answers_singleton (x : Session.Exchange σ) :
    answers [x] = x.answer.toList := by
  cases hAnswer : x.answer with
  | _ => simp [answers, hAnswer]

/- An open one sends the answer to a request. -/
theorem exists_sent_slot
    {d : Delegate σ}
    {words : Diagnosis}
    {name : Nat → String}
    {c : Connection σ κ Envelope}
    {arrival : Arrival κ}
    {slot : Slot κ}
    (hOpen : c.broken = none)
    (hSlot :
      arrival.operation? (c.nextName (directly d words name)) =
        some slot.operation) :
    ∃ now,
      (c.take (directly d words name) arrival).outgoing =
          c.outgoing ++ now ∧
        (answers (slot.exchange? d c.session).toList).Sublist
          (now.map (·.named "")) := by
  cases slot with
  | aside op hAside =>
      rcases exists_outgoing_takeAll (directly d words name) c
          [arrival] with
        ⟨now, hOutgoing⟩
      exact ⟨now, hOutgoing, List.nil_sublist _⟩
  | request fresh e =>
      cases arrival with
      | envelope e' =>
          cases hSlot
          refine
            ⟨(c.session.process d
              (c.nextName (directly d words name)) e).result.toList,
              ?_, ?_⟩
          · rw [take_of_open _ hOpen]
            exact outgoing_carryOut_directly rfl
          · rw [Slot.exchange?, Option.toList_some,
              answers_singleton, ← Option.toList_map]
            exact List.Sublist.refl _
      | _ => cases hSlot

/- Whatever arrives, it sends the answer to what it performs. -/
theorem exists_sent_take
    {d : Delegate σ}
    {words : Diagnosis}
    {name : Nat → String}
    {c : Connection σ κ Envelope}
    {arrival : Arrival κ}
    {slots : List (Slot κ)}
    (hSlots :
      slots.map Slot.operation =
        if c.broken.isSome then []
        else
          (arrival.operation?
            (c.nextName (directly d words name))).toList) :
    ∃ now,
      (c.take (directly d words name) arrival).outgoing =
          c.outgoing ++ now ∧
        (answers (c.session.exchanges d slots)).Sublist
          (now.map (·.named "")) := by
  cases slots with
  | nil =>
      rcases exists_outgoing_takeAll (directly d words name) c
          [arrival] with
        ⟨now, hOutgoing⟩
      exact ⟨now, hOutgoing, List.nil_sublist _⟩
  | cons slot slots =>
      by_cases hBroken : c.broken.isSome = true
      · rw [if_pos hBroken] at hSlots
        cases hSlots
      · rw [if_neg hBroken] at hSlots
        cases hOperation :
            arrival.operation? (c.nextName (directly d words name)) with
        | none =>
            rw [hOperation] at hSlots
            cases hSlots
        | some op =>
            rw [hOperation, Option.toList_some, List.map_cons]
              at hSlots
            rcases List.cons.inj hSlots with ⟨hHead, hTail⟩
            subst hHead
            rw [List.map_eq_nil_iff] at hTail
            subst hTail
            rw [Session.exchanges, Session.exchanges,
              List.append_nil]
            exact exists_sent_slot
              (Option.not_isSome_iff_eq_none.mp hBroken)
              hOperation

/-
  A connection over a channel sends the answers to the
  requests among what it performs, in their order.
-/
theorem exists_sent_answers
    (d : Delegate σ)
    (words : Diagnosis)
    (name : Nat → String)
    (c : Connection σ κ Envelope)
    (arrivals : List (Arrival κ))
    {slots : List (Slot κ)}
    (hSlots :
      slots.map Slot.operation =
        c.operations (directly d words name) arrivals) :
    ∃ sent,
      (c.takeAll (directly d words name) arrivals).outgoing =
          c.outgoing ++ sent ∧
        (answers (c.session.exchanges d slots)).Sublist
          (sent.map (·.named "")) := by
  induction arrivals generalizing c slots with
  | nil =>
      have hNone : slots = [] := List.map_eq_nil_iff.mp hSlots
      subst hNone
      exact ⟨[], (List.append_nil _).symm, .slnil⟩
  | cons arrival arrivals ih =>
      rcases List.map_eq_append_iff.mp hSlots with
        ⟨here, later, rfl, hHere, hLater⟩
      rcases exists_sent_take hHere with
        ⟨now, hNow, hAnswer⟩
      rcases ih (c.take (directly d words name) arrival) hLater with
        ⟨sent, hSent, hAnswers⟩
      have hSession :=
        (performed_take (directly d words name) c arrival).session_eq
      rw [← hHere] at hSession
      rw [hSession] at hAnswers
      refine ⟨now ++ sent, ?_, ?_⟩
      · rw [takeAll_cons, hSent, hNow, List.append_assoc]
      · rw [List.map_append, Session.exchanges_append, answers,
          List.filterMap_append]
        exact hAnswer.append hAnswers

------------------------------------------------------------
-- Any order
------------------------------------------------------------

/-
  Two schedules have the same requests in the same order, and
  whatever else goes on between them.  The same comes of each
  request: the answer but for its name, the state of the
  session and of the application, and what this is told.  At
  the end the sessions are alike, and the applications were
  told the same.  So it is when a connection performs one of
  the schedules, over whatever port; over a channel the
  answers leave in their order.
-/
theorem requests_undisturbed
    (d : Delegate σ)
    (s : Session σ κ)
    {slots slots' : List (Slot κ)}
    (hRequests : requests slots' = requests slots) :
    let step := s.performAll d (slots.map Slot.operation)
    s.exchanges d slots' = s.exchanges d slots ∧
      Session.AlikeStep step
        (s.performAll d (slots'.map Slot.operation)) ∧
      (∀ (β : Type) (port : Port β) words name
          (c : Connection σ κ β) arrivals,
        let setting : Setting σ β := ⟨d, port, words, name⟩
        c.session = s →
          slots'.map Slot.operation =
              c.operations setting arrivals →
            Session.Alike step.session
                (c.takeAll setting arrivals).session ∧
              Session.notices
                  (c.takeAll setting arrivals).events =
                Session.notices c.events ++
                  Session.notices step.events) ∧
      ∀ words name (c : Connection σ κ Envelope) arrivals,
        c.session = s →
          slots'.map Slot.operation =
              c.operations (directly d words name) arrivals →
            ∃ sent,
              (c.takeAll (directly d words name) arrivals).outgoing =
                  c.outgoing ++ sent ∧
                (answers (s.exchanges d slots)).Sublist
                  (sent.map (·.named "")) := by
  intro step
  have hSelf := Session.Alike.refl s
  have hExchanges :
      s.exchanges d slots' = s.exchanges d slots := by
    rw [Session.exchanges_of_alike slots' hSelf, hRequests,
      Session.exchanges_of_alike slots hSelf]
  have hStep :
      Session.AlikeStep step
        (s.performAll d (slots'.map Slot.operation)) := by
    have hOne := Session.alike_performAll (d := d) slots hSelf
    have hOther := Session.alike_performAll (d := d) slots' hSelf
    rw [hRequests] at hOther
    exact
      ⟨hOne.session_alike.symm.trans hOther.session_alike,
        hOther.notices_eq.trans hOne.notices_eq.symm, rfl⟩
  refine ⟨hExchanges, hStep, ?_, ?_⟩
  · intro β port words name c arrivals setting hSession hSlots
    have hPerformed := performed_takeAll setting c arrivals
    rw [← hSlots] at hPerformed
    subst hSession
    rw [hPerformed.session_eq, hPerformed.events_eq,
      Session.notices, List.filterMap_append]
    exact ⟨hStep.session_alike,
      congrArg (_ ++ ·) hStep.notices_eq⟩
  · intro words name c arrivals hSession hSlots
    subst hSession
    rw [← hExchanges]
    exact exists_sent_answers d words name c arrivals hSlots

/- A client starts, accepts, sets the mode and asks for it. -/
def quietSchedule : List (Slot Nat) :=
  [ .request "a" (.fresh "1" (.sessionStart .standard)),
    .request "b" (.fresh "2" (.sessionActivate .anonymous)),
    .request "c" (.fresh "3" (.motionSetMode .live)),
    .request "d" (.fresh "4" .motionGetMode) ]

/-
  The same among other traffic: a message that waits for its
  acknowledgment when there is no session yet, a tick behind
  its deadline, another message and its acknowledgment, a
  report of the mode, and a fault of the client's own.
-/
def busySchedule : List (Slot Nat) :=
  [ .aside _ (.sendWithAck 0 "m" .getCameraList (some 7)),
    .request "n" (.fresh "1" (.sessionStart .standard)),
    .aside _ (.pollTimeouts 9),
    .request "o" (.fresh "2" (.sessionActivate .anonymous)),
    .aside _ (.sendWithAck 9 "p" .motionGetMode none),
    .aside _ (.acknowledgment "q" "8" "p"),
    .request "q" (.fresh "3" (.motionSetMode .live)),
    .aside _ (.motionInfo "r"),
    .aside _ (.report "s" ⟨"9", none⟩ ⟨"broken", "lens", true⟩),
    .request "s" (.fresh "4" .motionGetMode) ]

/- The answers to the requests are the same. -/
theorem requests_undisturbed_busy_schedule :
    let s : Session Unit Nat := .new .standard (some 5) ()
    requests busySchedule = requests quietSchedule ∧
      s.exchanges .idle busySchedule =
        s.exchanges .idle quietSchedule ∧
      answers (s.exchanges .idle busySchedule) =
        [ .fresh "" (.sessionStart .standard),
          .reply "" "3" .acknowledge,
          .reply "" "4" (.motionActiveMode .live) ] := by
  intro s
  have hRequests :
      requests busySchedule = requests quietSchedule := rfl
  have hSame :=
    (requests_undisturbed .idle s hRequests).1
  refine ⟨hRequests, hSame, ?_⟩
  rw [hSame]
  rfl

end Connection

end CaptureLink
