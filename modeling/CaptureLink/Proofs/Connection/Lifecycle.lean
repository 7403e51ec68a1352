import CaptureLink.Proofs.Connection.Response
import CaptureLink.Proofs.Session.Lifecycle

/-
  A connection performs operations of its session and nothing
  else.  It ends with the end of the session, and so its
  application is told of one end for each start, whatever
  arrives, and whatever was done with the session before.

  Main statements:
    * `Connection.operations`
    * `Connection.performed_takeAll`
    * `Connection.performed_served`
    * `Connection.end_per_start`
-/

namespace CaptureLink

variable {σ κ β : Type}

/- The operation that an arrival asks for. -/
def Arrival.operation?
    (fresh : String) :
    Arrival κ → Option (Session.Operation κ)
| .envelope e => some (.process fresh e)
| .undecodable _ => none
| .sendWithAck now payload label =>
    some (.sendWithAck now fresh payload label)
| .motionInfo => some (.motionInfo fresh)
| .tick now => some (.pollTimeouts now)

namespace Connection

------------------------------------------------------------
-- What a connection performs
------------------------------------------------------------

/- The operations that a connection performs with arrivals. -/
def operations
    (setting : Setting σ β) :
    Connection σ κ β → List (Arrival κ) →
      List (Session.Operation κ)
| _, [] => []
| c, arrival :: arrivals =>
    (if c.broken.isSome then []
      else (arrival.operation? (c.nextName setting)).toList) ++
    operations setting (c.take setting arrival) arrivals

/-
  A connection comes to another one by operations of its
  session.
-/
structure Performed
    (d : Delegate σ)
    (ops : List (Session.Operation κ))
    (c c' : Connection σ κ β) : Prop where
  session_eq : c'.session = (c.session.performAll d ops).session
  events_eq :
    c'.events = c.events ++ (c.session.performAll d ops).events

section Performing

variable {d : Delegate σ}

/- To do nothing is to perform nothing. -/
theorem performed_self (c : Connection σ κ β) :
    Performed d [] c c where
  session_eq := rfl
  events_eq := (List.append_nil _).symm

/- Some operations and then others. -/
theorem Performed.trans
    {ops ops' : List (Session.Operation κ)}
    {c c' c'' : Connection σ κ β}
    (hFirst : Performed d ops c c')
    (hSecond : Performed d ops' c' c'') :
    Performed d (ops ++ ops') c c'' where
  session_eq := by
    rw [hSecond.session_eq, hFirst.session_eq,
      Session.performAll_append]
  events_eq := by
    rw [hSecond.events_eq, hFirst.events_eq, hFirst.session_eq,
      Session.performAll_append, List.append_assoc]

/- One operation. -/
theorem performed_one
    {op : Session.Operation κ}
    {c c' : Connection σ κ β}
    (hSession : c'.session = (c.session.perform d op).session)
    (hEvents :
      c'.events = c.events ++ (c.session.perform d op).events) :
    Performed d [op] c c' where
  session_eq := hSession
  events_eq := by
    rw [hEvents, Session.performAll_singleton]

end Performing

section Running

variable (setting : Setting σ β)

/- A response is the operation that was asked for. -/
theorem performed_take
    (c : Connection σ κ β)
    (arrival : Arrival κ) :
    Performed setting.delegate
      (if c.broken.isSome then []
        else (arrival.operation? (c.nextName setting)).toList)
      c (c.take setting arrival) := by
  cases hBroken : c.broken with
  | some fault =>
      have hSome : c.broken ≠ none := by
        rw [hBroken]
        exact Option.some_ne_none _
      rw [take_of_broken arrival hSome]
      exact performed_self c
  | none =>
      rw [take_of_open arrival hBroken]
      cases arrival with
      | undecodable defect =>
          rcases respond_undecodable setting.delegate setting.words
              (c.nextName setting) c.session defect with
            ⟨hSession, hEvents⟩
          refine ⟨(carryOut_session ..).trans hSession, ?_⟩
          rw [carryOut_events, hEvents]
          rfl
      | envelope e =>
          exact performed_one (carryOut_session ..)
            (carryOut_events ..)
      | sendWithAck now payload label =>
          exact performed_one (carryOut_session ..)
            (carryOut_events ..)
      | motionInfo =>
          exact performed_one (carryOut_session ..)
            (carryOut_events ..)
      | tick now =>
          exact performed_one (carryOut_session ..)
            (carryOut_events ..)

/- So it is with everything that arrives. -/
theorem performed_takeAll
    (c : Connection σ κ β)
    (arrivals : List (Arrival κ)) :
    Performed setting.delegate (c.operations setting arrivals) c
      (c.takeAll setting arrivals) := by
  induction arrivals generalizing c with
  | nil => exact performed_self c
  | cons arrival arrivals ih =>
      exact (performed_take setting c arrival).trans (ih _)

/- A connection from its beginning to its end. -/
def served
    (initiate : Bool)
    (issued : Nat)
    (s : Session σ κ)
    (arrivals : List (Arrival κ)) : Connection σ κ β :=
  ((establish setting initiate issued s).takeAll setting
    arrivals).close setting

/- The operations that it performs. -/
def servedOperations
    (initiate : Bool)
    (issued : Nat)
    (s : Session σ κ)
    (arrivals : List (Arrival κ)) :
    List (Session.Operation κ) :=
  ((if initiate then [.start (setting.name (issued + 1))]
    else []) ++
  (establish setting initiate issued s).operations setting
    arrivals) ++ [.shutdown]

/- The introduction is a start. -/
theorem performed_establish
    (initiate : Bool)
    (issued : Nat)
    (s : Session σ κ) :
    Performed setting.delegate
      (if initiate then [.start (setting.name (issued + 1))]
        else [])
      (opened issued s) (establish setting initiate issued s) := by
  cases initiate with
  | false => exact performed_self _
  | true =>
      rw [establish_initiated]
      rcases introduce_start (setting.name (issued + 1)) s with
        ⟨hSession, hEvents⟩
      refine performed_one ((carryOut_session ..).trans hSession) ?_
      rw [carryOut_events, hEvents]
      rfl

/- The end is a shutdown. -/
theorem performed_served
    (initiate : Bool)
    (issued : Nat)
    (s : Session σ κ)
    (arrivals : List (Arrival κ)) :
    Performed setting.delegate
      (servedOperations setting initiate issued s arrivals)
      (opened issued s)
      (served setting initiate issued s arrivals) :=
  ((performed_establish setting initiate issued s).trans
    (performed_takeAll setting _ arrivals)).trans
      (performed_one rfl rfl)

end Running

/- It is the same over a byte stream, however that ends. -/
theorem performed_serveStream
    (setting : Setting σ (List UInt8))
    (limit : Nat)
    (initiate : Bool)
    (issued : Nat)
    (s : Session σ κ)
    (pieces : List (List UInt8)) :
    Performed setting.delegate
      (servedOperations setting initiate issued s
        (Arrival.ofStream limit pieces).1)
      (opened issued s)
      ((establish setting initiate issued s).serveStream setting
        limit pieces) := by
  refine ((performed_establish setting initiate issued s).trans
    (performed_takeAll setting _ _)).trans ?_
  rcases exists_closed_serveStream setting limit
      (establish setting initiate issued s) pieces with
    ⟨_, hServed⟩
  rw [hServed]
  exact performed_one rfl rfl

------------------------------------------------------------
-- One end for each start
------------------------------------------------------------

/-
  Since the session `s`, in which nothing had happened yet,
  these operations have been performed, the last of them by a
  connection that has ended.  There is no session any more,
  and its application was told of one end for each start.
-/
structure Ends
    (d : Delegate σ)
    (s : Session σ κ)
    (earlier : List (Session.Event κ))
    (ops : List (Session.Operation κ))
    (c : Connection σ κ β) : Prop where
  session_eq : c.session = (s.performAll d ops).session
  events_eq : earlier ++ c.events = (s.performAll d ops).events
  offline : c.session.state.status = .offline
  count_eq :
    (Session.notices (earlier ++ c.events)).count .shutdown =
      Session.starts (s.marksAll d ops)

/- What ends with a shutdown is offline. -/
theorem status_performAll_shutdown
    (d : Delegate σ)
    (s : Session σ κ)
    (ops : List (Session.Operation κ)) :
    (s.performAll d
      (ops ++ [.shutdown])).session.state.status = .offline := by
  rw [Session.performAll_append]
  simp only [Session.performAll_singleton]
  exact Session.status_shutdown d _

/- So a connection ends with as many ends as starts. -/
theorem ends_of_performed
    {d : Delegate σ}
    {s : Session σ κ}
    {ops during : List (Session.Operation κ)}
    {issued : Nat}
    {c : Connection σ κ β}
    (hNew : s.state.status = .offline)
    (hPerformed :
      Performed d (during ++ [.shutdown])
        (opened issued (s.performAll d ops).session) c) :
    Ends d s (s.performAll d ops).events
      (ops ++ (during ++ [.shutdown])) c := by
  have hSession :
      c.session =
        (s.performAll d
          (ops ++ (during ++ [.shutdown]))).session := by
    rw [hPerformed.session_eq, Session.performAll_append d s ops]
    rfl
  have hEvents :
      (s.performAll d ops).events ++ c.events =
        (s.performAll d
          (ops ++ (during ++ [.shutdown]))).events := by
    rw [hPerformed.events_eq, Session.performAll_append d s ops]
    rfl
  have hOffline : c.session.state.status = .offline := by
    rw [hSession, ← List.append_assoc]
    exact status_performAll_shutdown d s _
  refine ⟨hSession, hEvents, hOffline, ?_⟩
  have hMarked :=
    Session.marked_performAll d s
      (ops ++ (during ++ [.shutdown]))
  have hCount := hMarked.leads.count_starts
  rw [← hSession, hNew, hOffline, if_pos rfl] at hCount
  rw [hEvents, hMarked.notices_eq]
  exact hCount.symm

/-
  Whatever is done with a new session: its marks are what its
  application is told, and by what session.  It hears the
  beginning of a word of lives, hears of an end only while
  there is a session to be ended, and has heard of an end for
  each start but the last, whose end it has not heard of
  unless the session is offline.  If the application fails
  while a message is dealt with, it is told of the end next.
  So it is told of one end for each start when a connection
  has ended, whatever arrived, over a byte stream or not.
-/
theorem end_per_start
    (d : Delegate σ)
    (info : ServerInfo)
    (ackTimeout : Option Nat)
    (host : σ)
    (ops : List (Session.Operation κ)) :
    let s : Session σ κ := .new info ackTimeout host
    let step := s.performAll d ops
    let marks := s.marksAll d ops
    let told := Session.notices step.events
    Session.Marked d s step marks ∧
      (∃ word ∈ Session.lives.matches',
        told.map Notice.hook <+: word) ∧
      (∀ s',
        .told s' .shutdown ∈ marks →
          s'.state.status = .starting ∨
            s'.state.status = .activated) ∧
      Session.starts marks =
        told.count .shutdown +
          (if step.session.state.status = .offline then 0
            else 1) ∧
      (∀ fresh e earlier s' n later,
        step.session.marks d (.process fresh e) =
          earlier ++ .told s' n :: later →
        n ≠ .shutdown →
        (d.notify n s'.host).2 ≠ none →
          later = [.told (s'.notify d n).session .shutdown]) ∧
      (∀ (β : Type) (port : Port β) words name initiate issued
          arrivals,
        let setting : Setting σ β := ⟨d, port, words, name⟩
        Ends d s step.events
          (ops ++
            servedOperations setting initiate issued
              step.session arrivals)
          (served setting initiate issued step.session
            arrivals)) ∧
      ∀ limit words name initiate issued pieces,
        let setting : Setting σ (List UInt8) :=
          ⟨d, .framed limit, words, name⟩
        Ends d s step.events
          (ops ++
            servedOperations setting initiate issued
              step.session (Arrival.ofStream limit pieces).1)
          ((establish setting initiate issued
            step.session).serveStream setting limit pieces) := by
  intro s step marks told
  have hNew : s.state.status = .offline := rfl
  have hMarked := Session.marked_performAll d s ops
  have hLeads := hMarked.leads
  refine ⟨hMarked, ?_, ?_, ?_, ?_, ?_, ?_⟩
  · refine ⟨_, hLeads.mem_ahead, ?_⟩
    rw [← hMarked.notices_eq]
    exact List.prefix_append _ _
  · intro s' hTold
    exact Session.starting_or_activated
      (hLeads.begun_of_shutdown hTold)
  · have hCount := hLeads.count_starts
    rw [← hMarked.notices_eq] at hCount
    exact hCount
  · intro fresh e earlier s' n later hMarks hOther hFailed
    exact Session.told_of_failing hMarks hOther hFailed
  · intro β port words name initiate issued arrivals setting
    exact ends_of_performed hNew
      (performed_served setting initiate issued step.session
        arrivals)
  · intro limit words name initiate issued pieces setting
    exact ends_of_performed hNew
      (performed_serveStream setting limit initiate issued
        step.session pieces)

/- An application that fails when a camera is picked. -/
def brittle : Delegate Unit :=
  { Delegate.scene [⟨"front"⟩] with
    notify := fun n _ =>
      ((), if n.hook = .camera then some (.delegate "gone")
        else none) }

/- The client accepts a session of this application. -/
def acceptance : List (Session.Operation Nat) :=
  [.start "s1", .activate .anonymous]

/- It picks a camera. -/
def pick : Session.Operation Nat :=
  .process "s2" (.fresh "1" (.setActiveCamera "front"))

/-
  The application fails, and is told of the end, by a session
  that is activated until then.
-/
theorem end_per_start_failing_camera :
    let s : Session Unit Nat := .new .standard none ()
    let accepted := (s.performAll brittle acceptance).session
    let picked :=
      { accepted with
        received := 1
        state := { accepted.state with camera := some ⟨"front"⟩ } }
    let ended := (picked.notify brittle (.camera ⟨"front"⟩)).session
    (brittle.notify (.camera ⟨"front"⟩) picked.host).2 ≠ none ∧
      accepted.marks brittle pick =
        [.told picked (.camera ⟨"front"⟩),
          .told ended .shutdown] ∧
      (ended.state.status = .starting ∨
        ended.state.status = .activated) := by
  intro s accepted picked ended
  have hFailed :
      (brittle.notify (.camera ⟨"front"⟩) picked.host).2 ≠
        none := nofun
  have hFirst :
      ∃ later,
        accepted.marks brittle pick =
          [] ++ .told picked (.camera ⟨"front"⟩) :: later :=
    ⟨_, rfl⟩
  rcases hFirst with ⟨later, hFirst⟩
  have hLater :=
    (end_per_start brittle .standard none ()
      acceptance).2.2.2.2.1 _ _ _ _ _ _ hFirst nofun hFailed
  rw [hLater] at hFirst
  have hTold :
      .told ended .shutdown ∈
        s.marksAll brittle (acceptance ++ [pick]) := by
    rw [Session.marksAll_append]
    apply List.mem_append_right
    rw [Session.marksAll, Session.marksAll, List.append_nil,
      hFirst]
    exact List.mem_cons_of_mem _ List.mem_cons_self
  exact ⟨hFailed, hFirst,
    (end_per_start brittle .standard none ()
      (acceptance ++ [pick])).2.2.1 _ hTold⟩

end Connection

end CaptureLink
