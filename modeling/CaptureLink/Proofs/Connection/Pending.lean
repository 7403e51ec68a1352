import CaptureLink.Proofs.Connection.Lifecycle
import CaptureLink.Proofs.Session.Pending

/-
  What still waits for an acknowledgment when a connection has
  ended.  A session that is there is ended then, and nothing
  waits any more.  Where there is none, what was sent without
  one is left over.

  Main statements:
    * `Connection.Concludes`
    * `Connection.concludes_of_performed`
    * `Connection.pending_at_end`
-/

namespace CaptureLink

namespace Connection

variable {σ κ β : Type}

/-
  These operations have been performed since nothing waited,
  the last of them by a connection that ended well, with this
  report.  There is no session any more, and what waits is
  what is left over: nothing if there was a session until the
  end, and nothing if there was one whenever a message was
  sent that waits.
-/
structure Concludes
    (d : Delegate σ)
    (s : Session σ κ)
    (ops : List (Session.Operation κ))
    (c : Connection σ κ β)
    (report : Report) : Prop where
  status_eq : report.status = .offline
  pending_eq : report.pending = c.session.acks.records.length
  mem_iff :
    ∀ r,
      r ∈ c.session.acks.records ↔ Session.LeftOver d s ops r
  pending_of_begun :
    ∀ earlier,
      ops = earlier ++ [.shutdown] →
      (s.performAll d earlier).session.state.status ≠ .offline →
        report.pending = 0
  pending_of_online :
    (∀ before op after r,
      ops = before ++ op :: after →
      op.record? s.ackTimeout = some r →
        (s.performAll d before).session.state.status ≠
          .offline) →
      report.pending = 0

/- If nothing is left over, nothing waits. -/
theorem length_eq_zero_of_leftOver
    {d : Delegate σ}
    {s : Session σ κ}
    {ops : List (Session.Operation κ)}
    {records : List (AckRecord κ)}
    (hRecords : ∀ r, r ∈ records ↔ Session.LeftOver d s ops r)
    (hNone : ∀ r, ¬ Session.LeftOver d s ops r) :
    records.length = 0 := by
  rw [List.length_eq_zero_iff, List.eq_nil_iff_forall_not_mem]
  intro r hMem
  exact hNone r ((hRecords r).mp hMem)

/- A connection that ends well reports on its session. -/
theorem report_of_outcome
    {c : Connection σ κ β}
    {report : Report}
    (hOutcome : c.outcome = .ok report) :
    report = .ofSession c.session := by
  unfold outcome at hOutcome
  cases hBroken : c.broken with
  | none =>
      rw [hBroken] at hOutcome
      exact (Except.ok.inj hOutcome).symm
  | some fault =>
      rw [hBroken] at hOutcome
      cases hOutcome

/- What ends well with a shutdown concludes. -/
theorem concludes_of_performed
    {d : Delegate σ}
    {s : Session σ κ}
    {ops during : List (Session.Operation κ)}
    {issued : Nat}
    {c : Connection σ κ β}
    {report : Report}
    (hNew : s.acks = .empty)
    (hPerformed :
      Performed d (during ++ [.shutdown])
        (opened issued (s.performAll d ops).session) c)
    (hOutcome : c.outcome = .ok report) :
    Concludes d s (ops ++ (during ++ [.shutdown])) c report := by
  have hSession :
      c.session =
        (s.performAll d
          (ops ++ (during ++ [.shutdown]))).session := by
    rw [hPerformed.session_eq, Session.performAll_append d s ops]
    rfl
  have hOffline : c.session.state.status = .offline := by
    rw [hSession, ← List.append_assoc]
    exact status_performAll_shutdown d s _
  have hRecords :
      ∀ r,
        r ∈ c.session.acks.records ↔
          Session.LeftOver d s (ops ++ (during ++ [.shutdown]))
            r := by
    intro r
    rw [hSession] at hOffline ⊢
    exact Session.mem_acks_iff_leftOver hNew _ r hOffline
  have hReport := report_of_outcome hOutcome
  subst hReport
  refine
    { status_eq := hOffline
      pending_eq := rfl
      mem_iff := hRecords
      pending_of_begun := ?_
      pending_of_online := ?_ }
  · intro earlier hOps hBegun
    apply length_eq_zero_of_leftOver hRecords
    intro r hLeft
    rw [hOps] at hLeft
    rcases ((Session.leftOver_concat ..).mp hLeft).2 with
      ⟨hLeft, _⟩ | hSent
    · exact hBegun hLeft.offline
    · cases hSent
  · intro hOnline
    apply length_eq_zero_of_leftOver hRecords
    rintro r ⟨before, op, after, hOps, hSent, hSince, _⟩
    apply hOnline before op after r hOps hSent
    have hThen := hSince [] (List.nil_prefix)
    rw [Session.session_performAll_concat,
      Session.status_perform_of_record? hSent] at hThen
    exact hThen

/-
  Whatever is done with a new session, and whatever a
  connection deals with then: if it ends well, over a byte
  stream or not, there is no session any more, and exactly
  those messages wait that are left over.
-/
theorem pending_at_end
    (d : Delegate σ)
    (info : ServerInfo)
    (ackTimeout : Option Nat)
    (host : σ)
    (ops : List (Session.Operation κ)) :
    let s : Session σ κ := .new info ackTimeout host
    let s' := (s.performAll d ops).session
    (∀ (β : Type) (port : Port β) words name initiate issued
        arrivals report,
      let setting : Setting σ β := ⟨d, port, words, name⟩
      let c := served setting initiate issued s' arrivals
      c.outcome = .ok report →
        Concludes d s
          (ops ++
            servedOperations setting initiate issued s' arrivals)
          c report) ∧
    ∀ limit words name initiate issued pieces report,
      let setting : Setting σ (List UInt8) :=
        ⟨d, .framed limit, words, name⟩
      let c :=
        (establish setting initiate issued s').serveStream
          setting limit pieces
      c.outcome = .ok report →
        Concludes d s
          (ops ++
            servedOperations setting initiate issued s'
              (Arrival.ofStream limit pieces).1)
          c report := by
  intro s s'
  constructor
  · intro β port words name initiate issued arrivals report
      setting c
    exact concludes_of_performed rfl
      (performed_served setting initiate issued s' arrivals)
  · intro limit words name initiate issued pieces report
      setting c
    exact concludes_of_performed rfl
      (performed_serveStream setting limit initiate issued s'
        pieces)

/- The server asks for the cameras and waits for an answer. -/
def question : List (Arrival Nat) :=
  [.sendWithAck 0 .getCameraList (some 7)]

/-
  The server has introduced itself before it asks, and so
  nothing waits at the end.
-/
theorem pending_at_end_introduced :
    let s : Session Unit Nat := .new .standard none ()
    let setting : Setting Unit Envelope :=
      ⟨.idle, .direct, .constant "", fun n => n.repr⟩
    let report : Report := ⟨.offline, 0, 1, 0, 0, 0⟩
    (served setting true 0 s question).outcome = .ok report ∧
      report.pending = 0 := by
  intro s setting report
  have hOutcome :
      (served setting true 0 s question).outcome =
        .ok report := rfl
  have hConcludes :=
    (pending_at_end .idle .standard none () []).1 _ .direct
      (.constant "") (fun n => n.repr) true 0 question report
      hOutcome
  exact ⟨hOutcome, hConcludes.pending_of_begun _ rfl nofun⟩

/-
  Without an introduction there is no session when the server
  asks, and its question still waits at the end.
-/
theorem pending_at_end_unintroduced :
    let s : Session Unit Nat := .new .standard none ()
    let setting : Setting Unit Envelope :=
      ⟨.idle, .direct, .constant "", fun n => n.repr⟩
    let c := served setting false 0 s question
    c.outcome = .ok ⟨.offline, 0, 1, 0, 0, 1⟩ ∧
      ¬ ∀ report, c.outcome = .ok report →
        report.status = .offline ∧ report.pending = 0 := by
  intro s setting c
  have hOutcome : c.outcome = .ok ⟨.offline, 0, 1, 0, 0, 1⟩ :=
    rfl
  refine ⟨hOutcome, fun hClaim => ?_⟩
  cases (hClaim _ hOutcome).2

end Connection

end CaptureLink
