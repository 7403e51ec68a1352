import CaptureLink.Proofs.Session.Answer
import CaptureLink.Proofs.Session.Reply
import Mathlib.Data.List.ReduceOption

/-
  Two sessions that answer each other.  A message comes to one
  of them, its answer to the other, the answer to that back to
  the first, and so on until one of them is silent.  Every
  answer may bring about fewer answers than what it answers,
  and so there are three of them at most: two sessions that
  greet each other, and a complaint.

  Main declarations:
    * `Session.Peer`
    * `Session.volley`
    * `Session.answersDue`
    * `Session.answersDue_lt`
    * `Session.volley_eq`
    * `Session.answers_volley_le`
-/

namespace CaptureLink

namespace Session

variable {σ κ τ ν : Type}

------------------------------------------------------------
-- Volleys
------------------------------------------------------------

/- A session, and the application behind it. -/
structure Peer (σ κ : Type) where
  delegate : Delegate σ
  session : Session σ κ

namespace Peer

/- A session deals with a message. -/
def receive
    (p : Peer σ κ)
    (fresh : String)
    (e : Envelope) : Step σ κ (Option Envelope) :=
  p.session.process p.delegate fresh e

/- The session after it has dealt with a message. -/
def after
    (p : Peer σ κ)
    (fresh : String)
    (e : Envelope) : Peer σ κ :=
  { p with session := (p.receive fresh e).session }

/- How far the session has come. -/
def status (p : Peer σ κ) : Status :=
  p.session.state.status

end Peer

/-
  What the two sessions make of a message in turn, as long as
  there are names for their answers.  The near one has the
  message; the far one gets the answer, if there is one.
-/
def volley :
    List String → {σ κ τ ν : Type} →
      Peer σ κ → Peer τ ν → Envelope → List (Option Envelope)
| [], _, _, _, _, _, _, _ => []
| fresh :: names, _, _, _, _, near, far, e =>
    match (near.receive fresh e).result with
    | none => [none]
    | some answer =>
        some answer ::
          volley names far (near.after fresh e) answer

------------------------------------------------------------
-- Answers that are due
------------------------------------------------------------

/-
  How many answers a message may bring about that comes to a
  session with the status `near` from one with the status
  `far`.  Reports of faults and acknowledgments bring about
  none, what only servers send a report, and what a client
  asks for at most its answer and a report of that.
-/
def answersDue
    (near far : Status)
    (e : Envelope) : Nat :=
  match e.payload with
  | some (.error _) => 0
  | some .sessionShutdown => 0
  | some .acknowledge => if e.responseId.isSome then 0 else 1
  | some (.sessionStart _) =>
      if near = .offline then
        if far = .offline then 3 else 2
      else 1
  | some .getCameraList => 2
  | some (.setActiveCamera _) => 2
  | some .motionGetMode => 2
  | _ => 1

/- A report brings about nothing. -/
theorem answersDue_failure
    (near far : Status)
    (fresh : String)
    (responseId : Option String)
    (report : ErrorReport) :
    answersDue near far (.failure fresh responseId report) = 0 :=
  rfl

/- No message brings about more than three answers. -/
theorem answersDue_le
    (near far : Status)
    (e : Envelope) :
    answersDue near far e ≤ 3 := by
  unfold answersDue
  split
  all_goals grind

/- Only greetings of sessions that are both offline do. -/
theorem answersDue_eq_three_iff
    (near far : Status)
    (e : Envelope) :
    answersDue near far e = 3 ↔
      near = .offline ∧ far = .offline ∧
        ∃ info, e.payload = some (.sessionStart info) := by
  unfold answersDue
  split
  all_goals grind

section Greeting

variable {d : Delegate σ}
variable {s : Session σ κ}
variable {e : Envelope}
variable {info : ServerInfo}
variable (fresh : String)

/- An offline session greets who greets it, and starts. -/
theorem process_greeting_of_offline
    (hGreeting : e.payload = some (.sessionStart info))
    (hOffline : s.state.status = .offline) :
    (s.process d fresh e).result =
        some (.fresh fresh (.sessionStart s.info)) ∧
      (s.process d fresh e).session.state.status =
        .starting := by
  simp only [process, hGreeting, handle, start, hOffline,
    Step.quiet]
  exact ⟨rfl, rfl⟩

/- Any other session complains. -/
theorem process_greeting_of_begun
    (hGreeting : e.payload = some (.sessionStart info))
    (hBegun : s.state.status ≠ .offline) :
    (s.process d fresh e).result =
      some (.failure fresh (some e.id)
        (Refusal.alreadyStarted
          s.state.status).toFault.report) := by
  have hRefused :
      (handle d fresh e.header (.sessionStart info)
          { s with received := s.received + 1 }).result =
        .error (.alreadyStarted s.state.status) := by
    simp only [handle, start_of_begun fresh
      (s := { s with received := s.received + 1 }) hBegun]
    rfl
  exact (process_of_refused d fresh hGreeting hRefused).1

end Greeting

section Due

variable {d : Delegate σ}
variable {s : Session σ κ}
variable {fresh : String}
variable {e answer : Envelope}

/- What is answered was due an answer. -/
theorem answersDue_pos
    (near far : Status)
    (hAnswer : (s.process d fresh e).result = some answer) :
    0 < answersDue near far e := by
  have hSilent :
      ∀ payload,
        e.payload = some payload →
          ¬ Silent d s e.header payload := by
    intro payload hPayload hSilent
    have hNone :=
      (process_eq_none_iff d fresh e s).mpr
        ⟨payload, hPayload, hSilent⟩
    rw [hAnswer] at hNone
    cases hNone
  cases hPayload : e.payload with
  | none =>
      simp only [answersDue, hPayload]
      exact Nat.one_pos
  | some payload =>
      have hSpoken := hSilent payload hPayload
      cases payload with
      | error report => exact absurd True.intro hSpoken
      | sessionShutdown => exact absurd True.intro hSpoken
      | acknowledge =>
          have hUnnamed : ¬ e.responseId.isSome = true := hSpoken
          simp only [answersDue, hPayload, if_neg hUnnamed]
          exact Nat.one_pos
      | sessionStart info =>
          simp only [answersDue, hPayload]
          grind
      | _ =>
          simp only [answersDue, hPayload]
          decide

/-
  An answer brings about fewer answers than what it answers,
  whatever the status of the other session is.
-/
theorem answersDue_lt
    (far : Status)
    (hAnswer : (s.process d fresh e).result = some answer) :
    answersDue far (s.process d fresh e).session.state.status
        answer <
      answersDue s.state.status far e := by
  rcases process_result_cases d fresh e s hAnswer with
    ⟨_, rfl⟩ | ⟨payload, hPayload, hKind | ⟨refusal, _, rfl⟩⟩
  · rw [answersDue_failure]
    exact answersDue_pos _ _ hAnswer
  · cases hKind with
    | greeting info =>
        by_cases hOffline : s.state.status = .offline
        · rw [(process_greeting_of_offline fresh hPayload
            hOffline).2]
          simp only [answersDue, Envelope.fresh, hPayload,
            hOffline]
          grind
        · rw [process_greeting_of_begun fresh hPayload hOffline]
            at hAnswer
          cases hAnswer
    | cameras =>
        simp only [answersDue, Envelope.reply, hPayload]
        exact Nat.one_lt_two
    | picked _ =>
        simp only [answersDue, Envelope.reply, hPayload]
        exact Nat.one_lt_two
    | accepted mode =>
        simp only [answersDue, Envelope.reply,
          Envelope.responseId, hPayload]
        exact Nat.one_pos
    | mode =>
        simp only [answersDue, Envelope.reply, hPayload]
        exact Nat.one_lt_two
  · rw [answersDue_failure]
    exact answersDue_pos _ _ hAnswer

end Due

------------------------------------------------------------
-- The length of a volley
------------------------------------------------------------

/- An answer goes to the other session. -/
theorem volley_cons_of_answer
    {near : Peer σ κ}
    {fresh : String}
    {e answer : Envelope}
    (names : List String)
    (far : Peer τ ν)
    (hAnswer : (near.receive fresh e).result = some answer) :
    volley (fresh :: names) near far e =
      some answer :: volley names far (near.after fresh e) answer := by
  simp only [volley, hAnswer]

/-
  A volley has no more answers than are due.  It ends because
  a session is silent, unless there are no more names.
-/
theorem volley_eq
    (names : List String)
    (near : Peer σ κ)
    (far : Peer τ ν)
    (e : Envelope) :
    let answers := (volley names near far e).reduceOption
    answers.length ≤ answersDue near.status far.status e ∧
      volley names near far e =
        answers.map some ++
          if answers.length < names.length then [none]
          else [] := by
  induction names generalizing σ κ τ ν e with
  | nil => exact ⟨Nat.zero_le _, rfl⟩
  | cons fresh names ih =>
      cases hAnswer : (near.receive fresh e).result with
      | none =>
          simp only [volley, hAnswer]
          exact ⟨Nat.zero_le _, rfl⟩
      | some answer =>
          have hFewer :
              answersDue far.status (near.after fresh e).status
                  answer <
                answersDue near.status far.status e :=
            answersDue_lt far.status hAnswer
          rcases ih far (near.after fresh e) answer with
            ⟨hDue, hVolley⟩
          simp only [volley_cons_of_answer names far hAnswer,
            List.reduceOption_cons_of_some]
          refine ⟨Nat.lt_of_le_of_lt hDue hFewer, ?_⟩
          rw [List.map_cons, List.cons_append, List.length_cons,
            List.length_cons]
          simp only [Nat.add_lt_add_iff_right]
          exact congrArg _ hVolley

/- Two offline sessions greet each other, and one complains. -/
theorem length_answers_of_greeting
    {near : Peer σ κ}
    {far : Peer τ ν}
    {e : Envelope}
    {info : ServerInfo}
    (hNear : near.status = .offline)
    (hFar : far.status = .offline)
    (hGreeting : e.payload = some (.sessionStart info))
    (n₁ n₂ n₃ n₄ : String) :
    (volley [n₁, n₂, n₃, n₄] near far e).reduceOption.length =
      3 := by
  have hFirst :
      (near.receive n₁ e).result =
        some (.fresh n₁ (.sessionStart near.session.info)) :=
    (process_greeting_of_offline n₁ hGreeting hNear).1
  have hSecond :
      (far.receive n₂
          (.fresh n₁ (.sessionStart near.session.info))).result =
        some (.fresh n₂ (.sessionStart far.session.info)) :=
    (process_greeting_of_offline n₂ rfl hFar).1
  have hStarting : (near.after n₁ e).status = .starting :=
    (process_greeting_of_offline n₁ hGreeting hNear).2
  have hBegun : (near.after n₁ e).status ≠ .offline := by
    rw [hStarting]
    exact nofun
  have hThird :
      ((near.after n₁ e).receive n₃
          (.fresh n₂ (.sessionStart far.session.info))).result =
        some (.failure n₃ (some n₂)
          (Refusal.alreadyStarted
            (near.after n₁ e).status).toFault.report) :=
    process_greeting_of_begun n₃ rfl hBegun
  have hLast :=
    volley_eq [n₄]
      (far.after n₂
        (.fresh n₁ (.sessionStart near.session.info)))
      ((near.after n₁ e).after n₃
        (.fresh n₂ (.sessionStart far.session.info)))
      (.failure n₃ (some n₂)
        (Refusal.alreadyStarted
          (near.after n₁ e).status).toFault.report)
  rw [volley_cons_of_answer _ far hFirst,
    volley_cons_of_answer _ _ hSecond,
    volley_cons_of_answer _ _ hThird]
  simp only [List.reduceOption_cons_of_some, List.length_cons,
    Nat.le_zero.mp hLast.1]

/-
  However long two sessions may answer each other, and
  whatever they have been through, there are three answers at
  most, and so one of the first four messages is not answered.
  There are three exactly if both are offline and the message
  is a greeting.
-/
theorem answers_volley_le
    (near : Peer σ κ)
    (far : Peer τ ν)
    (e : Envelope) :
    (∀ names,
      (volley names near far e).reduceOption.length ≤ 3) ∧
    ∀ n₁ n₂ n₃ n₄,
      none ∈ volley [n₁, n₂, n₃, n₄] near far e ∧
        ((volley [n₁, n₂, n₃, n₄] near far
              e).reduceOption.length = 3 ↔
          near.status = .offline ∧ far.status = .offline ∧
            ∃ info, e.payload = some (.sessionStart info)) := by
  have hLength :
      ∀ names,
        (volley names near far e).reduceOption.length ≤ 3 := by
    intro names
    exact Nat.le_trans (volley_eq names near far e).1
      (answersDue_le _ _ e)
  refine ⟨hLength, fun n₁ n₂ n₃ n₄ => ⟨?_, ?_, ?_⟩⟩
  · have hShort :
        (volley [n₁, n₂, n₃, n₄] near far
            e).reduceOption.length <
          [n₁, n₂, n₃, n₄].length :=
      Nat.lt_succ_of_le (hLength _)
    rw [(volley_eq [n₁, n₂, n₃, n₄] near far e).2,
      if_pos hShort]
    exact List.mem_append_right _ List.mem_cons_self
  · intro hThree
    apply (answersDue_eq_three_iff near.status far.status e).mp
    apply Nat.le_antisymm (answersDue_le _ _ e)
    rw [← hThree]
    exact (volley_eq [n₁, n₂, n₃, n₄] near far e).1
  · rintro ⟨hNear, hFar, info, hGreeting⟩
    exact length_answers_of_greeting hNear hFar hGreeting
      n₁ n₂ n₃ n₄

end Session

end CaptureLink
