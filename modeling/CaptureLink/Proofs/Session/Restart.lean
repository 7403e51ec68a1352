import CaptureLink.Proofs.Session.Consistency
import CaptureLink.Proofs.Session.Pending
import CaptureLink.Proofs.Session.Translation
import Mathlib.Logic.Equiv.Basic

/-
  A session that has ended and is used again.  Nobody can tell
  it from a new session with the same application: of what was
  before it has kept nothing but the counts of messages and
  transforms.

  Main declarations:
    * `Session.Observation`
    * `Session.observations`
    * `Session.observations_translated`
    * `Session.eq_translated_new`
    * `Session.restarted_like_new`
-/

namespace CaptureLink

namespace Session

variable {σ κ : Type}

------------------------------------------------------------
-- Observations
------------------------------------------------------------

/-
  What can be seen of an operation and of the session behind
  it: what it gives back, what the application and the senders
  of messages are told, and the state in which it leaves the
  session and the application.
-/
structure Observation (σ κ : Type) where
  given : Yield
  events : List (Event κ)
  state : SessionState
  host : σ
  pending : Nat
  counters : Counters
deriving DecidableEq

/- What can be seen of a step. -/
def Step.observe (step : Step σ κ Yield) : Observation σ κ where
  given := step.result
  events := step.events
  state := step.session.state
  host := step.session.host
  pending := step.session.acks.size
  counters := step.session.counters

/- What can be seen of some operations, one by one. -/
def observations
    (d : Delegate σ) :
    Session σ κ → List (Operation κ) → List (Observation σ κ)
| _, [] => []
| s, op :: ops =>
    let step := s.conduct d op
    step.observe :: observations d step.session ops

/-
  The same where messages have other names and more has been
  counted.
-/
def Observation.translated
    (ρ : String ↪ String)
    (k : Counters)
    (o : Observation σ κ) : Observation σ κ :=
  { o with
    given := o.given.reissued ρ
    counters := k + o.counters }

section Observing

variable (ρ : String ↪ String)
variable (k : Counters)

/- Nothing else is seen of a translated step. -/
theorem observe_translated (step : Step σ κ Yield) :
    (step.translated ρ k (Yield.reissued ρ)).observe =
      step.observe.translated ρ k := by
  simp only [Step.observe, Step.translated, translated,
    AckTable.size_renamed]
  rfl

/- Nothing else is seen of a translated session, however it is used. -/
theorem observations_translated
    (d : Delegate σ)
    (s : Session σ κ)
    (ops : List (Operation κ)) :
    observations d (s.translated ρ k) (ops.map (·.renamed ρ)) =
      (observations d s ops).map (·.translated ρ k) := by
  induction ops generalizing s with
  | nil => rfl
  | cons op ops ih =>
      simp only [List.map_cons, observations, conduct_translated,
        observe_translated]
      congr 1
      exact ih _

end Observing

------------------------------------------------------------
-- Sessions that have ended
------------------------------------------------------------

/-
  A session in which nothing is remembered and nothing waits
  is a new one that has counted something, under all names.
-/
theorem eq_translated_new
    {s : Session σ κ}
    (ρ : String ↪ String)
    (hState : s.state = .initial)
    (hAcks : s.acks = .empty) :
    s =
      (new s.info s.ackTimeout s.host).translated ρ
        s.counters := by
  cases s
  cases hState
  cases hAcks
  rfl

section Ending

variable {d : Delegate σ}
variable {s : Session σ κ}
variable {op : Operation κ}

/- A session that ends remembers nothing. -/
theorem state_of_ended
    (hBegun : s.state.status ≠ .offline)
    (hOffline :
      (s.perform d op).session.state.status = .offline) :
    (s.perform d op).session.state = .initial := by
  have hAdvances := advances_perform d s op
  generalize (s.perform d op).session.state = state
    at hAdvances hOffline
  cases hAdvances with
  | rest => exact absurd hOffline hBegun
  | start _ => cases hOffline
  | activate _ _ => cases hOffline
  | use _ _ _ _ => exact absurd hOffline hBegun
  | finish _ => rfl

/- Nothing waits for it. -/
theorem acks_of_ended
    (hBegun : s.state.status ≠ .offline)
    (hOffline :
      (s.perform d op).session.state.status = .offline) :
    (s.perform d op).session.acks = .empty := by
  cases acksAfter_perform d s op with
  | ended _ _ hAcks => exact hAcks
  | going hGoes _ => exact absurd hOffline (hGoes hBegun)

end Ending

/-
  A session that had begun is over after a shutdown, and
  whenever it is over, after a shutdown or otherwise, it is
  like a new session with the same application.  Whatever is
  done with both, the one gives back what the other does, up
  to the names of the server's messages; the application and
  the senders of messages are told the same, the states are
  the same, and as many messages wait.  Its counters are ahead
  by what they were in the beginning.
-/
theorem restarted_like_new
    (d : Delegate σ)
    (s : Session σ κ)
    (hBegun : s.state.status ≠ .offline) :
    (s.conduct d .shutdown).session.state.status = .offline ∧
      ∀ op : Operation κ,
        let ended := (s.conduct d op).session
        ended.state.status = .offline →
          ∀ (ρ : String ↪ String) (ops : List (Operation κ)),
            observations d ended (ops.map (·.renamed ρ)) =
              (observations d
                  (new s.info s.ackTimeout ended.host) ops).map
                (·.translated ρ ended.counters) := by
  constructor
  · simp only [conduct, shutdown_of_begun d hBegun]
    rfl
  · intro op ended hOffline ρ ops
    have hPerformed : (s.perform d op).session = ended := rfl
    have hNew :
        ended =
          (new s.info s.ackTimeout ended.host).translated ρ
            ended.counters := by
      rw [← hPerformed] at hOffline ⊢
      have hCleared :=
        eq_translated_new ρ (state_of_ended hBegun hOffline)
          (acks_of_ended hBegun hOffline)
      rwa [info_perform, ackTimeout_perform] at hCleared
    rw [← observations_translated, ← hNew]

/- A client comes, and acknowledges a message of the server. -/
def visit : List (Operation Nat) :=
  [ .start "s1",
    .activate ⟨"rig", "1.0", .empty⟩,
    .sendWithAck 0 "m1" .getCameraList (some 7),
    .process "r1" ⟨⟨"c1", some "m1"⟩, some .acknowledge⟩ ]

/- A session before the acknowledgment has come. -/
def visited : Session Unit Nat :=
  ((new .standard (some 10) ()).performAll .idle
    (visit.take 3)).session

/- The next visit has other names. -/
def renewed : String ↪ String :=
  ((Equiv.swap "s1" "s2").trans
    (Equiv.swap "m1" "m2")).toEmbedding

/- It is like the first one. -/
theorem restarted_like_new_next_visit :
    visited.state.status ≠ .offline ∧
      observations .idle (visited.conduct .idle .shutdown).session
          (visit.map (·.renamed renewed)) =
        (observations .idle
            (new visited.info visited.ackTimeout
              (visited.conduct .idle .shutdown).session.host)
            visit).map
          (·.translated renewed
            (visited.conduct .idle .shutdown).session.counters) := by
  have hBegun : visited.state.status ≠ .offline := by
    decide +kernel
  rcases restarted_like_new .idle visited hBegun with
    ⟨hOver, hLike⟩
  exact ⟨hBegun, hLike .shutdown hOver renewed visit⟩

end Session

end CaptureLink
