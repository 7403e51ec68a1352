import CaptureLink.Proofs.Session.Refusal
import Mathlib.Computability.RegularExpressions

/-
  What counts in the life of a session: that it starts, and
  what its application is told, with the session as it is at
  that moment.  A session goes from one status to another over
  such marks only, and so the words that its application hears
  and the number of its starts are those of sessions that end
  once for each start.

  Main statements:
    * `Session.Mark`
    * `Session.Leads`
    * `Session.lives`
    * `Session.Leads.mem_ahead`
    * `Session.Leads.count_starts`
    * `Session.Leads.begun_of_shutdown`
-/

namespace CaptureLink

------------------------------------------------------------
-- Hooks
------------------------------------------------------------

/- The ways in which an application is told something. -/
inductive Hook where
| activate
| camera
| mode
| motion
| shutdown
deriving DecidableEq, Repr

/- The way in which the application hears a notice. -/
def Notice.hook : Notice → Hook
| .activated _ => .activate
| .camera _ => .camera
| .mode _ => .mode
| .motion _ => .motion
| .shutdown => .shutdown

namespace Session

open RegularExpression

/- What the application hears while the session is activated. -/
def usage : RegularExpression Hook :=
  char .camera + char .mode + char .motion

/- What it hears of a session that starts and ends. -/
def life : RegularExpression Hook :=
  char .activate * usage.star * char .shutdown + char .shutdown

/- What it hears of sessions that follow each other. -/
def lives : RegularExpression Hook :=
  life.star

/- What it will hear from a status on, if the session ends. -/
def ahead : Status → RegularExpression Hook
| .offline => lives
| .starting => life * lives
| .activated => usage.star * char .shutdown * lives

/- What it hears when the session ends at once. -/
def farewell : Status → List Hook
| .offline => []
| .starting => [.shutdown]
| .activated => [.shutdown]

/- Whatever is told between activation and end is a use. -/
theorem mem_usage_iff (hook : Hook) :
    [hook] ∈ usage.matches' ↔
      hook ≠ .activate ∧ hook ≠ .shutdown := by
  rw [← rmatch_iff_matches']
  cases hook with
  | _ => decide

section Words

variable {word : List Hook}

/- A word more in front of words is words again. -/
theorem append_mem_star
    {r : RegularExpression Hook}
    {front : List Hook}
    (hFront : front ∈ r.matches')
    (hWord : word ∈ r.star.matches') :
    front ++ word ∈ r.star.matches' := by
  rw [matches'_star] at hWord ⊢
  exact Set.mem_of_mem_of_subset
    (Language.append_mem_mul hFront hWord)
    (mul_kstar_le_kstar (a := r.matches'))

/- A session may start. -/
theorem mem_ahead_offline
    (hWord : word ∈ (ahead .starting).matches') :
    word ∈ (ahead .offline).matches' := by
  rcases hWord with ⟨front, hFront, later, hLater, rfl⟩
  exact append_mem_star hFront hLater

/- It may be activated when it has started. -/
theorem activate_mem_ahead
    (hWord : word ∈ (ahead .activated).matches') :
    .activate :: word ∈ (ahead .starting).matches' := by
  rcases hWord with
    ⟨_, ⟨uses, hUses, last, hLast, rfl⟩, later, hLater, rfl⟩
  have hActivate :
      [Hook.activate] ∈ (char Hook.activate).matches' := rfl
  refine ⟨[.activate] ++ uses ++ last, .inl ?_, later, hLater, ?_⟩
  · exact Language.append_mem_mul
      (Language.append_mem_mul hActivate hUses) hLast
  · simp only [List.append_assoc, List.cons_append,
      List.nil_append]

/- It may be used as long as it is activated. -/
theorem usage_mem_ahead
    {hook : Hook}
    (hUse : [hook] ∈ usage.matches')
    (hWord : word ∈ (ahead .activated).matches') :
    hook :: word ∈ (ahead .activated).matches' := by
  rcases hWord with
    ⟨_, ⟨uses, hUses, last, hLast, rfl⟩, later, hLater, rfl⟩
  refine ⟨[hook] ++ uses ++ last, ?_, later, hLater, ?_⟩
  · exact Language.append_mem_mul
      (append_mem_star hUse hUses) hLast
  · simp only [List.append_assoc, List.cons_append,
      List.nil_append]

/- It may end whenever it has started. -/
theorem shutdown_mem_ahead
    {status : Status}
    (hBegun : status ≠ .offline)
    (hWord : word ∈ (ahead .offline).matches') :
    .shutdown :: word ∈ (ahead status).matches' := by
  have hShutdown :
      [Hook.shutdown] ∈ (char Hook.shutdown).matches' := rfl
  cases status with
  | offline => exact absurd rfl hBegun
  | starting =>
      exact ⟨[.shutdown], .inr hShutdown, word, hWord, rfl⟩
  | activated =>
      have hNone : [] ∈ usage.star.matches' := by
        rw [matches'_star]
        exact Language.nil_mem_kstar _
      exact ⟨[.shutdown],
        Language.append_mem_mul hNone hShutdown, word, hWord,
        rfl⟩

/- It may end at once. -/
theorem farewell_mem_ahead (status : Status) :
    farewell status ∈ (ahead status).matches' := by
  have hNone : [] ∈ (ahead .offline).matches' := by
    simp only [ahead, lives, matches'_star]
    exact Language.nil_mem_kstar _
  cases status with
  | offline => exact hNone
  | starting => exact shutdown_mem_ahead (by decide) hNone
  | activated => exact shutdown_mem_ahead (by decide) hNone

end Words

------------------------------------------------------------
-- Marks
------------------------------------------------------------

variable {σ κ : Type}

/- What counts in the life of a session. -/
inductive Mark (σ κ : Type) where
/- The session has started. -/
| started
/- The application is told something by the session as it is. -/
| told (s : Session σ κ) (n : Notice)

/- What the application is told. -/
def Mark.notice? : Mark σ κ → Option Notice
| .started => none
| .told _ n => some n

/- The session has started. -/
def Mark.isStart : Mark σ κ → Bool
| .started => true
| .told _ _ => false

/- What the application is told on the way. -/
def heard (marks : List (Mark σ κ)) : List Notice :=
  marks.filterMap Mark.notice?

/- How often a session starts on the way. -/
def starts (marks : List (Mark σ κ)) : Nat :=
  marks.countP Mark.isStart

section Reading

variable (marks marks' : List (Mark σ κ))

@[simp] theorem heard_started :
    heard (.started :: marks) = heard marks :=
  rfl

@[simp] theorem heard_told
    (s : Session σ κ)
    (n : Notice) :
    heard (.told s n :: marks) = n :: heard marks :=
  rfl

@[simp] theorem heard_append :
    heard (marks ++ marks') = heard marks ++ heard marks' :=
  List.filterMap_append

@[simp] theorem starts_started :
    starts (.started :: marks) = starts marks + 1 :=
  List.countP_cons_of_pos rfl

@[simp] theorem starts_told
    (s : Session σ κ)
    (n : Notice) :
    starts (.told s n :: marks) = starts marks :=
  List.countP_cons_of_neg Bool.false_ne_true

end Reading

/-
  A session in some status, whose application is in some
  state, comes over these marks to another status, and its
  application to another state.  Whatever is told, is told by
  a session with the application as it is then, and in the
  status that there is then; only the activation itself is
  told when it has happened.
-/
inductive Leads (d : Delegate σ) :
    Status → σ → List (Mark σ κ) → Status → σ → Prop where
| rest {status host} :
    Leads d status host [] status host
| start {host marks status' host'} :
    Leads d .starting host marks status' host' →
    Leads d .offline host (.started :: marks) status' host'
| activate {s profile marks status' host'} :
    s.state.status = .activated →
    Leads d .activated (d.notify (.activated profile) s.host).1
      marks status' host' →
    Leads d .starting s.host
      (.told s (.activated profile) :: marks) status' host'
| use {s n marks status' host'} :
    [n.hook] ∈ usage.matches' →
    s.state.status = .activated →
    Leads d .activated (d.notify n s.host).1 marks
      status' host' →
    Leads d .activated s.host (.told s n :: marks) status' host'
| shutdown {s marks status' host'} :
    s.state.status ≠ .offline →
    Leads d .offline (d.notify .shutdown s.host).1 marks
      status' host' →
    Leads d s.state.status s.host (.told s .shutdown :: marks)
      status' host'

namespace Leads

variable {d : Delegate σ}
variable {status status' status'' : Status}
variable {host host' host'' : σ}
variable {marks marks' : List (Mark σ κ)}

/- One way and then another is a way. -/
theorem append
    (hLeads : Leads d status host marks status' host')
    (hLeads' : Leads d status' host' marks' status'' host'') :
    Leads d status host (marks ++ marks') status'' host'' := by
  induction hLeads with
  | rest => exact hLeads'
  | start _ ih => exact (ih hLeads').start
  | activate hStatus _ ih => exact .activate hStatus (ih hLeads')
  | use hUse hStatus _ ih => exact .use hUse hStatus (ih hLeads')
  | shutdown hBegun _ ih => exact .shutdown hBegun (ih hLeads')

/-
  What the application hears, and the end if the session ended
  now, is what lies ahead of it.
-/
theorem mem_ahead
    (hLeads : Leads d status host marks status' host') :
    (heard marks).map Notice.hook ++ farewell status' ∈
      (ahead status).matches' := by
  induction hLeads with
  | rest => exact farewell_mem_ahead _
  | start _ ih => exact mem_ahead_offline ih
  | activate _ _ ih => exact activate_mem_ahead ih
  | use hUse _ _ ih => exact usage_mem_ahead hUse ih
  | shutdown hBegun _ ih => exact shutdown_mem_ahead hBegun ih

/-
  There is an end for each start, except for the session that
  there is, and one for the session that there was.
-/
theorem count_starts
    (hLeads : Leads d status host marks status' host') :
    starts marks + (if status = .offline then 0 else 1) =
      (heard marks).count .shutdown +
        if status' = .offline then 0 else 1 := by
  induction hLeads with
  | rest => rfl
  | start _ ih => simpa using ih
  | activate _ _ ih => simpa using ih
  | @use s n _ _ _ hUse _ _ ih =>
      have hOther : n ≠ .shutdown := by
        rintro rfl
        exact ((mem_usage_iff _).mp hUse).2 rfl
      simpa [List.count_cons_of_ne hOther] using ih
  | shutdown hBegun _ ih =>
      simp only [starts_told, heard_told, List.count_cons_self,
        hBegun, if_false, if_true] at ih ⊢
      omega

/- Whenever the end is told, there is a session to be ended. -/
theorem begun_of_shutdown
    (hLeads : Leads d status host marks status' host')
    {s : Session σ κ}
    (hTold : .told s .shutdown ∈ marks) :
    s.state.status ≠ .offline := by
  induction hLeads with
  | rest => cases hTold
  | start _ ih =>
      rcases List.mem_cons.mp hTold with hHere | hLater
      · cases hHere
      · exact ih hLater
  | activate _ _ ih =>
      rcases List.mem_cons.mp hTold with hHere | hLater
      · cases hHere
      · exact ih hLater
  | use _ hStatus _ ih =>
      rcases List.mem_cons.mp hTold with hHere | hLater
      · cases hHere
        exact begun_of_activated hStatus
      · exact ih hLater
  | shutdown hBegun _ ih =>
      rcases List.mem_cons.mp hTold with hHere | hLater
      · cases hHere
        exact hBegun
      · exact ih hLater

end Leads

end Session

end CaptureLink
