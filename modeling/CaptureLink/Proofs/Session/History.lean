import CaptureLink.Proofs.Session.Following
import Mathlib.Data.List.Induction

/-
  A session deals with one message after the other.  While it
  is activated, its mode, its transform and its camera are
  what the log of the messages since the activation dictates,
  and the application has been told of exactly the changes of
  the mode and the accepted transforms in that log.

  Main statements:
    * `Session.Run`
    * `Session.SinceActivation`
    * `Session.Dictated`
    * `Session.exists_sinceActivation`
    * `Session.state_of_history`
-/

namespace CaptureLink

namespace Session

variable {σ κ : Type}

------------------------------------------------------------
-- Runs
------------------------------------------------------------

/-
  A session that has dealt with some messages, the messages,
  and what the application was told.
-/
structure Run (σ κ : Type) where
  session : Session σ κ
  log : Log σ
  told : List Notice

/- Deal with a message, whose answer gets a given name. -/
def Run.take
    (d : Delegate σ)
    (r : Run σ κ)
    (message : String × Envelope) : Run σ κ :=
  let step := r.session.process d message.1 message.2
  { session := step.session
    log := r.log ++ [⟨r.session.host, message.2⟩]
    told := r.told ++ notices step.events }

/- Deal with messages one after the other. -/
def run
    (d : Delegate σ)
    (s : Session σ κ)
    (messages : List (String × Envelope)) : Run σ κ :=
  messages.foldl (Run.take d) ⟨s, [], []⟩

section Running

variable (d : Delegate σ)
variable (s : Session σ κ)

/- The last message comes to what the others have left. -/
theorem run_append_singleton
    (messages : List (String × Envelope))
    (message : String × Envelope) :
    run d s (messages ++ [message]) =
      (run d s messages).take d message := by
  simp only [run, List.foldl_append, List.foldl_cons,
    List.foldl_nil]

/- The log of a run has its messages in order. -/
theorem map_message_log
    (messages : List (String × Envelope)) :
    (run d s messages).log.map Entry.message =
      messages.map Prod.snd := by
  induction messages using List.reverseRecOn with
  | nil => rfl
  | append_singleton messages message ih =>
      rw [run_append_singleton, Run.take, List.map_append, ih,
        List.map_append]
      rfl

/- A session does not know where a run began. -/
theorem session_run_append
    (earlier later : List (String × Envelope)) :
    (run d s (earlier ++ later)).session =
      (run d (run d s earlier).session later).session := by
  induction later using List.reverseRecOn with
  | nil => simp only [List.append_nil, run, List.foldl_nil]
  | append_singleton later message ih =>
      rw [← List.append_assoc, run_append_singleton,
        run_append_singleton, Run.take, Run.take, ih]

end Running

/-
  In a run, the session was last activated by `hello`, and
  the messages `since` then have left it activated.
-/
structure SinceActivation
    (d : Delegate σ)
    (s : Session σ κ)
    (earlier : List (String × Envelope))
    (hello : String × Envelope)
    (since : List (String × Envelope)) : Prop where
  inactive : (run d s earlier).session.active = false
  active :
    ∀ count ≤ since.length,
      (run d s
        (earlier ++ hello :: since.take count)).session.active =
          true

------------------------------------------------------------
-- The state as the log dictates it
------------------------------------------------------------

/-
  A session is as the log of a run dictates, and the
  application was told what the log has.
-/
structure Dictated
    (d : Delegate σ)
    (r : Run σ κ) : Prop where
  mode : r.session.state.mode = r.log.mode
  transform : r.session.state.transform = r.log.transform
  camera : r.session.state.camera = r.log.camera d
  modes_told : r.told.filterMap Notice.mode? = r.log.changes
  motions_told :
    r.told.filterMap Notice.motion? = r.log.accepted

/- A bare session is as the empty log dictates. -/
theorem dictated_begin
    (d : Delegate σ)
    {s : Session σ κ}
    (hBare : Bare s.state) :
    Dictated d (run d s []) where
  mode := hBare.mode
  transform := hBare.transform
  camera := hBare.camera
  modes_told := rfl
  motions_told := rfl

/- It stays so with every message that leaves it activated. -/
theorem Dictated.take
    {d : Delegate σ}
    {r : Run σ κ}
    (hDictated : Dictated d r)
    (message : String × Envelope)
    (hActive : r.session.state.status = .activated)
    (hLasts :
      (r.take d message).session.state.status = .activated) :
    Dictated d (r.take d message) := by
  have hFollows :=
    follows_process d message.1 r.session message.2 hActive hLasts
  exact
    { mode := by
        rw [Run.take, Log.mode_append_singleton,
          ← hDictated.mode]
        exact hFollows.mode
      transform := by
        rw [Run.take, Log.transform_append_singleton,
          ← hDictated.mode, ← hDictated.transform]
        exact hFollows.transform
      camera := by
        rw [Run.take, Log.camera_append_singleton,
          ← hDictated.camera]
        exact hFollows.camera
      modes_told := by
        rw [Run.take, Log.changes_append_singleton,
          List.filterMap_append, hDictated.modes_told,
          ← hDictated.mode]
        exact congrArg _ hFollows.modes_told
      motions_told := by
        rw [Run.take, Log.accepted_append_singleton,
          List.filterMap_append, hDictated.motions_told,
          ← hDictated.mode]
        exact congrArg _ hFollows.motions_told }

/- Along a run that starts bare and stays activated, it is so. -/
theorem dictated_run
    (d : Delegate σ)
    {s : Session σ κ}
    (messages : List (String × Envelope))
    (hBare : Bare s.state)
    (hActive :
      ∀ count ≤ messages.length,
        (run d s (messages.take count)).session.active = true) :
    Dictated d (run d s messages) := by
  induction messages using List.reverseRecOn with
  | nil => exact dictated_begin d hBare
  | append_singleton messages message ih =>
      have hBefore :
          ∀ count ≤ messages.length,
            (run d s (messages.take count)).session.active =
              true := by
        intro count hCount
        have hLong : count ≤ (messages ++ [message]).length := by
          rw [List.length_append]
          omega
        have hHere := hActive count hLong
        rwa [List.take_append_of_le_length hCount] at hHere
      have hNow := hBefore messages.length (Nat.le_refl _)
      have hThen := hActive _ (Nat.le_refl _)
      rw [List.take_length, active_iff] at hNow hThen
      rw [run_append_singleton] at hThen ⊢
      exact (ih hBefore).take message hNow hThen

------------------------------------------------------------
-- The last activation
------------------------------------------------------------

/- A session that is not activated is bare. -/
theorem bare_run
    (d : Delegate σ)
    {s : Session σ κ}
    (messages : List (String × Envelope))
    (hBare : s.state.status ≠ .activated → Bare s.state) :
    (run d s messages).session.state.status ≠ .activated →
      Bare (run d s messages).session.state := by
  induction messages using List.reverseRecOn with
  | nil => exact hBare
  | append_singleton messages message ih =>
      rw [run_append_singleton]
      intro hInactive
      by_cases hActive :
          (run d s messages).session.state.status = .activated
      · rcases activated_or_bare_of_process d message.1 message.2
            hActive with
          hStays | hEnded
        · exact absurd hStays hInactive
        · exact hEnded
      · exact (bare_process d message.1 message.2 hActive
          (ih hActive)).1

/- An activated session has been activated at some point. -/
theorem exists_sinceActivation
    (d : Delegate σ)
    {s : Session σ κ}
    (hBegin : s.active = false)
    (messages : List (String × Envelope))
    (hActive : (run d s messages).session.active = true) :
    ∃ earlier hello since,
      messages = earlier ++ hello :: since ∧
        SinceActivation d s earlier hello since := by
  induction messages using List.reverseRecOn with
  | nil =>
      have hSame : (run d s []).session = s := rfl
      rw [hSame, hBegin] at hActive
      cases hActive
  | append_singleton messages message ih =>
      cases hBefore : (run d s messages).session.active with
      | false =>
          refine ⟨messages, message, [], rfl, hBefore, ?_⟩
          intro count _
          rw [List.take_nil]
          exact hActive
      | true =>
          rcases ih hBefore with
            ⟨earlier, hello, since, hSplit, hSince⟩
          refine ⟨earlier, hello, since ++ [message], ?_,
            hSince.inactive, ?_⟩
          · rw [hSplit, List.append_assoc, List.cons_append]
          · intro count hCount
            by_cases hLast : count ≤ since.length
            · rw [List.take_append_of_le_length hLast]
              exact hSince.active count hLast
            · rw [List.length_append, List.length_singleton]
                at hCount
              rw [List.take_of_length_le (by
                  rw [List.length_append, List.length_singleton]
                  omega),
                ← List.cons_append, ← List.append_assoc,
                ← hSplit]
              exact hActive

section Since

variable {d : Delegate σ}
variable {s : Session σ κ}
variable {earlier since : List (String × Envelope)}
variable {hello : String × Envelope}

/- Messages behind an activation come to the session it left. -/
theorem session_run_since
    (later : List (String × Envelope)) :
    (run d s (earlier ++ hello :: later)).session =
      (run d (run d s (earlier ++ [hello])).session
        later).session := by
  rw [← session_run_append, List.append_assoc,
    List.singleton_append]

/- The session is activated by an activation, and bare then. -/
theorem SinceActivation.bare
    (hSince : SinceActivation d s earlier hello since)
    (hBare : s.state.status ≠ .activated → Bare s.state) :
    Bare (run d s (earlier ++ [hello])).session.state ∧
      ∃ profile,
        hello.2.payload = some (.sessionActivate profile) := by
  have hInactive :
      (run d s earlier).session.state.status ≠ .activated := by
    intro hActive
    have hFalse := hSince.inactive
    rw [active_iff.mpr hActive] at hFalse
    cases hFalse
  have hActive := hSince.active 0 (Nat.zero_le _)
  rw [List.take_zero, active_iff, run_append_singleton]
    at hActive
  rcases bare_process d hello.1 hello.2 hInactive
      (bare_run d earlier hBare hInactive) with
    ⟨hAfter, hPayload⟩
  rw [run_append_singleton]
  exact ⟨hAfter, hPayload hActive⟩

/- Since then the session is as the log dictates. -/
theorem SinceActivation.dictated
    (hSince : SinceActivation d s earlier hello since)
    (hBare : s.state.status ≠ .activated → Bare s.state) :
    Dictated d
      (run d (run d s (earlier ++ [hello])).session since) := by
  apply dictated_run d since (hSince.bare hBare).1
  intro count hCount
  rw [← session_run_since]
  exact hSince.active count hCount

end Since

/- An activated session answers with its mode. -/
theorem process_motionGetMode
    (d : Delegate σ)
    (fresh : String)
    (header : Header)
    {s : Session σ κ}
    (hActive : s.state.status = .activated) :
    (s.process d fresh ⟨header, some .motionGetMode⟩).result =
      some (.reply fresh header.id
        (.motionActiveMode s.state.mode)) := by
  have hHere :
      ({ s with received := s.received + 1 } :
        Session σ κ).state.status = .activated := hActive
  simp only [process, handle, whenActive_of_active _ _ hHere,
    Step.quiet]

/-
  Whenever a session is activated, it was last activated by
  some message, an activation.  Its mode, its transform and
  its camera are then what the log of the messages since
  dictates; it answers with that mode, reports that mode and
  that transform, and has told the application of exactly the
  changes of the mode and the accepted transforms in the log.
-/
theorem state_of_history
    (d : Delegate σ)
    (info : ServerInfo)
    (ackTimeout : Option Nat)
    (host : σ) :
    let s : Session σ κ := new info ackTimeout host
    (∀ messages,
      (run d s messages).session.active = true →
        ∃ earlier hello since,
          messages = earlier ++ hello :: since ∧
            SinceActivation d s earlier hello since) ∧
    (∀ earlier hello since,
      SinceActivation d s earlier hello since →
        let now := (run d s (earlier ++ hello :: since)).session
        let begun := (run d s (earlier ++ [hello])).session
        let log := (run d begun since).log
        let told := (run d begun since).told
        (∃ profile,
          hello.2.payload = some (.sessionActivate profile)) ∧
        log.map Entry.message = since.map Prod.snd ∧
        now.state.mode = log.mode ∧
        now.state.transform = log.transform ∧
        now.state.camera = log.camera d ∧
        (∀ fresh header,
          (now.process d fresh
              ⟨header, some .motionGetMode⟩).result =
            some (.reply fresh header.id
              (.motionActiveMode log.mode))) ∧
        (∀ fresh,
          (now.motionInfo fresh).2 =
            .fresh fresh
              (.motionInfo log.mode log.transform)) ∧
        told.filterMap Notice.mode? = log.changes ∧
        told.filterMap Notice.motion? = log.accepted) := by
  intro s
  have hBare : s.state.status ≠ .activated → Bare s.state :=
    fun _ => bare_initial
  refine ⟨fun messages => exists_sinceActivation d rfl messages,
    ?_⟩
  intro earlier hello since hSince now begun log told
  have hNow : now = (run d begun since).session :=
    session_run_since since
  have hDictated := hSince.dictated hBare
  have hActive : now.state.status = .activated := by
    have hLast := hSince.active _ (Nat.le_refl _)
    rwa [List.take_length, active_iff] at hLast
  have hMode : now.state.mode = log.mode :=
    hNow ▸ hDictated.mode
  have hTransform : now.state.transform = log.transform :=
    hNow ▸ hDictated.transform
  refine ⟨(hSince.bare hBare).2, map_message_log d begun since,
    hMode, hTransform, hNow ▸ hDictated.camera, ?_, ?_,
    hDictated.modes_told, hDictated.motions_told⟩
  · intro fresh header
    rw [process_motionGetMode d fresh header hActive, hMode]
  · intro fresh
    rw [← hMode, ← hTransform]
    rfl

/- Somewhere else than in the beginning. -/
def elsewhere : Transform :=
  { Transform.zero with
    translation := { Vector3.zero with x := ⟨0x3FF0000000000000⟩ } }

/- The client asks the server to introduce itself. -/
def greeting : List (String × Envelope) :=
  [("s1", .fresh "1" (.sessionStart .standard))]

/- It accepts the session. -/
def acceptance : String × Envelope :=
  ("none", .fresh "2" (.sessionActivate .anonymous))

/- It picks a camera and moves, also while nobody looks. -/
def rehearsal : List (String × Envelope) :=
  [ ("s2", .fresh "3" (.setActiveCamera "front")),
    ("s3", .fresh "4" (.setActiveCamera "back")),
    ("s4", .fresh "5" (.motionSetMode .live)),
    ("s5", .fresh "6" (.motionUpdate elsewhere)),
    ("s6", .fresh "7" (.motionSetMode .off)),
    ("s7", .fresh "8" (.motionUpdate .zero)) ]

/-
  The camera that there is stays picked, and the transform
  that was dropped does not matter.
-/
theorem state_of_history_rehearsal :
    SinceActivation (.scene [⟨"front"⟩])
        (new .standard none () : Session Unit Nat)
        greeting acceptance rehearsal ∧
      let now :=
        (run (.scene [⟨"front"⟩])
          (new .standard none () : Session Unit Nat)
          (greeting ++ acceptance :: rehearsal)).session
      now.state.mode = .off ∧
        now.state.transform = elsewhere ∧
        now.state.camera = some ⟨"front"⟩ := by
  have hSince :
      SinceActivation (.scene [⟨"front"⟩])
        (new .standard none () : Session Unit Nat)
        greeting acceptance rehearsal :=
    ⟨by decide +kernel, by decide +kernel⟩
  rcases (state_of_history (.scene [⟨"front"⟩]) .standard none
      ()).2 _ _ _ hSince with
    ⟨_, _, hMode, hTransform, hCamera, _⟩
  exact ⟨hSince, hMode.trans (by decide +kernel),
    hTransform.trans (by decide +kernel),
    hCamera.trans (by decide +kernel)⟩

end Session

end CaptureLink
