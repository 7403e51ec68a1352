import CaptureLink.Delegate
import Mathlib.Data.List.Basic

/-
  Logs of the messages that a client has sent since it
  activated its session.  A log alone dictates the capture
  mode, the transform and the camera: the last request that
  counts.  Whether a transform counts depends on the requests
  for modes in front of it.

  Main declarations:
    * `Session.Entry`
    * `Session.Log.glean`
    * `Session.Log.mode`
    * `Session.Log.changes`
    * `Session.Log.accepted`
    * `Session.Log.transform`
    * `Session.Log.camera`
-/

namespace CaptureLink

namespace Session

variable {σ α : Type}

------------------------------------------------------------
-- Entries
------------------------------------------------------------

/- A message, and the application as it was when it arrived. -/
structure Entry (σ : Type) where
  host : σ
  message : Envelope

namespace Entry

/- The mode that the message asks for. -/
def requested? (e : Entry σ) : Option MotionMode :=
  match e.message.payload with
  | some (.motionSetMode mode) => some mode
  | _ => none

/- The transform that the message reports. -/
def reported? (e : Entry σ) : Option Transform :=
  match e.message.payload with
  | some (.motionUpdate transform) => some transform
  | _ => none

/- The camera that the application finds for the message. -/
def found?
    (d : Delegate σ)
    (e : Entry σ) : Option Camera :=
  match e.message.payload with
  | some (.setActiveCamera id) => d.find? e.host id
  | _ => none

end Entry

------------------------------------------------------------
-- Logs
------------------------------------------------------------

/- Entries in the order in which the messages arrived. -/
abbrev Log (σ : Type) := List (Entry σ)

namespace Log

/- What each entry gives, in view of those in front of it. -/
def glean
    (f : Log σ → Entry σ → Option α)
    (log : Log σ) : List α :=
  (List.range log.length).filterMap fun place =>
    log[place]?.bind (f (log.take place))

/- The last mode that was asked for. -/
def mode (log : Log σ) : MotionMode :=
  (log.filterMap Entry.requested?).getLast?.getD .off

/- The requests that ask for another mode than there is. -/
def changes (log : Log σ) : List MotionMode :=
  log.glean fun before e =>
    e.requested?.filter (· ≠ mode before)

/- The transforms that arrive while the mode takes them. -/
def accepted (log : Log σ) : List Transform :=
  log.glean fun before e =>
    if (mode before).capturing then e.reported? else none

/- The last of these. -/
def transform (log : Log σ) : Transform :=
  log.accepted.getLast?.getD .zero

/- The last camera that was asked for and found. -/
def camera
    (d : Delegate σ)
    (log : Log σ) : Option Camera :=
  (log.filterMap (Entry.found? d)).getLast?

------------------------------------------------------------
-- One entry more
------------------------------------------------------------

/- What is put behind a list, if anything, is its last. -/
theorem getLast?_append_toList
    (xs : List α)
    (x : Option α) :
    (xs ++ x.toList).getLast? = x.or xs.getLast? := by
  cases x with
  | none => simp
  | some x => simp

/- A new entry gives what it gives behind the log. -/
theorem glean_append_singleton
    (f : Log σ → Entry σ → Option α)
    (log : Log σ)
    (e : Entry σ) :
    glean f (log ++ [e]) = glean f log ++ (f log e).toList := by
  unfold glean
  rw [List.length_append, List.length_singleton,
    List.range_succ, List.filterMap_append]
  congr 1
  · apply List.filterMap_congr
    intro place hMem
    have hPlace : place < log.length := List.mem_range.mp hMem
    rw [List.getElem?_append_left hPlace,
      List.take_append_of_le_length (Nat.le_of_lt hPlace)]
  · have hLast :
        (log ++ [e])[log.length]?.bind
            (f ((log ++ [e]).take log.length)) =
          f log e := by
      rw [List.getElem?_concat_length, List.take_left]
      rfl
    rw [List.filterMap_cons, List.filterMap_nil, hLast]
    cases f log e with
    | none => rfl
    | some x => rfl

variable (log : Log σ)
variable (e : Entry σ)

@[simp] theorem mode_append_singleton :
    mode (log ++ [e]) = e.requested?.getD log.mode := by
  unfold mode
  rw [List.filterMap_append]
  cases hAsked : e.requested? with
  | none => simp [hAsked]
  | some mode => simp [hAsked]

@[simp] theorem changes_append_singleton :
    changes (log ++ [e]) =
      log.changes ++
        (e.requested?.filter (· ≠ log.mode)).toList :=
  glean_append_singleton _ log e

@[simp] theorem accepted_append_singleton :
    accepted (log ++ [e]) =
      log.accepted ++
        (if log.mode.capturing then e.reported?
          else none).toList :=
  glean_append_singleton _ log e

@[simp] theorem transform_append_singleton :
    transform (log ++ [e]) =
      (if log.mode.capturing then e.reported?
        else none).getD log.transform := by
  unfold transform
  rw [accepted_append_singleton, getLast?_append_toList]
  cases (if log.mode.capturing then e.reported? else none) with
  | none => rfl
  | some transform => rfl

@[simp] theorem camera_append_singleton (d : Delegate σ) :
    camera d (log ++ [e]) =
      (e.found? d).or (log.camera d) := by
  unfold camera
  rw [List.filterMap_append]
  cases hFound : e.found? d with
  | none => simp [hFound]
  | some camera => simp [hFound]

end Log

end Session

end CaptureLink
