import CaptureLink.Number.Binary64

/-
  What a tracked device reports, and whether anybody listens.

  Key definitions include:
    * `Vector3`
    * `Transform`
    * `Transform.isFinite`
    * `MotionMode`
    * `MotionMode.transition`
    * `MotionMode.ofText?`
-/

namespace CaptureLink

------------------------------------------------------------
-- Transforms
------------------------------------------------------------

/- A vector of three doubles. -/
structure Vector3 where
  x : Binary64
  y : Binary64
  z : Binary64
deriving DecidableEq, Repr

namespace Vector3

/- The zero vector. -/
def zero : Vector3 :=
  ⟨.zero, .zero, .zero⟩

/- No component is an infinity or a NaN. -/
def isFinite (v : Vector3) : Bool :=
  v.x.isFinite && v.y.isFinite && v.z.isFinite

/- The components are equal as numbers. -/
def numericEq (v w : Vector3) : Bool :=
  v.x.numericEq w.x && v.y.numericEq w.y && v.z.numericEq w.z

end Vector3

/- Where a device is, and how it is turned, in euler angles. -/
structure Transform where
  translation : Vector3
  orientation : Vector3
deriving DecidableEq, Repr

namespace Transform

/- Neither moved nor turned. -/
def zero : Transform :=
  ⟨.zero, .zero⟩

/- No component is an infinity or a NaN. -/
def isFinite (t : Transform) : Bool :=
  t.translation.isFinite && t.orientation.isFinite

/- The components are equal as numbers. -/
def numericEq (t u : Transform) : Bool :=
  t.translation.numericEq u.translation &&
    t.orientation.numericEq u.orientation

/- The six components, translation first. -/
def components (t : Transform) : List Binary64 :=
  [ t.translation.x, t.translation.y, t.translation.z,
    t.orientation.x, t.orientation.y, t.orientation.z ]

end Transform

------------------------------------------------------------
-- Capture modes
------------------------------------------------------------

/- What is done with the transforms that arrive. -/
inductive MotionMode where
/- They are dropped. -/
| off
/- They move the scene. -/
| live
/- They move the scene and are recorded. -/
| recording
deriving DecidableEq, Repr

namespace MotionMode

/- The name of a mode. -/
def name : MotionMode → String
| .off => "off"
| .live => "live"
| .recording => "recording"

/- The mode with a given name. -/
def ofName? : String → Option MotionMode
| "off" => some .off
| "live" => some .live
| "recording" => some .recording
| _ => none

/-
  The mode a user means: upper case is lower case, and
  recording has a short name.
-/
def ofText? (text : String) : Option MotionMode :=
  match text.toLower with
  | "record" => some .recording
  | name => ofName? name

/- What is said about a text that names no mode. -/
def unknownText (text : String) : String :=
  "Unknown motion mode: " ++ text

/- Transforms are accepted. -/
def capturing : MotionMode → Bool
| .off => false
| .live => true
| .recording => true

/- Transforms are recorded. -/
def isRecording : MotionMode → Bool
| .recording => true
| _ => false

/- The mode after a request, if the request changes it. -/
def transition
    (current requested : MotionMode) : Option MotionMode :=
  if current = requested then none else some requested

end MotionMode

end CaptureLink
