import CaptureLink.Capability
import CaptureLink.Fault
import CaptureLink.Motion

/-
  The messages of a session.  A message is an envelope: a
  header that names it, and a payload.  An envelope whose
  payload could not be read has none.

  Key definitions include:
    * `Camera`
    * `Payload`
    * `Kind`
    * `Payload.kind`
    * `Payload.transform?`
    * `Header`
    * `Envelope`
    * `Envelope.fresh`
    * `Envelope.reply`
    * `Envelope.failure`
-/

namespace CaptureLink

------------------------------------------------------------
-- Payloads
------------------------------------------------------------

/- A camera of the scene. -/
structure Camera where
  id : String
deriving DecidableEq, Repr

/- What a message says. -/
inductive Payload where
/- The server introduces itself, or is asked to. -/
| sessionStart (info : ServerInfo)
/- The client accepts the session. -/
| sessionActivate (profile : ClientProfile)
| sessionShutdown
/- The message named in the header has arrived. -/
| acknowledge
| error (report : ErrorReport)
| getCameraList
| cameraList (cameras : List Camera)
/- The client picks the camera that its motion drives. -/
| setActiveCamera (id : String)
| activeCameraInfo (camera : Camera)
| motionSetMode (mode : MotionMode)
| motionGetMode
| motionActiveMode (mode : MotionMode)
/- The device is somewhere else now. -/
| motionUpdate (transform : Transform)
/- The server reports mode and transform. -/
| motionInfo (mode : MotionMode) (transform : Transform)
deriving DecidableEq, Repr

/- The kinds of payloads. -/
inductive Kind where
| sessionStart
| sessionActivate
| sessionShutdown
| acknowledge
| error
| getCameraList
| cameraList
| setActiveCamera
| activeCameraInfo
| motionSetMode
| motionGetMode
| motionActiveMode
| motionUpdate
| motionInfo
deriving DecidableEq, Repr

namespace Kind

/- The name of a kind on the wire. -/
def name : Kind → String
| .sessionStart => "session_start"
| .sessionActivate => "session_activate"
| .sessionShutdown => "session_shutdown"
| .acknowledge => "acknowledge"
| .error => "error"
| .getCameraList => "get_camera_list"
| .cameraList => "camera_list"
| .setActiveCamera => "set_active_camera"
| .activeCameraInfo => "active_camera_info"
| .motionSetMode => "motion_set_mode"
| .motionGetMode => "motion_get_mode"
| .motionActiveMode => "motion_active_mode"
| .motionUpdate => "motion_xform"
| .motionInfo => "motion_info"

/- The kind with a given name. -/
def ofName? : String → Option Kind
| "session_start" => some .sessionStart
| "session_activate" => some .sessionActivate
| "session_shutdown" => some .sessionShutdown
| "acknowledge" => some .acknowledge
| "error" => some .error
| "get_camera_list" => some .getCameraList
| "camera_list" => some .cameraList
| "set_active_camera" => some .setActiveCamera
| "active_camera_info" => some .activeCameraInfo
| "motion_set_mode" => some .motionSetMode
| "motion_get_mode" => some .motionGetMode
| "motion_active_mode" => some .motionActiveMode
| "motion_xform" => some .motionUpdate
| "motion_info" => some .motionInfo
| _ => none

/- Every kind has the name by which it is found. -/
theorem ofName?_name (k : Kind) : ofName? k.name = some k := by
  cases k <;> rfl

end Kind

namespace Payload

/- The kind of a payload. -/
def kind : Payload → Kind
| .sessionStart _ => .sessionStart
| .sessionActivate _ => .sessionActivate
| .sessionShutdown => .sessionShutdown
| .acknowledge => .acknowledge
| .error _ => .error
| .getCameraList => .getCameraList
| .cameraList _ => .cameraList
| .setActiveCamera _ => .setActiveCamera
| .activeCameraInfo _ => .activeCameraInfo
| .motionSetMode _ => .motionSetMode
| .motionGetMode => .motionGetMode
| .motionActiveMode _ => .motionActiveMode
| .motionUpdate _ => .motionUpdate
| .motionInfo _ _ => .motionInfo

/- The transform in a payload, if it carries one. -/
def transform? : Payload → Option Transform
| .motionUpdate t => some t
| .motionInfo _ t => some t
| _ => none

end Payload

------------------------------------------------------------
-- Envelopes
------------------------------------------------------------

/- The name of a message, and of the message it answers. -/
structure Header where
  id : String
  responseId : Option String
deriving DecidableEq, Repr

/- A message. -/
structure Envelope where
  header : Header
  payload : Option Payload
deriving DecidableEq, Repr

namespace Envelope

/- The name of a message. -/
def id (e : Envelope) : String :=
  e.header.id

/- The message it answers. -/
def responseId (e : Envelope) : Option String :=
  e.header.responseId

/- The transform in a message, if it carries one. -/
def transform? (e : Envelope) : Option Transform :=
  e.payload.bind Payload.transform?

/- A message that answers none. -/
def fresh
    (id : String)
    (payload : Payload) : Envelope :=
  ⟨⟨id, none⟩, some payload⟩

/- An answer. -/
def reply
    (id responseId : String)
    (payload : Payload) : Envelope :=
  ⟨⟨id, some responseId⟩, some payload⟩

/- A report of a fault, about a message whose name may be unknown. -/
def failure
    (id : String)
    (responseId : Option String)
    (report : ErrorReport) : Envelope :=
  ⟨⟨id, responseId⟩, some (.error report)⟩

/- The same message as an answer. -/
def inResponseTo
    (e : Envelope)
    (responseId : String) : Envelope :=
  { e with header := { e.header with responseId := some responseId } }

end Envelope

end CaptureLink
