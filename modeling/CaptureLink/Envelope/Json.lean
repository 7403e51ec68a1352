import CaptureLink.Envelope
import CaptureLink.Json.Record

/-
  Envelopes as JSON.  Writing gives every field except the
  ones that are absent; reading knows defaults, and takes a
  record from an object or from an array.

  Key definitions include:
    * `Payload.toTree`
    * `Envelope.toTree`
    * `Payload.ofTree?`
    * `Envelope.ofTree?`
    * `Envelope.toJson`
    * `Envelope.ofJson?`
-/

namespace CaptureLink

open Json

------------------------------------------------------------
-- Writing
------------------------------------------------------------

/- The features as one number. -/
def FeatureSet.toTree (s : FeatureSet) : Tree :=
  .natural s.bits.toNat

/- A server's introduction. -/
def ServerInfo.toTree (info : ServerInfo) : Tree :=
  .record
    [ ("api_version", .text info.apiVersion),
      ("features", info.features.toTree) ]

/- A client's introduction. -/
def ClientProfile.toTree (profile : ClientProfile) : Tree :=
  .record
    [ ("name", .text profile.name),
      ("api_version", .text profile.apiVersion),
      ("features", profile.features.toTree) ]

/- A vector. -/
def Vector3.toTree (v : Vector3) : Tree :=
  .record [("x", .real v.x), ("y", .real v.y), ("z", .real v.z)]

/- A transform. -/
def Transform.toTree (t : Transform) : Tree :=
  .record
    [ ("translation", t.translation.toTree),
      ("orientation", t.orientation.toTree) ]

/- A mode by its name. -/
def MotionMode.toTree (mode : MotionMode) : Tree :=
  .text mode.name

/- A camera. -/
def Camera.toTree (c : Camera) : Tree :=
  .record [("id", .text c.id)]

/- A report. -/
def ErrorReport.toTree (r : ErrorReport) : Tree :=
  .record
    [ ("type", .text r.category),
      ("message", .text r.message),
      ("is_fatal", .bool r.isFatal) ]

/- What stands behind the tag of a payload. -/
def Payload.body : Payload → Tree
| .sessionStart info => .record [("server_info", info.toTree)]
| .sessionActivate profile =>
    .record [("properties", profile.toTree)]
| .sessionShutdown => .record []
| .acknowledge => .record []
| .error report => report.toTree
| .getCameraList => .record []
| .cameraList cameras =>
    .record [("cameras", .array (cameras.map Camera.toTree))]
| .setActiveCamera id => .record [("camera_id", .text id)]
| .activeCameraInfo camera => .record [("camera", camera.toTree)]
| .motionSetMode mode => .record [("mode", mode.toTree)]
| .motionGetMode => .record []
| .motionActiveMode mode => .record [("mode", mode.toTree)]
| .motionUpdate transform => .record [("xform", transform.toTree)]
| .motionInfo mode transform =>
    .record [("mode", mode.toTree), ("xform", transform.toTree)]

/- A payload under the name of its kind. -/
def Payload.toTree (p : Payload) : Tree :=
  .record [(p.kind.name, p.body)]

/- A header. -/
def Header.toTree (h : Header) : Tree :=
  match h.responseId with
  | none => .record [("id", .text h.id)]
  | some responseId =>
      .record [("id", .text h.id), ("response_id", .text responseId)]

/- An envelope. -/
def Envelope.toTree (e : Envelope) : Tree :=
  match e.payload with
  | none => .record [("header", e.header.toTree)]
  | some payload =>
      .record
        [("header", e.header.toTree), ("payload", payload.toTree)]

------------------------------------------------------------
-- Reading the parts
------------------------------------------------------------

/- Features from one number. -/
def FeatureSet.ofTree? (t : Tree) : Option FeatureSet :=
  t.word32?.map FeatureSet.mk

/- A server's introduction has all its fields. -/
def ServerInfo.ofTree? (t : Tree) : Option ServerInfo := do
  match ← t.fields? ["api_version", "features"] with
  | [version, features] =>
      let version ← required Tree.text? version
      let features ← required FeatureSet.ofTree? features
      some ⟨version, features⟩
  | _ => none

/- A client may leave out every field of its introduction. -/
def ClientProfile.ofTree? (t : Tree) : Option ClientProfile := do
  match ← t.fields? ["name", "api_version", "features"] with
  | [name, version, features] =>
      let name ← withDefault "" Tree.text? name
      let version ← withDefault "" Tree.text? version
      let features ← withDefault .empty FeatureSet.ofTree? features
      some ⟨name, version, features⟩
  | _ => none

/- A vector. -/
def Vector3.ofTree? (t : Tree) : Option Vector3 := do
  match ← t.fields? ["x", "y", "z"] with
  | [x, y, z] =>
      let x ← required Tree.real? x
      let y ← required Tree.real? y
      let z ← required Tree.real? z
      some ⟨x, y, z⟩
  | _ => none

/- A transform. -/
def Transform.ofTree? (t : Tree) : Option Transform := do
  match ← t.fields? ["translation", "orientation"] with
  | [translation, orientation] =>
      let translation ← required Vector3.ofTree? translation
      let orientation ← required Vector3.ofTree? orientation
      some ⟨translation, orientation⟩
  | _ => none

/- A mode by its name, or as an object from its name to null. -/
def MotionMode.ofTree? : Tree → Option MotionMode
| .string (some name) => MotionMode.ofName? name
| .object [(some name, .null)] => MotionMode.ofName? name
| _ => none

/- A camera. -/
def Camera.ofTree? (t : Tree) : Option Camera := do
  match ← t.fields? ["id"] with
  | [id] =>
      let id ← required Tree.text? id
      some ⟨id⟩
  | _ => none

/- Cameras in order. -/
def Camera.listOfTree? (t : Tree) : Option (List Camera) := do
  (← t.items?).mapM Camera.ofTree?

/- A report. -/
def ErrorReport.ofTree? (t : Tree) : Option ErrorReport := do
  match ← t.fields? ["type", "message", "is_fatal"] with
  | [category, message, isFatal] =>
      let category ← required Tree.text? category
      let message ← required Tree.text? message
      let isFatal ← withDefault false Tree.bool? isFatal
      some ⟨category, message, isFatal⟩
  | _ => none

/- A header. -/
def Header.ofTree? (t : Tree) : Option Header := do
  match ← t.fields? ["id", "response_id"] with
  | [id, responseId] =>
      let id ← required Tree.text? id
      let responseId ← nullable Tree.text? responseId
      some ⟨id, responseId⟩
  | _ => none

------------------------------------------------------------
-- Reading payloads
------------------------------------------------------------

/- The only field of a payload. -/
def soleField?
    {α : Type}
    (name : String)
    (read : Option Tree → Option α)
    (t : Tree) : Option α := do
  match ← t.fields? [name] with
  | [value] => read value
  | _ => none

/- The payload of a kind, from what stands behind its tag. -/
def Payload.ofBody? (kind : Kind) (t : Tree) : Option Payload :=
  match kind with
  | .sessionStart =>
      (soleField? "server_info"
        (withDefault .standard ServerInfo.ofTree?) t).map .sessionStart
  | .sessionActivate =>
      (soleField? "properties"
        (withDefault .anonymous ClientProfile.ofTree?) t).map
          .sessionActivate
  | .sessionShutdown => (t.fields? []).map fun _ => .sessionShutdown
  | .acknowledge => (t.fields? []).map fun _ => .acknowledge
  | .error => (ErrorReport.ofTree? t).map .error
  | .getCameraList => (t.fields? []).map fun _ => .getCameraList
  | .cameraList =>
      (soleField? "cameras"
        (required Camera.listOfTree?) t).map .cameraList
  | .setActiveCamera =>
      (soleField? "camera_id"
        (required Tree.text?) t).map .setActiveCamera
  | .activeCameraInfo =>
      (soleField? "camera"
        (required Camera.ofTree?) t).map .activeCameraInfo
  | .motionSetMode =>
      (soleField? "mode"
        (required MotionMode.ofTree?) t).map .motionSetMode
  | .motionGetMode => (t.fields? []).map fun _ => .motionGetMode
  | .motionActiveMode =>
      (soleField? "mode"
        (required MotionMode.ofTree?) t).map .motionActiveMode
  | .motionUpdate =>
      (soleField? "xform"
        (required Transform.ofTree?) t).map .motionUpdate
  | .motionInfo => do
      match ← t.fields? ["mode", "xform"] with
      | [mode, transform] =>
          let mode ← required MotionMode.ofTree? mode
          let transform ← required Transform.ofTree? transform
          some (.motionInfo mode transform)
      | _ => none

/- Whether the value behind a tag may give its fields by place. -/
inductive TagBody where
/- It may. -/
| anyRecord
/- Only in a report, which is a record in its own right. -/
| object
deriving DecidableEq, Repr

/- A value that may stand behind a tag. -/
def TagBody.admits (rule : TagBody) (kind : Kind) : Tree → Bool
| .object _ => true
| _ => rule = .anyRecord || kind = .error

/- A payload: one tag, which names its kind. -/
def Payload.ofTree?
    (rule : TagBody)
    (t : Tree) : Option Payload := do
  let (tag, body) ← t.soleMember?
  let kind ← Kind.ofName? tag
  if rule.admits kind body then
    Payload.ofBody? kind body
  else
    none

/- An envelope. -/
def Envelope.ofTree?
    (rule : TagBody)
    (t : Tree) : Option Envelope := do
  match ← t.fields? ["header", "payload"] with
  | [header, payload] =>
      let header ← required Header.ofTree? header
      let payload ← nullable (Payload.ofTree? rule) payload
      some ⟨header, payload⟩
  | _ => none

------------------------------------------------------------
-- Texts
------------------------------------------------------------

namespace Envelope

/- The text of an envelope on one line. -/
def toJson (e : Envelope) : String :=
  String.ofList e.toTree.compact

/- The text of an envelope with every entry on a line of its own. -/
def toPrettyJson (e : Envelope) : String :=
  String.ofList e.toTree.pretty

/-
  The envelope that a text stands for.  What no field takes
  only has to be well formed.
-/
def ofJson? (text : List Char) : Option Envelope :=
  (Tree.ofChars? text).bind (ofTree? .anyRecord)

end Envelope

end CaptureLink
