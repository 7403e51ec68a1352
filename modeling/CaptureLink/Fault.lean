/-
  What can go wrong, and how it is told to the peer.  Each
  fault belongs to one of the categories that exist on the
  wire, and the category alone decides whether the session
  can go on.

  Key definitions include:
    * `ErrorCategory`
    * `ErrorReport`
    * `Diagnosis`
    * `Fault`
    * `Fault.message`
    * `Fault.category`
    * `Fault.report`
-/

namespace CaptureLink

------------------------------------------------------------
-- Categories
------------------------------------------------------------

/- The categories of faults that a peer is told about. -/
inductive ErrorCategory where
/- The payload is missing or cannot be read. -/
| malformedMessage
/- The message breaks the rules of the session. -/
| invalidMessage
/- The message was understood and cannot be carried out. -/
| cannotProcess
/- The session has to be activated first. -/
| sessionNotActive
/- The ends speak different versions. -/
| versionNotSupported
/- Nobody handles messages of this kind. -/
| unhandled
/- A fault inside the server. -/
| unexpected
deriving DecidableEq, Repr

namespace ErrorCategory

/- The name of a category on the wire. -/
def name : ErrorCategory → String
| .malformedMessage => "MalformedMessageError"
| .invalidMessage => "InvalidMessage"
| .cannotProcess => "CannotProcessMessage"
| .sessionNotActive => "SessionNotActiveError"
| .versionNotSupported => "APIVersionNotSupportedError"
| .unhandled => "ApplicationException"
| .unexpected => "UnexpectedError"

/- The category with a given name. -/
def ofName? : String → Option ErrorCategory
| "MalformedMessageError" => some .malformedMessage
| "InvalidMessage" => some .invalidMessage
| "CannotProcessMessage" => some .cannotProcess
| "SessionNotActiveError" => some .sessionNotActive
| "APIVersionNotSupportedError" => some .versionNotSupported
| "ApplicationException" => some .unhandled
| "UnexpectedError" => some .unexpected
| _ => none

/- What is said about a text that names no category. -/
def unknownText (text : String) : String :=
  "Unknown error type: " ++ text

/- The session ends after a fault of this category. -/
def fatal : ErrorCategory → Bool
| .versionNotSupported => true
| .unexpected => true
| _ => false

end ErrorCategory

------------------------------------------------------------
-- Reports
------------------------------------------------------------

/-
  A fault as one end reports it to the other.  The category
  is kept as text, since a peer may use names of its own.
-/
structure ErrorReport where
  category : String
  message : String
  isFatal : Bool
deriving DecidableEq, Repr

namespace ErrorReport

/- The report of a fault of a known category. -/
def ofCategory
    (category : ErrorCategory)
    (message : String) : ErrorReport :=
  ⟨category.name, message, category.fatal⟩

/- The category, if it is a known one. -/
def category? (r : ErrorReport) : Option ErrorCategory :=
  ErrorCategory.ofName? r.category

end ErrorReport

------------------------------------------------------------
-- Faults
------------------------------------------------------------

/-
  What the readers of JSON, Base64 and TOML have to say about
  what they refuse.  They may say as much as they like, and
  repeat what they were given.
-/
structure Diagnosis where
  /- Why a body is not JSON. -/
  notJson : List UInt8 → String
  /- Why there is no message in a body. -/
  noMessage : List UInt8 → String
  /- Why the header in a body cannot be read. -/
  unreadableHeader : List UInt8 → String
  /- Why a text is no envelope. -/
  noEnvelope : List Char → String
  /- Why a text is not Base64. -/
  notBase64 : List Char → String
  /- Why a text is no configuration. -/
  noConfig : String → String

/- Readers that say the same about everything they refuse. -/
def Diagnosis.constant (text : String) : Diagnosis where
  notJson := fun _ => text
  noMessage := fun _ => text
  unreadableHeader := fun _ => text
  noEnvelope := fun _ => text
  notBase64 := fun _ => text
  noConfig := fun _ => text

/- Everything that can go wrong in a session or around it. -/
inductive Fault where
| malformedMessage (detail : String)
| invalidMessage (detail : String)
| sessionNotActive (detail : String)
| cameraNotFound (id : String)
| versionNotSupported (detail : String)
| unhandledPayload (detail : String)
/- The application behind the session failed. -/
| delegate (detail : String)
| codec (detail : String)
| frameTooLarge (size limit : Nat)
| checksumMismatch (expected actual : UInt32)
| network (detail : String)
| config (detail : String)
/- A text is not JSON, or not JSON of the expected form. -/
| json (detail : String)
| io (detail : String)
deriving DecidableEq, Repr

/- Eight hexadecimal digits. -/
def hexWord (w : UInt32) : String :=
  let ds := Nat.toDigits 16 w.toNat
  String.ofList (List.replicate (8 - ds.length) '0' ++ ds)

namespace Fault

/- A fault in words. -/
def message : Fault → String
| .malformedMessage detail => "Malformed message: " ++ detail
| .invalidMessage detail => "Invalid message: " ++ detail
| .sessionNotActive detail => "Session not active: " ++ detail
| .cameraNotFound id => "Camera not found: " ++ id
| .versionNotSupported detail =>
    "API version not supported: " ++ detail
| .unhandledPayload detail => "Cannot handle payload: " ++ detail
| .delegate detail => "Delegate error: " ++ detail
| .codec detail => "Codec error: " ++ detail
| .frameTooLarge size limit =>
    "Frame too large: " ++ size.repr ++ " bytes (limit " ++
      limit.repr ++ ")"
| .checksumMismatch expected actual =>
    "Checksum mismatch: expected " ++ hexWord expected ++
      ", got " ++ hexWord actual
| .network detail => "Network error: " ++ detail
| .config detail => "Config error: " ++ detail
| .json detail => "JSON error: " ++ detail
| .io detail => "IO error: " ++ detail

/- The category that a peer is told. -/
def category : Fault → ErrorCategory
| .malformedMessage _ => .malformedMessage
| .codec _ => .malformedMessage
| .checksumMismatch _ _ => .malformedMessage
| .json _ => .malformedMessage
| .invalidMessage _ => .invalidMessage
| .frameTooLarge _ _ => .invalidMessage
| .sessionNotActive _ => .sessionNotActive
| .cameraNotFound _ => .cannotProcess
| .versionNotSupported _ => .versionNotSupported
| .unhandledPayload _ => .unhandled
| .delegate _ => .unexpected
| .network _ => .unexpected
| .config _ => .unexpected
| .io _ => .unexpected

/- The session ends after this fault. -/
def fatal (f : Fault) : Bool :=
  f.category.fatal

/- The report for the peer. -/
def report (f : Fault) : ErrorReport :=
  .ofCategory f.category f.message

/-
  A fault of one frame, behind which a byte stream can be
  read on.
-/
def recoverable : Fault → Bool
| .checksumMismatch _ _ => true
| .json _ => true
| .malformedMessage _ => true
| _ => false

end Fault

end CaptureLink
