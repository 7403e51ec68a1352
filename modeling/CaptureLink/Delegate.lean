import CaptureLink.Envelope

/-
  The application behind a session.  It knows the cameras of
  the scene and is told what the client does.

  Key definitions include:
    * `Notice`
    * `Delegate`
    * `Delegate.findListed`
    * `Delegate.scene`
    * `Delegate.idle`
-/

namespace CaptureLink

/- What an application is told. -/
inductive Notice where
/- A client has activated the session. -/
| activated (profile : ClientProfile)
/- The client has picked a camera. -/
| camera (camera : Camera)
/- The capture mode has changed. -/
| mode (mode : MotionMode)
/- A transform was accepted. -/
| motion (transform : Transform)
/- The session is about to end. -/
| shutdown
deriving DecidableEq, Repr

/-
  An application with a state of its own.  Being told may
  fail; what fails while a session ends is of no consequence.
-/
structure Delegate (σ : Type) where
  cameras : σ → List Camera
  find? : σ → String → Option Camera
  notify : Notice → σ → σ × Option Fault

namespace Delegate

/- The first camera of a list with some id. -/
def findListed
    (cameras : List Camera)
    (id : String) : Option Camera :=
  cameras.find? (·.id = id)

/- A fixed list of cameras. -/
def scene (cameras : List Camera) : Delegate Unit where
  cameras := fun _ => cameras
  find? := fun _ => findListed cameras
  notify := fun _ state => (state, none)

/- No cameras. -/
def idle : Delegate Unit :=
  scene []

end Delegate

end CaptureLink
