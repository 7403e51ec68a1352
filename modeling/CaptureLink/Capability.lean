/-
  What the two ends of a session tell each other about
  themselves, and when they can talk to each other.

  Key definitions include:
    * `FeatureSet`
    * `ServerInfo`
    * `ClientProfile`
    * `majorVersion`
    * `ServerInfo.speaksWith`
-/

namespace CaptureLink

------------------------------------------------------------
-- Features
------------------------------------------------------------

/- Optional features, one bit each. -/
structure FeatureSet where
  bits : UInt32
deriving DecidableEq, Repr

namespace FeatureSet

/- No feature. -/
def empty : FeatureSet :=
  ⟨0⟩

/- The set together with further features. -/
def add
    (s : FeatureSet)
    (features : UInt32) : FeatureSet :=
  ⟨s.bits ||| features⟩

/- One of the features is in the set. -/
def meets
    (s : FeatureSet)
    (features : UInt32) : Bool :=
  s.bits &&& features ≠ 0

end FeatureSet

------------------------------------------------------------
-- Versions
------------------------------------------------------------

/- The version of the interface that this server speaks. -/
def apiVersion : String := "1.0"

/- The part of a version before its first point. -/
def majorVersion (version : String) : List Char :=
  version.toList.takeWhile (· ≠ '.')

------------------------------------------------------------
-- The two ends
------------------------------------------------------------

/- A server as it introduces itself. -/
structure ServerInfo where
  apiVersion : String
  features : FeatureSet
deriving DecidableEq, Repr

namespace ServerInfo

/- A server without optional features. -/
def standard : ServerInfo :=
  ⟨CaptureLink.apiVersion, .empty⟩

/- A peer can talk to the server if it has the same major version. -/
def speaksWith
    (info : ServerInfo)
    (version : String) : Bool :=
  majorVersion info.apiVersion = majorVersion version

end ServerInfo

/- A client as it introduces itself; an empty version is no version. -/
structure ClientProfile where
  name : String
  apiVersion : String
  features : FeatureSet
deriving DecidableEq, Repr

namespace ClientProfile

/- A client that tells nothing about itself. -/
def anonymous : ClientProfile :=
  ⟨"", "", .empty⟩

end ClientProfile

end CaptureLink
