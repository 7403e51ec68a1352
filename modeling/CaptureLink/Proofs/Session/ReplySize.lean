import CaptureLink.Proofs.Envelope.Size
import CaptureLink.Proofs.Session.Answer

/-
  How long answers are.  An answer repeats texts of the
  message and of the server's introduction.  Without an
  application that adds texts of its own, two hundred bytes
  more are enough for every answer.

  Main statements:
    * `Session.Refusal.textSize_le`
    * `Session.length_process_le`
-/

namespace CaptureLink

open Json Json.Tree

/- No kind has a name of more than eighteen bytes. -/
theorem Kind.size_name_le (k : Kind) :
    spelledSize k.name ≤ 18 := by
  cases k with
  | _ => decide

/- No status has a name of more than nine. -/
theorem Status.size_name_le (s : Status) :
    spelledSize s.name ≤ 9 := by
  cases s with
  | _ => decide

/- Neither has a mode. -/
theorem MotionMode.size_name_le (m : MotionMode) :
    spelledSize m.name ≤ 9 := by
  cases m with
  | _ => decide

namespace Session

variable {κ : Type}

------------------------------------------------------------
-- Refusals
------------------------------------------------------------

/- The bytes of the texts that a refusal repeats. -/
def Refusal.repeated : Refusal → Nat
| .versionMismatch requested spoken =>
    spelledSize requested + spelledSize spoken
| .unknownCamera id => spelledSize id
| .delegateFailed fault =>
    spelledSize (Refusal.ofDelegate fault).message
| _ => 0

/- The bytes of the category and the message of a refusal. -/
def Refusal.textSize (r : Refusal) : Nat :=
  spelledSize r.toFault.report.category +
    spelledSize r.toFault.report.message

namespace Refusal

/- A session that has started says in which status it is. -/
theorem textSize_alreadyStarted (status : Status) :
    (alreadyStarted status).textSize =
      58 + spelledSize status.name := by
  have hReport :
      (alreadyStarted status).toFault.report =
        ⟨"InvalidMessage",
          "Invalid message: " ++
            ("cannot start session while " ++ status.name),
          false⟩ := rfl
  have hCategory : spelledSize "InvalidMessage" = 14 := by
    decide
  have hFault : spelledSize "Invalid message: " = 17 := by
    decide
  have hStatus :
      spelledSize "cannot start session while " = 27 := by
    decide
  rw [textSize, hReport]
  simp only [spelledSize_append, hCategory, hFault, hStatus]
  omega

/- Both versions are named. -/
theorem textSize_versionMismatch (requested spoken : String) :
    (versionMismatch requested spoken).textSize =
      87 + spelledSize requested + spelledSize spoken := by
  have hReport :
      (versionMismatch requested spoken).toFault.report =
        ⟨"APIVersionNotSupportedError",
          "API version not supported: " ++
            ("client requested " ++ requested ++
              ", server speaks " ++ spoken),
          true⟩ := rfl
  have hCategory :
      spelledSize "APIVersionNotSupportedError" = 27 := by
    decide
  have hFault :
      spelledSize "API version not supported: " = 27 := by
    decide
  have hRequested : spelledSize "client requested " = 17 := by
    decide
  have hSpoken : spelledSize ", server speaks " = 16 := by
    decide
  rw [textSize, hReport]
  simp only [spelledSize_append, hCategory, hFault, hRequested,
    hSpoken]
  omega

/- What was asked is named, and the status that forbids it. -/
theorem textSize_notActive (kind : Kind) (status : Status) :
    (notActive kind status).textSize =
      74 + spelledSize kind.name + spelledSize status.name := by
  have hReport :
      (notActive kind status).toFault.report =
        ⟨"SessionNotActiveError",
          "Session not active: " ++
            ("cannot process " ++ kind.name ++
              " while session is " ++ status.name),
          false⟩ := rfl
  have hCategory :
      spelledSize "SessionNotActiveError" = 21 := by
    decide
  have hFault : spelledSize "Session not active: " = 20 := by
    decide
  have hKind : spelledSize "cannot process " = 15 := by
    decide
  have hStatus : spelledSize " while session is " = 18 := by
    decide
  rw [textSize, hReport]
  simp only [spelledSize_append, hCategory, hFault, hKind,
    hStatus]
  omega

/- The camera that was not found is named. -/
theorem textSize_unknownCamera (id : String) :
    (unknownCamera id).textSize = 38 + spelledSize id := by
  have hReport :
      (unknownCamera id).toFault.report =
        ⟨"CannotProcessMessage", "Camera not found: " ++ id,
          false⟩ := rfl
  have hCategory :
      spelledSize "CannotProcessMessage" = 20 := by
    decide
  have hFault : spelledSize "Camera not found: " = 18 := by
    decide
  rw [textSize, hReport]
  simp only [spelledSize_append, hCategory, hFault]
  omega

/- What nobody handles is named. -/
theorem textSize_noHandler (kind : Kind) :
    (noHandler kind).textSize = 67 + spelledSize kind.name := by
  have hReport :
      (noHandler kind).toFault.report =
        ⟨"ApplicationException",
          "Cannot handle payload: " ++
            ("no handler for " ++ kind.name ++ " messages"),
          false⟩ := rfl
  have hCategory :
      spelledSize "ApplicationException" = 20 := by
    decide
  have hFault :
      spelledSize "Cannot handle payload: " = 23 := by
    decide
  have hKind : spelledSize "no handler for " = 15 := by
    decide
  have hMessages : spelledSize " messages" = 9 := by
    decide
  rw [textSize, hReport]
  simp only [spelledSize_append, hCategory, hFault, hKind,
    hMessages]
  omega

/- What the application says is repeated as it is. -/
theorem textSize_delegateFailed (fault : Fault) :
    (delegateFailed fault).textSize =
      15 + spelledSize (ofDelegate fault).message := by
  have hCategory :
      (delegateFailed fault).toFault.report.category =
        "UnexpectedError" := by
    cases fault with
    | _ => rfl
  have hOwn : spelledSize "UnexpectedError" = 15 := by
    decide
  rw [textSize, hCategory, hOwn]
  rfl

/- A refusal has a hundred bytes of its own. -/
theorem textSize_le (r : Refusal) :
    r.textSize ≤ 101 + r.repeated := by
  cases r with
  | missingPayload => decide
  | alreadyStarted status =>
      have hStatus := status.size_name_le
      rw [textSize_alreadyStarted]
      omega
  | notStarted => decide
  | alreadyActivated => decide
  | versionMismatch requested spoken =>
      rw [textSize_versionMismatch, repeated]
      omega
  | unnamedAcknowledgment => decide
  | notActive kind status =>
      have hKind := kind.size_name_le
      have hStatus := status.size_name_le
      rw [textSize_notActive]
      omega
  | unknownCamera id =>
      rw [textSize_unknownCamera, repeated]
      omega
  | noHandler kind =>
      have hKind := kind.size_name_le
      rw [textSize_noHandler]
      omega
  | delegateFailed fault =>
      rw [textSize_delegateFailed, repeated]
      omega

end Refusal

------------------------------------------------------------
-- Answers
------------------------------------------------------------

/- The bytes of the texts that an answer to a message may repeat. -/
def repeated (e : Envelope) : Nat :=
  spelledSize e.id +
    match e.payload with
    | some (.sessionActivate profile) =>
        spelledSize profile.apiVersion
    | some (.setActiveCamera id) => spelledSize id
    | _ => 0

/- The report of a refusal and what it repeats. -/
theorem length_refusal_le
    (fresh id : String)
    (r : Refusal) :
    (Envelope.failure fresh (some id)
        r.toFault.report).toBody.length ≤
      spelledSize fresh + spelledSize id + r.repeated + 200 := by
  have hText := r.textSize_le
  have hFlag := size_bool_le r.toFault.report.isFatal
  rw [Refusal.textSize] at hText
  rw [Envelope.length_failure, Option.elim_some]
  omega

/- Without cameras, a refusal repeats two texts at most. -/
theorem repeated_le_of_cause
    {s : Session Unit κ}
    {e : Envelope}
    {payload : Payload}
    {r : Refusal}
    (hPayload : e.payload = some payload)
    (hCause : Refusal.Cause .idle s payload r) :
    spelledSize e.id + r.repeated ≤
      repeated e + spelledSize s.info.apiVersion := by
  unfold repeated
  rw [hPayload]
  cases r with
  | versionMismatch requested spoken =>
      rcases hCause with ⟨profile, rfl, rfl, rfl⟩
      simp only [Refusal.repeated]
      omega
  | unknownCamera id =>
      have hCamera : payload = .setActiveCamera id := hCause
      subst hCamera
      simp only [Refusal.repeated]
      omega
  | delegateFailed fault =>
      rcases hCause with ⟨n, hFault⟩
      cases hFault
  | _ =>
      simp only [Refusal.repeated]
      omega

/- Without cameras, so does every other answer. -/
theorem length_le_of_answer
    {fresh : String}
    {s : Session Unit κ}
    {header : Header}
    {payload : Payload}
    {reply : Envelope}
    (hAnswer : Answer .idle s fresh header payload reply) :
    reply.toBody.length ≤
      spelledSize fresh + spelledSize header.id +
        spelledSize s.info.apiVersion + 200 := by
  have hSome (p : Payload) := p.kind.size_name_le
  cases hAnswer with
  | greeting info =>
      have hInfo : spelledSize "server_info" = 11 := by decide
      have hVersion : spelledSize "api_version" = 11 := by decide
      have hFeatures : spelledSize "features" = 8 := by decide
      have hBits : s.info.features.toTree.size ≤ 10 :=
        size_natural_le s.info.features.bits.toNat_lt
      have hKind := hSome (.sessionStart s.info)
      simp only [Envelope.length_fresh, Payload.body,
        ServerInfo.toTree, size_record (List.cons_ne_nil _ _),
        List.map_cons, List.map_nil, List.sum_cons,
        List.sum_nil, fieldSize, size_text, hInfo, hVersion,
        hFeatures]
      omega
  | cameras =>
      have hBody :
          (Payload.cameraList []).body.size = 14 := by decide
      have hKind := hSome (.cameraList [])
      rw [show Delegate.idle.cameras s.host = [] from rfl,
        Envelope.length_reply, hBody]
      omega
  | picked hFound => cases hFound
  | accepted mode =>
      have hBody : Payload.acknowledge.body.size = 2 := by decide
      have hKind := hSome .acknowledge
      rw [Envelope.length_reply, hBody]
      omega
  | mode =>
      have hMode : spelledSize "mode" = 4 := by decide
      have hName := s.state.mode.size_name_le
      have hKind := hSome (.motionActiveMode s.state.mode)
      simp only [Envelope.length_reply, Payload.body,
        MotionMode.toTree, size_record (List.cons_ne_nil _ _),
        List.map_cons, List.map_nil, List.sum_cons,
        List.sum_nil, fieldSize, size_text, hMode]
      omega

/-
  Without cameras, an answer takes the texts it repeats and
  two hundred bytes at most.
-/
theorem length_process_le
    (fresh : String)
    (e : Envelope)
    (s : Session Unit κ)
    {reply : Envelope}
    (hReply : (s.process .idle fresh e).result = some reply) :
    reply.toBody.length ≤
      spelledSize fresh + repeated e +
        spelledSize s.info.apiVersion + 200 := by
  have hId : spelledSize e.id ≤ repeated e :=
    Nat.le_add_right _ _
  rcases process_result_cases .idle fresh e s hReply with
    ⟨_, rfl⟩ | ⟨payload, hPayload, hAnswer | ⟨r, hCause, rfl⟩⟩
  · have hLength := length_refusal_le fresh e.id .missingPayload
    have hNone : Refusal.missingPayload.repeated = 0 := rfl
    omega
  · have hLength := length_le_of_answer hAnswer
    have hSame : spelledSize e.header.id = spelledSize e.id := rfl
    omega
  · have hLength := length_refusal_le fresh e.id r
    have hRepeated := repeated_le_of_cause hPayload hCause
    omega

end Session

end CaptureLink
