import CaptureLink.Proofs.Connection.Stream
import CaptureLink.Proofs.Session.ReplySize

/-
  What a stream of whole frames costs a client.  Each frame
  has its turn: a message is processed, and a frame without
  one is reported.  The connection conducts this dialogue up
  to the first message whose body is longer than the limit,
  which ends the connection.  Without cameras, no message is
  that long unless it repeats long texts, or the reader of a
  frame has much to say about it.

  Main statements:
    * `Dialogue.of`
    * `Connection.conducted_takeAll`
    * `Dialogue.length_le_of_roomy`
    * `Connection.serveStream_idle`
    * `Connection.serveStream_idle_long_name`
-/

namespace CaptureLink

open Json

variable {σ κ : Type}

------------------------------------------------------------
-- Dialogues
------------------------------------------------------------

/-
  A session after some frames had their turn, what happened,
  and the messages to be sent.
-/
structure Dialogue (σ κ : Type) where
  session : Session σ κ
  events : List (Session.Event κ)
  sent : List Envelope

namespace Dialogue

/- Something came before. -/
def behind
    (t : Dialogue σ κ)
    (events : List (Session.Event κ))
    (sent : List Envelope) : Dialogue σ κ :=
  ⟨t.session, events ++ t.events, sent ++ t.sent⟩

/-
  The turn of one frame: its message is processed, or it is
  reported, in the words of its reader, that there is none.
-/
def turn
    (d : Delegate σ)
    (words : Diagnosis)
    (fresh : String)
    (s : Session σ κ) :
    Except Frame.Defect Envelope →
      Session.Step σ κ (Option Envelope)
| .ok e => s.process d fresh e
| .error defect =>
    let fault := defect.toFault words
    .quiet s (some (.failure fresh none fault.report))

/- One frame after the other has its turn. -/
def of
    (d : Delegate σ)
    (words : Diagnosis)
    (name : Nat → String) :
    Nat → Session σ κ → List (Except Frame.Defect Envelope) →
      Dialogue σ κ
| _, s, [] => ⟨s, [], []⟩
| issued, s, result :: results =>
    let step := turn d words (name (issued + 1)) s result
    let sent := step.result.toList
    let rest :=
      of d words name (issued + sent.length) step.session results
    rest.behind step.events sent

/- No message of a dialogue carries a transform. -/
theorem transform?_of_turn
    {d : Delegate σ}
    {words : Diagnosis}
    {fresh : String}
    {s : Session σ κ}
    {result : Except Frame.Defect Envelope}
    {e : Envelope}
    (hSent : (turn d words fresh s result).result = some e) :
    e.transform? = none := by
  cases result with
  | ok message =>
      exact Session.transform?_of_process d fresh message s hSent
  | error defect =>
      cases hSent
      rfl

/- The messages that were read are counted, and only they. -/
theorem received_of
    (d : Delegate σ)
    (words : Diagnosis)
    (name : Nat → String)
    (issued : Nat)
    (s : Session σ κ)
    (results : List (Except Frame.Defect Envelope)) :
    (of d words name issued s results).session.received =
      s.received +
        (results.filterMap Except.toOption).length := by
  induction results generalizing issued s with
  | nil => rfl
  | cons result results ih =>
      simp only [of, behind, ih]
      cases result with
      | ok e =>
          have hProcess :=
            (Session.steady_process d (name (issued + 1)) e
              s).received_eq
          simp only [turn, hProcess, List.filterMap_cons,
            Except.toOption, List.length_cons]
          omega
      | error defect =>
          simp only [turn, List.filterMap_cons, Except.toOption]
          rfl

end Dialogue

------------------------------------------------------------
-- Conducting a dialogue
------------------------------------------------------------

namespace Connection

/-
  A connection after a dialogue: the messages in front of the
  first that is too long have left as frames, and that one,
  if there is any, has broken the connection.  If there is
  none, everything was said.
-/
structure Conducted
    (limit : Nat)
    (c : Connection σ κ (List UInt8))
    (t : Dialogue σ κ)
    (run : Connection σ κ (List UInt8)) : Prop where
  broken_eq :
    run.broken =
      (t.sent.find? fun e => limit < e.toBody.length).map
        fun e => .frameTooLarge e.toBody.length limit
  outgoing_eq :
    run.outgoing =
      c.outgoing ++
        (t.sent.takeWhile fun e => e.toBody.length ≤ limit).map
          fun e => Frame.assemble e.toBody
  ended :
    run.broken = none →
      run.session = t.session ∧ run.events = c.events ++ t.events

namespace Conducted

variable {limit : Nat}
variable {c run : Connection σ κ (List UInt8)}
variable {t : Dialogue σ κ}
variable {session : Session σ κ}
variable {events : List (Session.Event κ)}
variable {e : Envelope}

/- A turn without a message. -/
theorem silent
    (hRest : Conducted limit (c.proceed session events) t run) :
    Conducted limit c (t.behind events []) run where
  broken_eq := hRest.broken_eq
  outgoing_eq := hRest.outgoing_eq
  ended := by
    intro hOpen
    rcases hRest.ended hOpen with ⟨hSession, hEvents⟩
    refine ⟨hSession, ?_⟩
    rw [hEvents, proceed, Dialogue.behind, List.append_assoc]

/- A turn with a message that leaves. -/
theorem spoken
    (hFits : e.toBody.length ≤ limit)
    (hRest :
      Conducted limit
        { c.proceed session events with
          issued := c.issued + 1
          outgoing := c.outgoing ++ [Frame.assemble e.toBody] }
        t run) :
    Conducted limit c (t.behind events [e]) run where
  broken_eq := by
    have hNot : ¬ limit < e.toBody.length := Nat.not_lt.mpr hFits
    rw [hRest.broken_eq]
    simp only [Dialogue.behind, List.singleton_append,
      List.find?_cons, hNot, decide_false]
  outgoing_eq := by
    rw [hRest.outgoing_eq]
    simp only [Dialogue.behind, List.singleton_append,
      List.takeWhile_cons, hFits, decide_true, if_true,
      List.map_cons, List.append_assoc]
  ended := by
    intro hOpen
    rcases hRest.ended hOpen with ⟨hSession, hEvents⟩
    refine ⟨hSession, ?_⟩
    rw [hEvents, proceed, Dialogue.behind, List.append_assoc]

/- A turn with a message that is too long. -/
theorem cut
    (hLong : limit < e.toBody.length) :
    Conducted limit c (t.behind events [e])
      { c.proceed session events with
        broken := some (.frameTooLarge e.toBody.length limit) } where
  broken_eq := by
    simp only [Dialogue.behind, List.singleton_append,
      List.find?_cons, hLong, decide_true, Option.map_some]
  outgoing_eq := by
    have hNot : ¬ e.toBody.length ≤ limit := Nat.not_le.mpr hLong
    simp only [Dialogue.behind, List.singleton_append,
      List.takeWhile_cons, hNot, decide_false, proceed,
      Bool.false_eq_true, if_false, List.map_nil,
      List.append_nil]
  ended := by
    intro hOpen
    cases hOpen

end Conducted

/- What a frame gives is responded to by its turn. -/
theorem respond_ofResult
    (d : Delegate σ)
    (words : Diagnosis)
    (fresh : String)
    (s : Session σ κ)
    {result : Except Frame.Defect Envelope}
    (hReadsOn : Frame.ReadsOn result) :
    let step := Dialogue.turn d words fresh s result
    respond d words fresh s (.ofResult result) =
      ⟨step.session, step.events, .ok step.result⟩ := by
  cases result with
  | ok e => rfl
  | error defect =>
      have hRecoverable : defect.recoverable = true := hReadsOn
      simp only [Arrival.ofResult, respond, hRecoverable, if_true]
      rfl

/- An open connection conducts the dialogue of whole frames. -/
theorem conducted_takeAll
    (d : Delegate σ)
    (words : Diagnosis)
    (limit : Nat)
    (name : Nat → String)
    {frames : List (List UInt8)}
    (hFrames : ∀ frame ∈ frames, Frame.Complete limit frame)
    {c : Connection σ κ (List UInt8)}
    (hOpen : c.broken = none) :
    Conducted limit c
      (Dialogue.of d words name c.issued c.session
        (frames.map (Frame.decode limit)))
      (c.takeAll (framing d words limit name)
        (frames.map (Arrival.ofFrame limit))) := by
  induction frames generalizing c with
  | nil =>
      refine ⟨hOpen, (List.append_nil _).symm, fun _ => ⟨rfl, ?_⟩⟩
      exact (List.append_nil _).symm
  | cons frame frames ih =>
      have hRest : ∀ f ∈ frames, Frame.Complete limit f :=
        fun f hMem => hFrames f (List.mem_cons_of_mem _ hMem)
      have hReadsOn :=
        ((hFrames frame List.mem_cons_self).nextEnvelope []).2
      have hTake :
          c.take (framing d words limit name) (.ofFrame limit frame) =
            c.carryOut (framing d words limit name)
              (respond d words (name (c.issued + 1)) c.session
                (.ofResult (Frame.decode limit frame))) :=
        take_of_open _ hOpen
      rw [List.map_cons, List.map_cons, takeAll_cons, hTake,
        respond_ofResult _ _ _ _ hReadsOn]
      simp only [Dialogue.of, carryOut]
      cases hResult :
          (Dialogue.turn d words (name (c.issued + 1)) c.session
            (Frame.decode limit frame)).result with
      | none =>
          exact .silent (ih hRest (c := c.proceed _ _) hOpen)
      | some e =>
          have hFinite :=
            Frame.isFinite_of_no_transform
              (Dialogue.transform?_of_turn hResult)
          by_cases hLong : limit < e.toBody.length
          · rw [sendSome, send_framed_of_long _ hFinite hLong,
              takeAll_of_broken _ (Option.some_ne_none _)]
            exact .cut hLong
          · have hFits := Nat.le_of_not_lt hLong
            rw [sendSome, send_framed _ hFinite hFits]
            exact .spoken hFits (ih hRest hOpen)

end Connection

------------------------------------------------------------
-- Messages that fit
------------------------------------------------------------

namespace Dialogue

variable {κ : Type}

/-
  The bytes of the texts that the turn of a frame may repeat:
  those of its message, or what is said about the frame.
-/
def repeated
    (words : Diagnosis) :
    Except Frame.Defect Envelope → Nat
| .ok e => Session.repeated e
| .error defect => spelledSize (defect.toFault words).message

/- The report of a fault takes its text and little more. -/
theorem length_report_le
    (fresh : String)
    (fault : Fault) :
    (Envelope.failure fresh none fault.report).toBody.length ≤
      spelledSize fresh + spelledSize fault.message + 200 := by
  have hCategory :
      spelledSize fault.report.category ≤ 27 := by
    show spelledSize fault.category.name ≤ 27
    cases fault.category with
    | _ => decide
  have hMessage : fault.report.message = fault.message := rfl
  have hFlag := Tree.size_bool_le fault.report.isFatal
  rw [Envelope.length_failure, hMessage, Option.elim_none]
  omega

/-
  What is said without cameras is as long as the texts it
  repeats and two hundred bytes at most.
-/
theorem length_turn_le
    (words : Diagnosis)
    (fresh : String)
    (s : Session Unit κ)
    (result : Except Frame.Defect Envelope)
    {e : Envelope}
    (hSent : (turn .idle words fresh s result).result = some e) :
    e.toBody.length ≤
      spelledSize fresh + repeated words result +
        spelledSize s.info.apiVersion + 200 := by
  cases result with
  | ok message =>
      exact Session.length_process_le fresh message s hSent
  | error defect =>
      cases hSent
      have hReport := length_report_le fresh (defect.toFault words)
      rw [repeated]
      omega

/- If the texts that may be repeated leave room, all of it fits. -/
theorem length_le_of_roomy
    {limit : Nat}
    {words : Diagnosis}
    {name : Nat → String}
    (hName : ∀ n, spelledSize (name n) ≤ 36)
    {results : List (Except Frame.Defect Envelope)}
    {issued : Nat}
    {s : Session Unit κ}
    (hRoom :
      ∀ result ∈ results,
        repeated words result +
            spelledSize s.info.apiVersion + 236 ≤
          limit) :
    ∀ e ∈ (of .idle words name issued s results).sent,
      e.toBody.length ≤ limit := by
  induction results generalizing issued s with
  | nil =>
      intro e hMem
      cases hMem
  | cons result results ih =>
      intro e hMem
      rcases List.mem_append.mp hMem with hNow | hLater
      · have hLength :=
          length_turn_le words (name (issued + 1)) s result
            (Option.mem_toList.mp hNow)
        have hHere := hRoom result List.mem_cons_self
        have hFresh := hName (issued + 1)
        omega
      · apply ih _ e hLater
        intro other hOther
        have hInfo :
            (turn .idle words (name (issued + 1)) s
              result).session.info = s.info := by
          cases result with
          | ok message =>
              exact (Session.steady_process .idle
                (name (issued + 1)) message s).info_eq
          | error defect => rfl
        rw [hInfo]
        exact hRoom other (List.mem_cons_of_mem _ hOther)

end Dialogue

------------------------------------------------------------
-- Serving a stream
------------------------------------------------------------

namespace Connection

variable {κ : Type}

/- The outcome of a connection is a report unless it was broken. -/
theorem exists_report_iff
    {σ κ β : Type}
    (c : Connection σ κ β) :
    (∃ report, c.outcome = .ok report) ↔ c.broken = none := by
  unfold outcome
  cases c.broken with
  | none => simp
  | some fault => simp

/- A connection ends with the fault that broke it. -/
theorem outcome_of_broken
    {σ κ β : Type}
    {c : Connection σ κ β}
    {fault : Fault}
    (hBroken : c.broken = some fault) :
    c.outcome = .error fault := by
  simp only [outcome, hBroken]

section Serving

variable {σ κ : Type}
variable {limit : Nat}
variable (d : Delegate σ)
variable (words : Diagnosis)
variable (name : Nat → String)
variable {c : Connection σ κ (List UInt8)}
variable {frames pieces : List (List UInt8)}

/-
  What breaks the connection of a stream is the first message
  that is too long.
-/
theorem broken_serveStream
    (hOpen : c.broken = none)
    (hFrames : ∀ frame ∈ frames, Frame.Complete limit frame)
    (hStream : pieces.flatten = frames.flatten) :
    (c.serveStream (framing d words limit name) limit pieces).broken =
      ((Dialogue.of d words name c.issued c.session
        (frames.map (Frame.decode limit))).sent.find?
          fun e => limit < e.toBody.length).map
        fun e => .frameTooLarge e.toBody.length limit := by
  rw [serveStream_frames _ hFrames hStream]
  exact
    (conducted_takeAll d words limit name hFrames hOpen).broken_eq

/- The messages in front of it have left as frames. -/
theorem outgoing_serveStream
    (hOpen : c.broken = none)
    (hFrames : ∀ frame ∈ frames, Frame.Complete limit frame)
    (hStream : pieces.flatten = frames.flatten) :
    (c.serveStream (framing d words limit name) limit pieces).outgoing =
      c.outgoing ++
        ((Dialogue.of d words name c.issued c.session
          (frames.map (Frame.decode limit))).sent.takeWhile
            fun e => e.toBody.length ≤ limit).map
          fun e => Frame.assemble e.toBody := by
  rw [serveStream_frames _ hFrames hStream]
  exact
    (conducted_takeAll d words limit name hFrames hOpen).outgoing_eq

/- If there is none, everything was said, and the session ends. -/
theorem serveStream_of_open
    (hOpen : c.broken = none)
    (hFrames : ∀ frame ∈ frames, Frame.Complete limit frame)
    (hStream : pieces.flatten = frames.flatten)
    (hWell :
      (c.serveStream (framing d words limit name) limit
        pieces).broken = none) :
    let t :=
      Dialogue.of d words name c.issued c.session
        (frames.map (Frame.decode limit))
    let ended := t.session.shutdown d
    let served :=
      c.serveStream (framing d words limit name) limit pieces
    served.session = ended.session ∧
      served.events = c.events ++ t.events ++ ended.events := by
  intro t ended served
  have hServed :
      served =
        (c.takeAll (framing d words limit name)
          (frames.map (Arrival.ofFrame limit))).close
            (framing d words limit name) :=
    serveStream_frames _ hFrames hStream c
  have hConducted :=
    conducted_takeAll d words limit name hFrames hOpen
  have hRun := hWell
  rw [show c.serveStream _ _ _ = served from rfl, hServed] at hRun
  rcases hConducted.ended hRun with ⟨hSession, hEvents⟩
  rw [hServed]
  simp only [close, proceed, hSession, hEvents]
  exact ⟨rfl, rfl⟩

end Serving

/-
  A stream of whole frames, in whatever pieces, is served as a
  dialogue in which every frame has its turn and every message
  that could be read is counted.  The connection ends well
  exactly if all that is said in the dialogue is within the
  limit, the words of the readers of unreadable frames
  included.  If not, what is said in front of the first
  message that is too long has left, and that message is the
  fault with which the connection ends.  If the texts that may
  be repeated leave 236 bytes and room for the version of the
  server, the connection ends well.
-/
theorem serveStream_idle
    {limit : Nat}
    (words : Diagnosis)
    {name : Nat → String}
    {c : Connection Unit κ (List UInt8)}
    {frames pieces : List (List UInt8)}
    (hOpen : c.broken = none)
    (hFrames : ∀ frame ∈ frames, Frame.Complete limit frame)
    (hStream : pieces.flatten = frames.flatten) :
    let results := frames.map (Frame.decode limit)
    let t :=
      Dialogue.of .idle words name c.issued c.session results
    let ended := t.session.shutdown .idle
    let served :=
      c.serveStream (framing .idle words limit name) limit pieces
    t.session.received =
        c.session.received +
          (results.filterMap Except.toOption).length ∧
    served.outgoing =
        c.outgoing ++
          (t.sent.takeWhile fun e => e.toBody.length ≤ limit).map
            (fun e => Frame.assemble e.toBody) ∧
    ((∃ report, served.outcome = .ok report) ↔
      ∀ e ∈ t.sent, e.toBody.length ≤ limit) ∧
    ((∀ e ∈ t.sent, e.toBody.length ≤ limit) →
      served.session = ended.session ∧
        served.events = c.events ++ t.events ++ ended.events) ∧
    (∀ e,
      (t.sent.find? fun e => limit < e.toBody.length) = some e →
        served.outcome =
          .error (.frameTooLarge e.toBody.length limit)) ∧
    ((∀ n, spelledSize (name n) ≤ 36) →
      (∀ result ∈ results,
        Dialogue.repeated words result +
            spelledSize c.session.info.apiVersion + 236 ≤
          limit) →
        ∃ report, served.outcome = .ok report) := by
  intro results t ended served
  have hBroken :
      served.broken =
        (t.sent.find? fun e => limit < e.toBody.length).map
          fun e => .frameTooLarge e.toBody.length limit :=
    broken_serveStream .idle words name hOpen hFrames hStream
  have hEnd :
      (∃ report, served.outcome = .ok report) ↔
        ∀ e ∈ t.sent, e.toBody.length ≤ limit := by
    rw [exists_report_iff, hBroken, Option.map_eq_none_iff,
      List.find?_eq_none]
    simp only [decide_eq_true_eq, Nat.not_lt]
  refine ⟨Dialogue.received_of .idle words name _ _ _,
    outgoing_serveStream .idle words name hOpen hFrames hStream,
    hEnd, ?_, ?_, ?_⟩
  · intro hFits
    exact serveStream_of_open .idle words name hOpen hFrames
      hStream ((exists_report_iff served).mp (hEnd.mpr hFits))
  · intro e hFirst
    rw [hFirst, Option.map_some] at hBroken
    exact outcome_of_broken hBroken
  · intro hName hRoom
    exact hEnd.mpr (Dialogue.length_le_of_roomy hName hRoom)

/- A name as servers make them. -/
def serverName : Nat → String :=
  fun _ => "00000000-0000-4000-8000-000000000000"

/- What the reader of JSON says about an empty body. -/
def earlyEnd : Diagnosis :=
  .constant "EOF while parsing a value at line 1 column 0"

/- A connection of a new session. -/
def newConnection : Connection Unit Nat (List UInt8) :=
  ⟨.new .standard none (), 0, [], [], none⟩

/- A client asks for the mode before the session has begun. -/
def ask (id : String) : Envelope :=
  .fresh id .motionGetMode

/- The frame of a question. -/
def askFrame (id : String) : List UInt8 :=
  Frame.assemble (ask id).toBody

theorem size_serverName (n : Nat) :
    spelledSize (serverName n) = 36 := by
  have hSize : spelledSize (serverName 0) = 36 := by
    decide
  exact hSize

/- A question takes its name and 53 bytes. -/
theorem length_ask (id : String) :
    (ask id).toBody.length = spelledSize id + 53 := by
  have hKind : spelledSize Payload.motionGetMode.kind.name = 15 := by
    decide
  have hBody : Payload.motionGetMode.body.size = 2 := by
    decide
  rw [ask, Envelope.length_fresh, hKind, hBody]

/- Questions with names that leave room for them are asked. -/
theorem complete_askFrame
    {id : String}
    (hShort : spelledSize id ≤ 4043) :
    Frame.Complete 4096 (askFrame id) ∧
      Frame.decode 4096 (askFrame id) = .ok (ask id) := by
  have hLength := length_ask id
  exact Frame.complete_toBody
    (Frame.isFinite_of_no_transform rfl) (by omega) (by omega)

/- A frame without a body. -/
def emptyFrame : List UInt8 :=
  [0, 0, 0, 0, 0]

theorem complete_emptyFrame :
    Frame.Complete 4096 emptyFrame ∧
      Frame.decode 4096 emptyFrame =
        .error (.body .notJson []) := by
  constructor
  · exact ⟨by decide, 0, 1, by decide, by decide, by decide⟩
  · decide +kernel

/-
  A short question is answered and a frame without a body is
  reported, and the connection ends well.
-/
theorem serveStream_idle_short_name :
    Frame.Complete 4096 (askFrame "a") ∧
      Frame.Complete 4096 emptyFrame ∧
      Frame.decode 4096 emptyFrame =
        .error (.body .notJson []) ∧
      ∃ report,
        (newConnection.serveStream
          (framing .idle earlyEnd 4096 serverName) 4096
          [(askFrame "a").take 3,
            (askFrame "a").drop 3 ++ emptyFrame]).outcome =
          .ok report := by
  have hSize : spelledSize "a" = 1 := by
    decide
  rcases complete_askFrame (hSize.trans_le (by decide)) with
    ⟨hAsk, hDecode⟩
  rcases complete_emptyFrame with ⟨hEmpty, hNothing⟩
  have hFrames :
      ∀ frame ∈ [askFrame "a", emptyFrame],
        Frame.Complete 4096 frame :=
    List.forall_mem_cons.mpr
      ⟨hAsk, List.forall_mem_singleton.mpr hEmpty⟩
  refine ⟨hAsk, hEmpty, hNothing, ?_⟩
  apply (serveStream_idle earlyEnd (c := newConnection) rfl
    hFrames (by simp [← List.append_assoc])).2.2.2.2.2
      fun n => (size_serverName n).le
  rw [List.map_cons, List.map_singleton, hDecode, hNothing]
  exact List.forall_mem_cons.mpr
    ⟨by decide, List.forall_mem_singleton.mpr (by decide)⟩

/- A name of 4000 letters. -/
def longName : String :=
  String.ofList (List.replicate 4000 'x')

theorem size_longName : spelledSize longName = 4000 := by
  have hLetters :
      ∀ n,
        spelledSize (String.ofList (List.replicate n 'x')) =
          n := by
    intro n
    rw [spelledSize, String.toList_ofList]
    induction n with
    | zero => rfl
    | succ n ih =>
        rw [List.replicate_succ, List.flatMap_cons,
          Text.weight_append, ih]
        exact Nat.add_comm 1 n
  exact hLetters 4000

/- The question is refused, and the refusal repeats the name. -/
def refusal (id : String) : Envelope :=
  .failure (serverName 1) (some id)
    (Session.Refusal.notActive .motionGetMode
      .offline).toFault.report

theorem exists_sent_ask
    (words : Diagnosis)
    (id : String)
    (results : List (Except Frame.Defect Envelope)) :
    ∃ later,
      (Dialogue.of .idle words serverName 0
        newConnection.session (.ok (ask id) :: results)).sent =
          refusal id :: later :=
  ⟨_, rfl⟩

/- The refusal takes 178 bytes more than the question. -/
theorem length_refusal (id : String) :
    (refusal id).toBody.length = spelledSize id + 231 := by
  have hText :=
    Session.Refusal.textSize_notActive .motionGetMode .offline
  have hKind : spelledSize Kind.motionGetMode.name = 15 := by
    decide
  have hStatus : spelledSize Status.offline.name = 7 := by
    decide
  have hFlag :
      (Tree.bool (Session.Refusal.notActive .motionGetMode
        .offline).toFault.report.isFatal).size = 5 := by
    decide
  rw [Session.Refusal.textSize, hKind, hStatus] at hText
  rw [refusal, Envelope.length_failure, size_serverName, hFlag,
    Option.elim_some]
  omega

/-
  If the question fits and the refusal does not, nothing is
  answered, whatever follows the question.
-/
theorem lost_ask
    (words : Diagnosis)
    {id : String}
    (hShort : spelledSize id ≤ 4043)
    (hLong : 3865 < spelledSize id)
    {frames : List (List UInt8)}
    (hFrames : ∀ frame ∈ frames, Frame.Complete 4096 frame) :
    let run :=
      newConnection.serveStream
        (framing .idle words 4096 serverName) 4096
          (askFrame id :: frames)
    run.outgoing = [] ∧
      run.outcome =
        .error (.frameTooLarge (spelledSize id + 231) 4096) := by
  intro run
  rcases complete_askFrame hShort with ⟨hComplete, hDecode⟩
  have hAll :
      ∀ frame ∈ askFrame id :: frames,
        Frame.Complete 4096 frame :=
    List.forall_mem_cons.mpr ⟨hComplete, hFrames⟩
  rcases exists_sent_ask words id
      (frames.map (Frame.decode 4096)) with
    ⟨later, hSent⟩
  have hResults :
      (Dialogue.of .idle words serverName newConnection.issued
          newConnection.session
          ((askFrame id :: frames).map (Frame.decode 4096))).sent =
        refusal id :: later := by
    rw [List.map_cons, hDecode]
    exact hSent
  have hTooLong : 4096 < (refusal id).toBody.length := by
    rw [length_refusal]
    omega
  constructor
  · have hOutgoing :=
      outgoing_serveStream .idle words serverName
        (c := newConnection) rfl hAll rfl
    rw [hResults, List.takeWhile_cons_of_neg (by
      simpa using hTooLong)] at hOutgoing
    exact hOutgoing
  · have hBroken :=
      broken_serveStream .idle words serverName
        (c := newConnection) rfl hAll rfl
    rw [hResults, List.find?_cons_of_pos (by
      simpa using hTooLong), Option.map_some, length_refusal]
      at hBroken
    exact outcome_of_broken hBroken

/-
  A question with a long name is within the limit, but its
  refusal, which repeats the name, is not: the connection ends
  with a fault although all that arrived was one whole frame.
-/
theorem serveStream_idle_long_name :
    Frame.Complete 4096 (askFrame longName) ∧
      (newConnection.serveStream
          (framing .idle earlyEnd 4096 serverName) 4096
          [askFrame longName]).outcome =
        .error (.frameTooLarge 4231 4096) := by
  have hSize := size_longName
  have hLost :=
    lost_ask earlyEnd (hSize.trans_le (by decide)) (by omega)
      (List.forall_mem_nil (Frame.Complete 4096))
  rw [hSize] at hLost
  exact ⟨(complete_askFrame (hSize.trans_le (by decide))).1,
    hLost.2⟩

end Connection

end CaptureLink
