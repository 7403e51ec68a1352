import CaptureLink.Proofs.Connection.Dialogue
import CaptureLink.Proofs.Connection.Naming

/-
  A frame that gives no message is of no consequence for
  anything but its report.  A connection that deals with such
  a frame sends one message more than a connection that does
  not, and from there on the two do the same: the messages of
  the first have the names they have in the second, and the
  report has a name of its own.

  Main statements:
    * `Connection.Interrupted.take`
    * `Connection.Interrupted.takeAll`
    * `Connection.interrupted_close`
    * `Connection.noise_insulated`
    * `Connection.noise_behind_long_name`
-/

namespace CaptureLink

open Json

/- A frame of the peer has arrived. -/
def Arrival.ofPeer
    {κ : Type} :
    Arrival κ → Bool
| .envelope _ => true
| .undecodable _ => true
| _ => false

namespace Connection

variable {σ κ β : Type}

------------------------------------------------------------
-- Two runs
------------------------------------------------------------

/- All names but the one behind the first so many. -/
def omitName
    (count : Nat)
    (name : Nat → String) : Nat → String :=
  fun n => if n ≤ count then name n else name (n + 1)

/-
  The second connection has sent one unit more than the first,
  behind so many messages, and is as the first otherwise.
-/
structure Interrupted
    (count : Nat)
    (earlier : List β)
    (unit : β)
    (c c' : Connection σ κ β) : Prop where
  session_eq : c'.session = c.session
  events_eq : c'.events = c.events
  broken_eq : c'.broken = c.broken
  issued_eq : c'.issued = c.issued + 1
  issued_le : count ≤ c.issued
  outgoing_eq :
    ∃ later,
      c.outgoing = earlier ++ later ∧
        c'.outgoing = earlier ++ unit :: later

namespace Interrupted

variable {count : Nat}
variable {earlier : List β}
variable {unit : β}
variable {setting : Setting σ β}
variable {c c' : Connection σ κ β}

/- To go on in the same way keeps it so. -/
theorem proceed
    (hCut : Interrupted count earlier unit c c')
    (session : Session σ κ)
    (events : List (Session.Event κ)) :
    Interrupted count earlier unit
      (c.proceed session events) (c'.proceed session events) where
  session_eq := rfl
  events_eq := by
    rw [Connection.proceed, Connection.proceed, hCut.events_eq]
  broken_eq := hCut.broken_eq
  issued_eq := hCut.issued_eq
  issued_le := hCut.issued_le
  outgoing_eq := hCut.outgoing_eq

/- To be broken by the same fault keeps it so. -/
theorem brokenBy
    (hCut : Interrupted count earlier unit c c')
    (fault : Fault) :
    Interrupted count earlier unit
      { c with broken := some fault }
      { c' with broken := some fault } where
  session_eq := hCut.session_eq
  events_eq := hCut.events_eq
  broken_eq := rfl
  issued_eq := hCut.issued_eq
  issued_le := hCut.issued_le
  outgoing_eq := hCut.outgoing_eq

/- To send the same message keeps it so. -/
theorem send
    (hCut : Interrupted count earlier unit c c')
    (e : Envelope) :
    Interrupted count earlier unit
      (c.send setting e) (c'.send setting e) := by
  unfold Connection.send
  cases setting.port.carry e with
  | error defect => exact hCut.brokenBy _
  | ok other =>
      rcases hCut.outgoing_eq with ⟨later, hPlain, hNoisy⟩
      exact
        { session_eq := hCut.session_eq
          events_eq := hCut.events_eq
          broken_eq := hCut.broken_eq
          issued_eq := congrArg (· + 1) hCut.issued_eq
          issued_le := hCut.issued_le.trans (Nat.le_succ _)
          outgoing_eq := by
            refine ⟨later ++ [other], ?_, ?_⟩
            · simp only [hPlain, List.append_assoc]
            · simp only [hNoisy, List.append_assoc,
                List.cons_append] }

/- To carry out the same response keeps it so. -/
theorem carryOut
    (hCut : Interrupted count earlier unit c c')
    (r : Response σ κ) :
    Interrupted count earlier unit
      (c.carryOut setting r) (c'.carryOut setting r) := by
  have hOn := hCut.proceed r.session r.events
  unfold Connection.carryOut
  cases r.answer with
  | error fault => exact hOn.brokenBy fault
  | ok answer =>
      cases answer with
      | none => exact hOn
      | some e => exact hOn.send e

/-
  Whatever arrives at both, it stays so, if the messages of
  the first have the names they have in the second.
-/
theorem take
    (hCut : Interrupted count earlier unit c c')
    (arrival : Arrival κ) :
    Interrupted count earlier unit
      (c.take (setting.named (omitName count setting.name))
        arrival)
      (c'.take setting arrival) := by
  by_cases hOpen : c.broken = none
  · have hOpen' : c'.broken = none := hCut.broken_eq.trans hOpen
    have hLater : ¬ c.issued + 1 ≤ count := by
      have hCount := hCut.issued_le
      omega
    have hName :
        c.nextName (setting.named (omitName count setting.name)) =
          c'.nextName setting := by
      rw [nextName, nextName, hCut.issued_eq]
      exact if_neg hLater
    rw [take_of_open arrival hOpen, take_of_open arrival hOpen',
      hName, hCut.session_eq]
    exact hCut.carryOut _
  · have hOpen' : c'.broken ≠ none := by
      rw [hCut.broken_eq]
      exact hOpen
    rw [take_of_broken arrival hOpen,
      take_of_broken arrival hOpen']
    exact hCut

/- So it is with everything that arrives. -/
theorem takeAll
    (hCut : Interrupted count earlier unit c c')
    (arrivals : List (Arrival κ)) :
    Interrupted count earlier unit
      (c.takeAll (setting.named (omitName count setting.name))
        arrivals)
      (c'.takeAll setting arrivals) := by
  induction arrivals generalizing c c' with
  | nil => exact hCut
  | cons arrival arrivals ih =>
      rw [takeAll_cons, takeAll_cons]
      exact ih (hCut.take arrival)

/- And with the end of the connection. -/
theorem close
    (hCut : Interrupted count earlier unit c c')
    (name : Nat → String) :
    Interrupted count earlier unit
      (c.close (setting.named name)) (c'.close setting) := by
  unfold Connection.close
  rw [hCut.session_eq]
  exact hCut.proceed _ _

/- The two end in the same way. -/
theorem outcome_eq
    (hCut : Interrupted count earlier unit c c') :
    c'.outcome = c.outcome := by
  rw [outcome, outcome, hCut.broken_eq, hCut.session_eq]

end Interrupted

------------------------------------------------------------
-- Frames without a message
------------------------------------------------------------

/-
  The report of a frame that gives no message, in the words of
  its reader.
-/
def noiseReport
    (words : Diagnosis)
    (fresh : String)
    (defect : Frame.Defect) : Envelope :=
  let text := (defect.toFault words).message
  .failure fresh none ⟨"MalformedMessageError", text, false⟩

/- A whole frame without a message is reported in this way. -/
theorem respond_noise
    (d : Delegate σ)
    (words : Diagnosis)
    (fresh : String)
    (s : Session σ κ)
    {limit : Nat}
    {noise : List UInt8}
    {defect : Frame.Defect}
    (hWhole : Frame.Complete limit noise)
    (hNoise : Frame.decode limit noise = .error defect) :
    respond d words fresh s (.undecodable defect) =
      ⟨s, [], .ok (some (noiseReport words fresh defect))⟩ := by
  rcases hWhole.defect_cases hNoise with
    ⟨expected, actual, rfl⟩ | ⟨reason, body, rfl⟩
  · rfl
  · cases reason with
    | _ => rfl

/-
  An open connection that deals with such a frame has sent one
  message more, and is as before otherwise.
-/
theorem interrupted_take
    (d : Delegate σ)
    (words : Diagnosis)
    {limit : Nat}
    (name : Nat → String)
    {c : Connection σ κ (List UInt8)}
    {noise : List UInt8}
    {defect : Frame.Defect}
    (hOpen : c.broken = none)
    (hWhole : Frame.Complete limit noise)
    (hNoise : Frame.decode limit noise = .error defect) :
    let setting := framing d words limit name
    let report := noiseReport words (c.nextName setting) defect
    report.toBody.length ≤ limit →
      Interrupted c.issued c.outgoing
        (Frame.assemble report.toBody)
        c
        (c.take setting (.undecodable defect)) := by
  intro setting report hFits
  have hFinite :=
    Frame.isFinite_of_no_transform
      (show report.transform? = none from rfl)
  have hTake :
      c.take setting (.undecodable defect) =
        { c with
          issued := c.issued + 1
          outgoing :=
            c.outgoing ++ [Frame.assemble report.toBody] } := by
    have hRespond :
        respond setting.delegate setting.words
            (c.nextName setting) c.session
            (.undecodable defect) =
          ⟨c.session, [], .ok (some report)⟩ :=
      respond_noise d words (c.nextName setting) c.session
        hWhole hNoise
    rw [take_of_open _ hOpen, hRespond, carryOut]
    simp only [proceed_self, sendSome, setting,
      send_framed c hFinite hFits]
  rw [hTake]
  exact
    { session_eq := rfl
      events_eq := rfl
      broken_eq := rfl
      issued_eq := rfl
      issued_le := Nat.le_refl _
      outgoing_eq := ⟨[], (List.append_nil _).symm, rfl⟩ }

/-
  An open connection that dealt with everything before such a
  frame, and then with the frame and everything after it, is
  at its end as if the frame had not been there.
-/
theorem interrupted_close
    (d : Delegate σ)
    (words : Diagnosis)
    {limit : Nat}
    (name : Nat → String)
    {c : Connection σ κ (List UInt8)}
    {noise : List UInt8}
    {defect : Frame.Defect}
    (before after : List (Arrival κ))
    (hWhole : Frame.Complete limit noise)
    (hNoise : Frame.decode limit noise = .error defect) :
    let setting := framing d words limit name
    let reached := c.takeAll setting before
    let report :=
      noiseReport words (name (reached.issued + 1)) defect
    let setting' := setting.named (omitName reached.issued name)
    reached.broken = none →
      report.toBody.length ≤ limit →
        Interrupted reached.issued reached.outgoing
          (Frame.assemble report.toBody)
          ((c.takeAll setting' (before ++ after)).close setting')
          ((c.takeAll setting
            (before ++ .undecodable defect :: after)).close
              setting) := by
  intro setting reached report setting' hOpen hFits
  have hReached :
      c.takeAll setting' before = reached :=
    takeAll_congr_name before hOpen fun n hLe => if_pos hLe
  have hNow :=
    interrupted_take d words name hOpen hWhole hNoise hFits
  rw [takeAll_append, hReached, takeAll_append, takeAll_cons]
  exact (hNow.takeAll after).close _

/- What the peer sends is what is left when the rest is left out. -/
theorem ofStream_filter
    {limit : Nat}
    {frames pieces : List (List UInt8)}
    {arrivals : List (Arrival κ)}
    (hFrames : ∀ frame ∈ frames, Frame.Complete limit frame)
    (hArrivals :
      arrivals.filter Arrival.ofPeer =
        frames.map (Arrival.ofFrame limit))
    (hStream : pieces.flatten = frames.flatten) :
    Arrival.ofStream limit pieces =
      (arrivals.filter Arrival.ofPeer, none) := by
  rw [Arrival.ofStream_frames hFrames hStream, hArrivals]

/- Such a frame arrives as its defect. -/
theorem ofFrame_noise
    {limit : Nat}
    {noise : List UInt8}
    {defect : Frame.Defect}
    (hNoise : Frame.decode limit noise = .error defect) :
    (.ofFrame limit noise : Arrival κ) = .undecodable defect := by
  simp only [Arrival.ofFrame, hNoise, Arrival.ofResult]

/-
  A stream of whole frames arrives, with ticks of the clock
  and messages of the server's program at any places between
  them, and one of the frames gives no message.  If the
  connection is still open when that frame arrives, and the
  report of the frame, whatever its reader says, is within the
  limit, then everything is as if the frame had not been
  there, with the report in its place among what is sent: the
  session and its counters, what the application was told, the
  other messages, and the end.  A connection that is not open
  does not notice the frame.
-/
theorem noise_insulated
    (d : Delegate σ)
    (words : Diagnosis)
    {limit : Nat}
    (name : Nat → String)
    (c : Connection σ κ (List UInt8))
    {frames₁ frames₂ : List (List UInt8)}
    {noise : List UInt8}
    {defect : Frame.Defect}
    {before after : List (Arrival κ)}
    (hFrames :
      ∀ frame ∈ frames₁ ++ noise :: frames₂,
        Frame.Complete limit frame)
    (hNoise : Frame.decode limit noise = .error defect)
    (hBefore :
      before.filter Arrival.ofPeer =
        frames₁.map (Arrival.ofFrame limit))
    (hAfter :
      after.filter Arrival.ofPeer =
        frames₂.map (Arrival.ofFrame limit)) :
    let setting := framing d words limit name
    let reached := c.takeAll setting before
    let report :=
      noiseReport words (name (reached.issued + 1)) defect
    let noisy :=
      (c.takeAll setting
        (before ++ .undecodable defect :: after)).close setting
    let setting' := setting.named (omitName reached.issued name)
    let plain :=
      (c.takeAll setting' (before ++ after)).close setting'
    (∀ pieces : List (List UInt8),
      pieces.flatten = (frames₁ ++ noise :: frames₂).flatten →
        Arrival.ofStream limit pieces =
          ((before ++ .undecodable defect :: after).filter
            Arrival.ofPeer, none)) ∧
    (∀ pieces : List (List UInt8),
      pieces.flatten = (frames₁ ++ frames₂).flatten →
        Arrival.ofStream limit pieces =
          ((before ++ after).filter Arrival.ofPeer, none)) ∧
    (reached.broken = none →
      report.toBody.length ≤ limit →
        noisy.session = plain.session ∧
          noisy.events = plain.events ∧
          noisy.outcome = plain.outcome ∧
          ∃ later,
            plain.outgoing = reached.outgoing ++ later ∧
              noisy.outgoing =
                reached.outgoing ++
                  Frame.assemble report.toBody :: later) ∧
    (reached.broken ≠ none →
      noisy = (c.takeAll setting (before ++ after)).close setting) ∧
    (before = frames₁.map (Arrival.ofFrame limit) →
      after = frames₂.map (Arrival.ofFrame limit) →
        (∀ pieces : List (List UInt8),
          pieces.flatten = (frames₁ ++ noise :: frames₂).flatten →
            c.serveStream setting limit pieces = noisy) ∧
        ∀ pieces : List (List UInt8),
          pieces.flatten = (frames₁ ++ frames₂).flatten →
            c.serveStream setting' limit pieces = plain) := by
  intro setting reached report noisy setting' plain
  have hWhole : Frame.Complete limit noise :=
    hFrames noise
      (List.mem_append_right _ List.mem_cons_self)
  have hOthers :
      ∀ frame ∈ frames₁ ++ frames₂,
        Frame.Complete limit frame := by
    intro frame hMem
    apply hFrames
    rcases List.mem_append.mp hMem with hMem | hMem
    · exact List.mem_append_left _ hMem
    · exact List.mem_append_right _ (List.mem_cons_of_mem _ hMem)
  have hFrame : (.ofFrame limit noise : Arrival κ) =
      .undecodable defect := ofFrame_noise hNoise
  refine ⟨?_, ?_, ?_, ?_, ?_⟩
  · intro pieces hStream
    apply ofStream_filter hFrames _ hStream
    have hHere :
        Arrival.ofPeer (.undecodable defect : Arrival κ) = true :=
      rfl
    rw [List.filter_append, List.filter_cons_of_pos hHere, hBefore,
      hAfter, List.map_append, List.map_cons, hFrame]
  · intro pieces hStream
    apply ofStream_filter hOthers _ hStream
    rw [List.filter_append, hBefore, hAfter, List.map_append]
  · intro hOpen hFits
    have hCut :=
      interrupted_close d words name before after hWhole hNoise
        hOpen hFits
    exact ⟨hCut.session_eq, hCut.events_eq, hCut.outcome_eq,
      hCut.outgoing_eq⟩
  · intro hBroken
    show (c.takeAll setting _).close setting = _
    rw [takeAll_append, takeAll_append,
      takeAll_of_broken _ hBroken, takeAll_of_broken _ hBroken]
  · intro hOnly₁ hOnly₂
    constructor
    · intro pieces hStream
      rw [serveStream_frames setting hFrames hStream,
        List.map_append, List.map_cons, hFrame, ← hOnly₁,
        ← hOnly₂]
    · intro pieces hStream
      rw [serveStream_frames setting' hOthers hStream,
        List.map_append, ← hOnly₁, ← hOnly₂]

/- An empty body with a wrong checksum. -/
def emptyNoise : List UInt8 :=
  [0, 1, 0, 0, 0]

theorem complete_emptyNoise :
    Frame.Complete 4096 emptyNoise ∧
      Frame.decode 4096 emptyNoise = .error (.checksum 1 0) := by
  constructor
  · exact ⟨by decide, 0, 1, by decide, by decide, by decide⟩
  · decide

/- It is reported within the limit. -/
theorem length_noiseReport
    (words : Diagnosis)
    (n : Nat) :
    (noiseReport words (serverName n)
      (.checksum 1 0)).toBody.length ≤ 4096 := by
  have hCategory : spelledSize "MalformedMessageError" = 21 := by
    decide
  have hMessage :
      spelledSize (Fault.checksumMismatch 1 0).message = 50 := by
    decide
  have hFlag : (Tree.bool false).size = 5 := by
    decide
  rw [noiseReport, Frame.Defect.toFault, Envelope.length_failure,
    size_serverName, hCategory, hMessage, hFlag,
    Option.elim_none]
  decide

/- A short question is answered, so the connection stays open. -/
theorem open_behind_short_name :
    (newConnection.takeAll (framing .idle earlyEnd 4096 serverName)
      [.ofFrame 4096 (askFrame "a")]).broken = none := by
  have hSize : spelledSize "a" = 1 := by
    decide
  rcases complete_askFrame (hSize.trans_le (by decide)) with
    ⟨hAsk, hDecode⟩
  have hSent :
      (Dialogue.of .idle earlyEnd serverName newConnection.issued
          newConnection.session
          ([askFrame "a"].map (Frame.decode 4096))).sent =
        [refusal "a"] := by
    rw [List.map_singleton, hDecode]
    rfl
  have hFits : ¬ 4096 < (refusal "a").toBody.length := by
    rw [length_refusal, hSize]
    decide
  have hBroken :=
    (conducted_takeAll .idle earlyEnd 4096 serverName
      (List.forall_mem_singleton.mpr hAsk)
      (c := newConnection) rfl).broken_eq
  rw [hSent, List.find?_cons_of_neg (by simpa using hFits),
    List.find?_nil, Option.map_none] at hBroken
  exact hBroken

/- Behind a short question, such a frame only adds its report. -/
theorem noise_insulated_short_name :
    (newConnection.takeAll (framing .idle earlyEnd 4096 serverName)
        [.ofFrame 4096 (askFrame "a")]).broken = none ∧
      Frame.decode 4096 emptyNoise = .error (.checksum 1 0) ∧
      ∃ later,
        ((newConnection.takeAll (framing .idle earlyEnd 4096 serverName)
            ([.ofFrame 4096 (askFrame "a")] ++
              .undecodable (.checksum 1 0) :: [.tick 1])).close
          (framing .idle earlyEnd 4096 serverName)).outgoing =
        (newConnection.takeAll (framing .idle earlyEnd 4096 serverName)
            [.ofFrame 4096 (askFrame "a")]).outgoing ++
          Frame.assemble
            (noiseReport earlyEnd
              "00000000-0000-4000-8000-000000000000"
              (.checksum 1 0)).toBody :: later := by
  have hSize : spelledSize "a" = 1 := by
    decide
  rcases complete_askFrame (hSize.trans_le (by decide)) with
    ⟨hAsk, hDecode⟩
  rcases complete_emptyNoise with ⟨hEmpty, hNoise⟩
  have hFrames :
      ∀ frame ∈ [askFrame "a"] ++ emptyNoise :: [],
        Frame.Complete 4096 frame :=
    List.forall_mem_cons.mpr
      ⟨hAsk, List.forall_mem_singleton.mpr hEmpty⟩
  have hBefore :
      [(.ofFrame 4096 (askFrame "a") : Arrival Nat)].filter
          Arrival.ofPeer =
        [askFrame "a"].map (Arrival.ofFrame 4096) := by
    rw [List.map_singleton, Arrival.ofFrame, hDecode]
    rfl
  have hAfter :
      [(.tick 1 : Arrival Nat)].filter Arrival.ofPeer =
        ([] : List (List UInt8)).map (Arrival.ofFrame 4096) :=
    rfl
  have hInsulated :=
    noise_insulated .idle earlyEnd serverName newConnection
      hFrames hNoise hBefore hAfter
  rcases hInsulated.2.2.1 open_behind_short_name
      (length_noiseReport earlyEnd _) with
    ⟨_, _, _, later, _, hOutgoing⟩
  exact ⟨open_behind_short_name, hNoise, later, hOutgoing⟩

/-
  Behind a question with a long name the frame is not
  reported: the connection has ended with the refusal that
  was too long.
-/
theorem noise_behind_long_name :
    Frame.Complete 4096 (askFrame longName) ∧
      Frame.Complete 4096 emptyNoise ∧
      Frame.decode 4096 emptyNoise = .error (.checksum 1 0) ∧
      (∀ n,
        (noiseReport earlyEnd (serverName n)
          (.checksum 1 0)).toBody.length ≤ 4096) ∧
      (newConnection.serveStream
        (framing .idle earlyEnd 4096 serverName) 4096
        [askFrame longName, emptyNoise]).outgoing = [] := by
  have hSize := size_longName
  rcases complete_emptyNoise with ⟨hEmpty, hNoise⟩
  have hLost :=
    lost_ask earlyEnd (hSize.trans_le (by decide)) (by omega)
      (List.forall_mem_singleton.mpr hEmpty)
  exact ⟨(complete_askFrame (hSize.trans_le (by decide))).1,
    hEmpty, hNoise, length_noiseReport earlyEnd, hLost.1⟩

end Connection

end CaptureLink
