import CaptureLink.Proofs.Connection.Dialogue
import CaptureLink.Proofs.Connection.Naming

/-
  A connection does the same over a byte stream as over a
  channel that carries messages as they are.  Both sessions
  go through the same states and tell their applications the
  same; what leaves as a frame on the one side is read back to
  the message that leaves on the other, under another name.

  Main statements:
    * `Connection.renamed`
    * `Connection.Agrees.take`
    * `Connection.Agrees.takeAll`
    * `Connection.agrees_establish`
    * `Connection.transports_agree`
-/

namespace CaptureLink

open Json

namespace Connection

variable {σ κ β : Type}

------------------------------------------------------------
-- Two connections
------------------------------------------------------------

/- A connection whose messages leave as they are. -/
def directly
    (d : Delegate σ)
    (words : Diagnosis)
    (name : Nat → String) : Setting σ Envelope :=
  ⟨d, .direct, words, name⟩

/-
  Messages under the names that another connection has for
  them when it has issued `count` messages before.
-/
def renamed
    (name : Nat → String)
    (count : Nat)
    (messages : List Envelope) : List Envelope :=
  messages.mapIdx fun place e => e.named (name (count + place + 1))

/- A message more has the next name. -/
theorem renamed_append_singleton
    (name : Nat → String)
    (count : Nat)
    (messages : List Envelope)
    (e : Envelope) :
    renamed name count (messages ++ [e]) =
      renamed name count messages ++
        [e.named (name (count + messages.length + 1))] :=
  List.mapIdx_concat

/- Messages that follow do not change the names before. -/
theorem mem_renamed_of_append
    {name : Nat → String}
    {count : Nat}
    {messages : List Envelope}
    (later : List Envelope)
    {e : Envelope}
    (hMem : e ∈ renamed name count messages) :
    e ∈ renamed name count (messages ++ later) := by
  rw [renamed, List.mapIdx_append]
  exact List.mem_append_left _ hMem

/-
  Two responses that are the same, but for the name of the
  message that leaves, which has no transform in it.
-/
structure Response.Renamed
    (other : String)
    (r r' : Response σ κ) : Prop where
  session_eq : r'.session = r.session
  events_eq : r'.events = r.events
  answer_eq :
    r'.answer = r.answer.map (Option.map (·.named other))
  plain : ∀ e, r.answer = .ok (some e) → e.transform? = none

/- A message is dealt with in the same way under another name. -/
theorem renamed_respond_envelope
    (d : Delegate σ)
    (words : Diagnosis)
    (fresh other : String)
    (e : Envelope)
    (s : Session σ κ) :
    Response.Renamed other
      (respond d words fresh s (.envelope e))
      (respond d words other s (.envelope e)) := by
  have hSame := Session.renamed_process d fresh other e s
  exact
    { session_eq := by simp only [respond, hSame]
      events_eq := by simp only [respond, hSame]
      answer_eq := by simp only [respond, hSame]; rfl
      plain := fun reply hReply =>
        Session.transform?_of_process d fresh e s
          (Except.ok.inj hReply) }

/- So is the introduction of a server. -/
theorem renamed_introduce
    (fresh other : String)
    (s : Session σ κ) :
    Response.Renamed other
      (introduce fresh s) (introduce other s) := by
  unfold introduce Session.start
  cases hStatus : s.state.status with
  | offline =>
      refine ⟨rfl, rfl, rfl, ?_⟩
      rintro e ⟨⟩
      rfl
  | _ =>
      refine ⟨rfl, rfl, rfl, ?_⟩
      rintro e ⟨⟩

/-
  A connection over a byte stream and one over a channel, both
  after `count` messages of earlier ones, have come to the
  same, and have sent the same under their own names.
-/
structure Agrees
    (name : Nat → String)
    (count : Nat)
    (framed : Connection σ κ (List UInt8))
    (direct : Connection σ κ Envelope) : Prop where
  session_eq : framed.session = direct.session
  events_eq : framed.events = direct.events
  broken_eq : framed.broken = direct.broken
  issued_eq : framed.issued = direct.issued
  count_eq : direct.issued = count + direct.outgoing.length
  outgoing_eq :
    framed.outgoing =
      (renamed name count direct.outgoing).map
        fun e => Frame.assemble e.toBody

/- All of these messages can leave as frames. -/
def Fits
    (limit : Nat)
    (messages : List Envelope) : Prop :=
  ∀ e ∈ messages, e.toBody.length ≤ limit

namespace Agrees

variable {d : Delegate σ}
variable {words : Diagnosis}
variable {limit count : Nat}
variable {name : Nat → String}
variable {framed : Connection σ κ (List UInt8)}
variable {direct : Connection σ κ Envelope}

/- To go on in the same way keeps it so. -/
theorem proceed
    (hAgrees : Agrees name count framed direct)
    (session : Session σ κ)
    (events : List (Session.Event κ)) :
    Agrees name count
      (framed.proceed session events)
      (direct.proceed session events) where
  session_eq := rfl
  events_eq := by
    rw [Connection.proceed, Connection.proceed, hAgrees.events_eq]
  broken_eq := hAgrees.broken_eq
  issued_eq := hAgrees.issued_eq
  count_eq := hAgrees.count_eq
  outgoing_eq := hAgrees.outgoing_eq

/- So does a message that leaves both under their own names. -/
theorem send
    (name' : Nat → String)
    (hAgrees : Agrees name count framed direct)
    {e : Envelope}
    (hPlain : e.transform? = none)
    (hFits :
      Fits limit
        (renamed name count
          (direct.send (directly d words name') e).outgoing)) :
    Agrees name count
      (framed.send (framing d words limit name)
        (e.named (name (framed.issued + 1))))
      (direct.send (directly d words name') e) := by
  have hName :
      name (framed.issued + 1) =
        name (count + direct.outgoing.length + 1) := by
    rw [hAgrees.issued_eq, hAgrees.count_eq]
  have hDirect :
      direct.send (directly d words name') e =
        { direct with
          issued := direct.issued + 1
          outgoing := direct.outgoing ++ [e] } := rfl
  rw [hDirect] at hFits ⊢
  have hFinite :=
    Frame.isFinite_of_no_transform
      (e := e.named (name (framed.issued + 1))) hPlain
  have hShort :
      (e.named (name (framed.issued + 1))).toBody.length ≤
        limit := by
    apply hFits
    rw [renamed_append_singleton, hName]
    exact List.mem_append_right _ List.mem_cons_self
  rw [send_framed _ hFinite hShort]
  exact
    { session_eq := hAgrees.session_eq
      events_eq := hAgrees.events_eq
      broken_eq := hAgrees.broken_eq
      issued_eq := congrArg (· + 1) hAgrees.issued_eq
      count_eq := by
        simp only [hAgrees.count_eq, List.length_append,
          List.length_singleton, Nat.add_assoc]
      outgoing_eq := by
        rw [renamed_append_singleton, List.map_append, hName,
          ← hAgrees.outgoing_eq]
        rfl }

/-
  So do two responses that are the same but for the name of
  the message that leaves.
-/
theorem carryOut
    (name' : Nat → String)
    (hAgrees : Agrees name count framed direct)
    {r r' : Response σ κ}
    (hSame : Response.Renamed (name (framed.issued + 1)) r r')
    (hFits :
      Fits limit
        (renamed name count
          (direct.carryOut (directly d words name') r).outgoing)) :
    Agrees name count
      (framed.carryOut (framing d words limit name) r')
      (direct.carryOut (directly d words name') r) := by
  have hOn := hAgrees.proceed r.session r.events
  unfold Connection.carryOut at hFits ⊢
  rw [hSame.session_eq, hSame.events_eq, hSame.answer_eq]
  cases hAnswer : r.answer with
  | error fault =>
      exact
        { session_eq := hOn.session_eq
          events_eq := hOn.events_eq
          broken_eq := rfl
          issued_eq := hOn.issued_eq
          count_eq := hOn.count_eq
          outgoing_eq := hOn.outgoing_eq }
  | ok answer =>
      rw [hAnswer] at hFits
      cases answer with
      | none => exact hOn
      | some e =>
          exact hOn.send name' (hSame.plain e hAnswer) hFits

/- A message that both receive keeps it so, if its answer fits. -/
theorem take
    (name' : Nat → String)
    (hAgrees : Agrees name count framed direct)
    (e : Envelope)
    (hFits :
      Fits limit
        (renamed name count
          (direct.take (directly d words name')
            (.envelope e)).outgoing)) :
    Agrees name count
      (framed.take (framing d words limit name) (.envelope e))
      (direct.take (directly d words name') (.envelope e)) := by
  by_cases hOpen : direct.broken = none
  · have hOpen' : framed.broken = none :=
      hAgrees.broken_eq.trans hOpen
    rw [take_of_open _ hOpen] at hFits ⊢
    rw [take_of_open _ hOpen', hAgrees.session_eq]
    exact hAgrees.carryOut name'
      (renamed_respond_envelope d words _ _ e direct.session)
      hFits
  · have hOpen' : framed.broken ≠ none := by
      rw [hAgrees.broken_eq]
      exact hOpen
    rw [take_of_broken _ hOpen, take_of_broken _ hOpen']
    exact hAgrees

/- So does everything that both receive, if all answers fit. -/
theorem takeAll
    (name' : Nat → String)
    (messages : List Envelope)
    (hAgrees : Agrees name count framed direct)
    (hFits :
      Fits limit
        (renamed name count
          (direct.takeAll (directly d words name')
            (messages.map .envelope)).outgoing)) :
    Agrees name count
      (framed.takeAll (framing d words limit name)
        (messages.map .envelope))
      (direct.takeAll (directly d words name')
        (messages.map .envelope)) := by
  induction messages generalizing framed direct with
  | nil => exact hAgrees
  | cons e messages ih =>
      rw [List.map_cons, takeAll_cons] at hFits ⊢
      rw [takeAll_cons]
      refine ih (hAgrees.take name' e ?_) hFits
      rcases exists_outgoing_takeAll (directly d words name')
          (direct.take (directly d words name') (.envelope e))
          (messages.map .envelope) with
        ⟨later, hLater⟩
      intro m hMem
      apply hFits
      rw [hLater]
      exact mem_renamed_of_append later hMem

/- The end of both keeps it so as well. -/
theorem close
    (name' : Nat → String)
    (hAgrees : Agrees name count framed direct) :
    Agrees name count
      (framed.close (framing d words limit name))
      (direct.close (directly d words name')) := by
  unfold Connection.close
  rw [hAgrees.session_eq]
  exact hAgrees.proceed _ _

/- Both end in the same way. -/
theorem outcome_eq
    (hAgrees : Agrees name count framed direct) :
    framed.outcome = direct.outcome := by
  rw [outcome, outcome, hAgrees.broken_eq, hAgrees.session_eq]

end Agrees

------------------------------------------------------------
-- Whole runs
------------------------------------------------------------

/- Both begin in the same way, if the introduction fits. -/
theorem agrees_establish
    (d : Delegate σ)
    (words : Diagnosis)
    (limit : Nat)
    (name name' : Nat → String)
    (initiate : Bool)
    (count : Nat)
    (s : Session σ κ)
    (hFits :
      Fits limit
        (renamed name count
          (establish (directly d words name') initiate count
            s).outgoing)) :
    Agrees name count
      (establish (framing d words limit name) initiate count s)
      (establish (directly d words name') initiate count s) := by
  have hOpened :
      Agrees name count
        (opened count s : Connection σ κ (List UInt8))
        (opened count s) :=
    ⟨rfl, rfl, rfl, rfl, rfl, rfl⟩
  cases initiate with
  | false => exact hOpened
  | true =>
      rw [establish_initiated] at hFits ⊢
      rw [establish_initiated]
      exact hOpened.carryOut name' (renamed_introduce _ _ s) hFits

/-
  A client sends messages that have frames, and the frames
  arrive in whatever pieces.  If every message of the server
  has a frame as well, the connection over the byte stream
  ends as the connection over a channel does that receives the
  messages themselves: the session with its counters, what the
  application was told, and the outcome are the same, and the
  frames that leave are the frames of the messages of the
  other connection, under the names that they have here, and
  are read back to these.
-/
theorem transports_agree
    (d : Delegate σ)
    (words : Diagnosis)
    (name name' : Nat → String)
    (initiate : Bool)
    (count : Nat)
    (s : Session σ κ)
    {limit : Nat}
    {messages : List Envelope}
    {frames pieces : List (List UInt8)}
    (hFrames :
      messages.map (Frame.encode limit) = frames.map .ok)
    (hMemory : ∀ frame ∈ frames, frame.length < 2 ^ 63)
    (hStream : pieces.flatten = frames.flatten) :
    let framed :=
      (establish (framing d words limit name) initiate count
        s).serveStream (framing d words limit name) limit pieces
    let direct :=
      ((establish (directly d words name') initiate count s).takeAll
        (directly d words name') (messages.map .envelope)).close
          (directly d words name')
    let replies := renamed name count direct.outgoing
    (∀ e ∈ replies,
      ∃ frame,
        Frame.encode limit e = .ok frame ∧
          frame.length < 2 ^ 63) →
      framed.session = direct.session ∧
        framed.events = direct.events ∧
        framed.outcome = direct.outcome ∧
        replies.map (Frame.encode limit) =
          framed.outgoing.map .ok ∧
        framed.outgoing.map (Frame.decode limit) =
          replies.map .ok := by
  intro framed direct replies hReplies
  rcases Frame.complete_of_encode_all hFrames hMemory with
    ⟨hComplete, hDecode⟩
  have hArrivals :
      frames.map (Arrival.ofFrame (κ := κ) limit) =
        messages.map .envelope := by
    have hResults :=
      congrArg (List.map (Arrival.ofResult (κ := κ))) hDecode
    rw [List.map_map, List.map_map] at hResults
    exact hResults
  have hFramed :
      framed =
        ((establish (framing d words limit name) initiate count
          s).takeAll (framing d words limit name)
            (messages.map .envelope)).close
              (framing d words limit name) := by
    rw [← hArrivals]
    exact serveStream_frames _ hComplete hStream _
  have hFits : Fits limit replies := by
    intro e hMem
    rcases hReplies e hMem with ⟨frame, hEncode, _⟩
    exact ((Frame.encode_eq_ok_iff limit e frame).mp hEncode).2.1
  have hBegin :=
    agrees_establish d words limit name name' initiate count s
      fun e hMem => by
        rcases exists_outgoing_takeAll (directly d words name')
            (establish (directly d words name') initiate count s)
            (messages.map .envelope) with
          ⟨later, hLater⟩
        apply hFits
        show e ∈ renamed name count (takeAll _ _ _).outgoing
        rw [hLater]
        exact mem_renamed_of_append later hMem
  have hAgrees : Agrees name count framed direct := by
    rw [hFramed]
    exact (hBegin.takeAll name' messages hFits).close name'
  have hEncodes :
      replies.map (Frame.encode limit) =
        framed.outgoing.map .ok := by
    rw [hAgrees.outgoing_eq, List.map_map]
    apply List.map_congr_left
    intro e hMem
    rcases hReplies e hMem with ⟨frame, hEncode, _⟩
    rw [hEncode,
      ((Frame.encode_eq_ok_iff limit e frame).mp hEncode).2.2]
    rfl
  refine ⟨hAgrees.session_eq, hAgrees.events_eq,
    hAgrees.outcome_eq, hEncodes,
    (Frame.complete_of_encode_all hEncodes ?_).2⟩
  intro frame hMem
  rw [hAgrees.outgoing_eq] at hMem
  rcases List.mem_map.mp hMem with ⟨e, hReply, rfl⟩
  rcases hReplies e hReply with ⟨frame, hEncode, hSmall⟩
  rw [((Frame.encode_eq_ok_iff limit e frame).mp hEncode).2.2]
    at hSmall
  exact hSmall

/-
  A client asks twice and is refused twice, the second time in
  a stream that is cut within the first question.
-/
theorem transports_agree_two_questions :
    [ask "a", ask "b"].map (Frame.encode 4096) =
        [askFrame "a", askFrame "b"].map .ok ∧
      (newConnection.serveStream
          (framing .idle earlyEnd 4096 serverName) 4096
          [(askFrame "a").take 7,
            (askFrame "a").drop 7 ++
              askFrame "b"]).outgoing.map (Frame.decode 4096) =
        [.ok (refusal "a"), .ok (refusal "b")] := by
  have hQuestion :
      ∀ id, spelledSize id = 1 →
        Frame.encode 4096 (ask id) = .ok (askFrame id) ∧
          (askFrame id).length < 2 ^ 63 := by
    intro id hSize
    have hLength := length_ask id
    exact Frame.encode_toBody
      (Frame.isFinite_of_no_transform rfl) (by omega) (by omega)
  have hRefusal :
      ∀ id, spelledSize id = 1 →
        Frame.encode 4096 (refusal id) =
            .ok (Frame.assemble (refusal id).toBody) ∧
          (Frame.assemble (refusal id).toBody).length < 2 ^ 63 := by
    intro id hSize
    have hLength := length_refusal id
    exact Frame.encode_toBody
      (Frame.isFinite_of_no_transform rfl) (by omega) (by omega)
  have hFirst := hQuestion "a" (by decide)
  have hSecond := hQuestion "b" (by decide)
  have hFrames :
      [ask "a", ask "b"].map (Frame.encode 4096) =
        [askFrame "a", askFrame "b"].map .ok := by
    simp only [List.map_cons, List.map_nil, hFirst.1, hSecond.1]
  refine ⟨hFrames, ?_⟩
  refine (transports_agree .idle earlyEnd serverName serverName
    false 0 newConnection.session hFrames ?_ ?_ ?_).2.2.2.2
  · exact List.forall_mem_cons.mpr
      ⟨hFirst.2, List.forall_mem_singleton.mpr hSecond.2⟩
  · rw [List.flatten_cons, List.flatten_cons, List.flatten_nil,
      List.append_nil, ← List.append_assoc, List.take_append_drop,
      List.flatten_cons, List.flatten_cons, List.flatten_nil,
      List.append_nil]
  · refine List.forall_mem_cons.mpr
      ⟨⟨_, hRefusal "a" (by decide)⟩,
        List.forall_mem_singleton.mpr
          ⟨_, hRefusal "b" (by decide)⟩⟩

end Connection

end CaptureLink
