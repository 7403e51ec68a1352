import CaptureLink.Proofs.Frame.Stability

/-
  A receiver does not see how a stream was cut into pieces.
  To drain it is to take messages out until it answers that
  bytes are missing, or with a defect behind which the stream
  cannot be read on.  What is drained before more bytes
  arrive and what is drained afterwards is together what is
  drained when all the bytes are there.

  Main statements:
    * `Frame.Receiver.drains_drain`
    * `Frame.Receiver.Drains.unique`
    * `Frame.Receiver.Drains.push_halted`
    * `Frame.Receiver.Drains.push_behind`
    * `Frame.Receiver.feed_agrees_drain`
    * `Frame.Receiver.feed_eq_feed_flatten`
-/

namespace CaptureLink

namespace Frame

namespace Receiver

------------------------------------------------------------
-- Draining as a run
------------------------------------------------------------

/- A receiver is asked again and again until it must stop. -/
inductive Drains : Receiver → Harvest → Prop where
/- Bytes are missing. -/
| waits
    {r r' : Receiver}
    (hNext : r.nextEnvelope = (r', .ok none)) :
    Drains r ⟨[], r', none⟩
/- A message, or a frame that gives none, is taken out. -/
| takes
    {r r' : Receiver}
    {result : Except Defect Envelope}
    {h : Harvest}
    (hNext : r.nextEnvelope = (r', result.map some))
    (hReadsOn : ReadsOn result)
    (hRest : Drains r' h) :
    Drains r (h.behind [result])
/- The stream cannot be read on. -/
| halts
    {r r' : Receiver}
    {defect : Defect}
    (hNext : r.nextEnvelope = (r', .error defect))
    (hHalts : defect.recoverable = false) :
    Drains r ⟨[], r', some defect⟩

/- There is no frame to take out. -/
def AtRest (r : Receiver) : Prop :=
  r.nextEnvelope = (r, .ok none)

/- Results come behind those before them. -/
theorem behind_behind
    (h : Harvest)
    (earlier later : List (Except Defect Envelope)) :
    (h.behind later).behind earlier =
      h.behind (earlier ++ later) := by
  simp [Harvest.behind]

------------------------------------------------------------
-- The bound on the frames
------------------------------------------------------------

/- A result that can be read on behind is put before the rest. -/
theorem drainWith_succ_of_readsOn
    {r r' : Receiver}
    {result : Except Defect Envelope}
    (count : Nat)
    (hNext : r.nextEnvelope = (r', result.map some))
    (hReadsOn : ReadsOn result) :
    drainWith (count + 1) r =
      (drainWith count r').behind [result] := by
  cases result with
  | ok e =>
      have hOk : r.nextEnvelope = (r', .ok (some e)) := hNext
      simp only [drainWith, hOk]
  | error defect =>
      have hError : r.nextEnvelope = (r', .error defect) := hNext
      have hRecoverable : defect.recoverable = true := hReadsOn
      simp only [drainWith, hError, hRecoverable, if_true]

/-
  More frames than bytes are never taken out, so a bound
  above the number of bytes is no bound.
-/
theorem drains_drainWith
    (count : Nat)
    {r : Receiver}
    (hLimit : r.limit < 2 ^ 63)
    (hCount : r.buffered < count) :
    Drains r (drainWith count r) := by
  induction count generalizing r with
  | zero => exact absurd hCount (Nat.not_lt_zero _)
  | succ count ih =>
      rcases nextEnvelope_cases hLimit with
        ⟨defect, hHalts, hNext⟩ |
          ⟨r', result, hSame, hFewer, hReadsOn, hNext⟩ | hNext
      · have hHere := nextEnvelope_of_push hNext
        have hDrain :
            drainWith (count + 1) r =
              ⟨[], r, some defect⟩ := by
          simp [drainWith, hHere, hHalts]
        rw [hDrain]
        exact .halts hHere hHalts
      · have hHere := nextEnvelope_of_push hNext
        rw [drainWith_succ_of_readsOn count hHere hReadsOn]
        apply Drains.takes hHere hReadsOn
        apply ih
        · rw [hSame]
          exact hLimit
        · omega
      · have hDrain :
            drainWith (count + 1) r = ⟨[], r, none⟩ := by
          simp only [drainWith, hNext]
        rw [hDrain]
        exact .waits hNext

/- To drain a receiver is to ask it until it must stop. -/
theorem drains_drain
    {r : Receiver}
    (hLimit : r.limit < 2 ^ 63) :
    Drains r r.drain :=
  drains_drainWith _ hLimit (Nat.lt_succ_self _)

------------------------------------------------------------
-- Runs are determined
------------------------------------------------------------

/- There is one run from every receiver. -/
theorem Drains.unique
    {r : Receiver}
    {h k : Harvest}
    (hDrains : Drains r h)
    (hOther : Drains r k) :
    h = k := by
  induction hDrains generalizing k with
  | waits hNext =>
      cases hOther with
      | waits hNext' =>
          rw [hNext] at hNext'
          cases hNext'
          rfl
      | takes hNext' _ _ =>
          rw [hNext] at hNext'
          exact absurd (Prod.mk.inj hNext').2.symm
            (map_some_ne_none _)
      | halts hNext' _ =>
          rw [hNext] at hNext'
          cases hNext'
  | takes hNext hReadsOn _ ih =>
      cases hOther with
      | waits hNext' =>
          rw [hNext] at hNext'
          exact absurd (Prod.mk.inj hNext').2 (map_some_ne_none _)
      | takes hNext' _ hRest' =>
          rw [hNext] at hNext'
          rcases Prod.mk.inj hNext' with ⟨hSame, hResult⟩
          subst hSame
          rw [map_some_injective hResult, ih hRest']
      | halts hNext' hHalts =>
          rw [hNext] at hNext'
          exact absurd (Prod.mk.inj hNext').2
            (not_halts_of_readsOn hReadsOn hHalts)
  | halts hNext hHalts =>
      cases hOther with
      | waits hNext' =>
          rw [hNext] at hNext'
          cases hNext'
      | takes hNext' hReadsOn _ =>
          rw [hNext] at hNext'
          exact absurd (Prod.mk.inj hNext').2.symm
            (not_halts_of_readsOn hReadsOn hHalts)
      | halts hNext' _ =>
          rw [hNext] at hNext'
          cases hNext'
          rfl

------------------------------------------------------------
-- Bytes that arrive later
------------------------------------------------------------

/- A run that was not halted leaves a receiver at rest. -/
theorem Drains.atRest
    {r : Receiver}
    {h : Harvest}
    (hDrains : Drains r h)
    (hLimit : r.limit < 2 ^ 63)
    (hHalted : h.halted = none) :
    AtRest h.receiver ∧ h.receiver.limit = r.limit := by
  induction hDrains with
  | waits hNext =>
      have hSame := eq_of_waits hLimit hNext
      subst hSame
      exact ⟨hNext, rfl⟩
  | takes hNext hReadsOn _ ih =>
      rcases push_of_takes hLimit hNext hReadsOn with
        ⟨hSame, _, _⟩
      rcases ih (by rw [hSame]; exact hLimit) hHalted with
        ⟨hRest, hBehind⟩
      exact ⟨hRest, hBehind.trans hSame⟩
  | halts _ _ => cases hHalted

/- With more bytes, a halted run is halted by the same defect. -/
theorem Drains.push_halted
    {r : Receiver}
    {h : Harvest}
    {defect : Defect}
    (more : List UInt8)
    (hDrains : Drains r h)
    (hLimit : r.limit < 2 ^ 63)
    (hHalted : h.halted = some defect) :
    ∃ r',
      Drains (r.push more) ⟨h.results, r', some defect⟩ := by
  induction hDrains with
  | waits _ => cases hHalted
  | takes hNext hReadsOn _ ih =>
      rcases push_of_takes hLimit hNext hReadsOn with
        ⟨hSame, _, hMore⟩
      rcases ih (by rw [hSame]; exact hLimit) hHalted with
        ⟨r', hRest⟩
      exact ⟨r', .takes (hMore more) hReadsOn hRest⟩
  | halts hNext hHalts =>
      cases hHalted
      exact ⟨_, .halts (push_of_halts hLimit hNext hHalts more)
        hHalts⟩

/-
  A run that was not halted goes on, when more bytes arrive,
  as a run from where it stopped.
-/
theorem Drains.push_behind
    {r : Receiver}
    {h k : Harvest}
    {more : List UInt8}
    (hDrains : Drains r h)
    (hLimit : r.limit < 2 ^ 63)
    (hHalted : h.halted = none)
    (hRest : Drains (h.receiver.push more) k) :
    Drains (r.push more) (k.behind h.results) := by
  induction hDrains with
  | waits hNext =>
      have hSame := eq_of_waits hLimit hNext
      subst hSame
      exact hRest
  | @takes r r' result h hNext hReadsOn _ ih =>
      rcases push_of_takes hLimit hNext hReadsOn with
        ⟨hSame, _, hMore⟩
      have hBehind : Drains (r'.push more) (k.behind h.results) :=
        ih (by rw [hSame]; exact hLimit) hHalted hRest
      have hAll := Drains.takes (hMore more) hReadsOn hBehind
      rw [behind_behind] at hAll
      exact hAll
  | halts _ _ => cases hHalted

------------------------------------------------------------
-- Streams in pieces
------------------------------------------------------------

/-
  Two harvests that nobody can tell apart: once a stream
  cannot be read on, what is left of it does not matter.
-/
def Harvest.Agrees
    (h k : Harvest) : Prop :=
  h.results = k.results ∧
    h.halted = k.halted ∧
    (h.halted = none → h.receiver = k.receiver)

/- Harvests that agree do so behind the same results. -/
theorem Harvest.Agrees.behind
    {h k : Harvest}
    (hAgrees : h.Agrees k)
    (earlier : List (Except Defect Envelope)) :
    (h.behind earlier).Agrees (k.behind earlier) := by
  rcases hAgrees with ⟨hResults, hHalted, hReceiver⟩
  refine ⟨?_, hHalted, hReceiver⟩
  simp only [Harvest.behind, hResults]

/-
  Feeding pieces to a receiver at rest gives what draining it
  gives once all of them are there.
-/
theorem feed_agrees_drain
    (pieces : List (List UInt8))
    {r : Receiver}
    (hLimit : r.limit < 2 ^ 63)
    (hRest : AtRest r) :
    (r.feed pieces).Agrees (r.push pieces.flatten).drain := by
  induction pieces generalizing r with
  | nil =>
      have hDrain : r.drain = ⟨[], r, none⟩ :=
        (drains_drain hLimit).unique (.waits hRest)
      rw [List.flatten_nil, push_nil, hDrain]
      exact ⟨rfl, rfl, fun _ => rfl⟩
  | cons piece pieces ih =>
      have hPushed : (r.push piece).limit < 2 ^ 63 := hLimit
      have hAll :
          ((r.push piece).push pieces.flatten).limit < 2 ^ 63 :=
        hLimit
      have hNow := drains_drain hPushed
      rw [List.flatten_cons, push_append]
      cases hHalted : (r.push piece).drain.halted with
      | some defect =>
          rcases hNow.push_halted pieces.flatten hPushed hHalted
            with ⟨r', hDrains⟩
          rw [(drains_drain hAll).unique hDrains]
          simp only [feed, hHalted]
          refine ⟨rfl, hHalted, fun hNone => ?_⟩
          rw [hHalted] at hNone
          cases hNone
      | none =>
          rcases hNow.atRest hPushed hHalted with
            ⟨hRest', hSame⟩
          have hLimit' :
              (r.push piece).drain.receiver.limit < 2 ^ 63 := by
            rw [hSame]
            exact hPushed
          have hDrains :=
            hNow.push_behind hPushed hHalted
              (drains_drain
                (r := (r.push piece).drain.receiver.push
                  pieces.flatten) hLimit')
          rw [(drains_drain hAll).unique hDrains]
          simp only [feed, hHalted]
          exact (ih hLimit' hRest').behind _

/- A receiver that has seen nothing is at rest. -/
theorem atRest_empty (limit : Nat) : AtRest (empty limit) :=
  rfl

/- Pieces arrive in turn, and the receiver is drained after each. -/
inductive Feeds :
    Receiver → List (List UInt8) → Harvest → Prop where
/- Nothing more arrives. -/
| done
    {r : Receiver} :
    Feeds r [] ⟨[], r, none⟩
/- The stream cannot be read on behind a piece. -/
| halted
    {r : Receiver}
    {piece : List UInt8}
    {pieces : List (List UInt8)}
    {now : Harvest}
    {defect : Defect}
    (hNow : Drains (r.push piece) now)
    (hHalted : now.halted = some defect) :
    Feeds r (piece :: pieces) now
/- The next piece arrives at a drained receiver. -/
| next
    {r : Receiver}
    {piece : List UInt8}
    {pieces : List (List UInt8)}
    {now later : Harvest}
    (hNow : Drains (r.push piece) now)
    (hHalted : now.halted = none)
    (hLater : Feeds now.receiver pieces later) :
    Feeds r (piece :: pieces) (later.behind now.results)

/- Feeding pieces is such a run. -/
theorem feeds_feed
    (pieces : List (List UInt8))
    {r : Receiver}
    (hLimit : r.limit < 2 ^ 63) :
    Feeds r pieces (r.feed pieces) := by
  induction pieces generalizing r with
  | nil => exact .done
  | cons piece pieces ih =>
      have hPushed : (r.push piece).limit < 2 ^ 63 := hLimit
      have hNow := drains_drain hPushed
      cases hHalted : (r.push piece).drain.halted with
      | some defect =>
          simp only [feed, hHalted]
          exact .halted hNow hHalted
      | none =>
          rcases hNow.atRest hPushed hHalted with ⟨_, hSame⟩
          simp only [feed, hHalted]
          apply Feeds.next hNow hHalted
          apply ih
          rw [hSame]
          exact hPushed

/- A stream ends between frames if nothing is left of it. -/
theorem ending_eq_none_iff (r : Receiver) :
    r.ending = none ↔ r.buffer = [] := by
  unfold ending buffered
  by_cases hEmpty : r.buffer = []
  · simp [hEmpty]
  · simp [hEmpty]

/-
  However a stream is cut into pieces, the receiver gives the
  results it gives for the whole stream, and is halted by the
  same defect.  If it is not halted, the same bytes are left,
  and the stream ends with the same fault, or with none.
-/
theorem feed_eq_feed_flatten
    (limit : Nat)
    (hLimit : limit < 2 ^ 63)
    (pieces : List (List UInt8)) :
    let cut := (empty limit).feed pieces
    let whole := (empty limit).feed [pieces.flatten]
    Feeds (empty limit) pieces cut ∧
      Feeds (empty limit) [pieces.flatten] whole ∧
      cut.results = whole.results ∧
      cut.halted = whole.halted ∧
      (cut.halted = none →
        cut.receiver.buffer = whole.receiver.buffer ∧
          cut.receiver.ending = whole.receiver.ending ∧
          (cut.receiver.ending = none ↔
            whole.receiver.buffer = [])) := by
  intro cut whole
  have hCut :
      cut.Agrees ((empty limit).push pieces.flatten).drain :=
    feed_agrees_drain pieces hLimit (atRest_empty limit)
  have hWhole :
      whole.Agrees ((empty limit).push pieces.flatten).drain := by
    have hSingle :=
      feed_agrees_drain [pieces.flatten] hLimit
        (atRest_empty limit)
    rw [List.flatten_singleton] at hSingle
    exact hSingle
  rcases hCut with ⟨hResults, hHalted, hReceiver⟩
  rcases hWhole with ⟨hResults', hHalted', hReceiver'⟩
  have hSame : cut.halted = whole.halted :=
    hHalted.trans hHalted'.symm
  refine ⟨feeds_feed pieces hLimit, feeds_feed _ hLimit,
    hResults.trans hResults'.symm, hSame, fun hNone => ?_⟩
  have hReceivers : cut.receiver = whole.receiver :=
    (hReceiver hNone).trans
      (hReceiver' (hSame.symm.trans hNone)).symm
  rw [hReceivers]
  exact ⟨rfl, rfl, ending_eq_none_iff _⟩

/-
  A frame with a wrong checksum, cut inside its checksum and
  in front of its body, and the start of a length behind it.
-/
theorem feed_eq_feed_flatten_cut_frame :
    (16 : Nat) < 2 ^ 63 ∧
      ((empty 16).feed
          [[1, 0], [], [0, 0, 0], [65, 255]]).results =
        ((empty 16).feed [[1, 0, 0, 0, 0, 65, 255]]).results ∧
      ((empty 16).feed
          [[1, 0, 0, 0, 0, 65, 255]]).results.length =
        1 :=
  ⟨by decide,
    (feed_eq_feed_flatten 16 (by decide)
      [[1, 0], [], [0, 0, 0], [65, 255]]).2.2.1,
    by decide⟩

end Receiver

end Frame

end CaptureLink
