import CaptureLink.Proofs.Connection.Response
import CaptureLink.Proofs.Session.Naming

/-
  Connections with other names for their messages.  A
  connection that stays open depends on no names but those of
  the messages that left it.

  Main statements:
    * `Connection.respond_of_unspoken`
    * `Connection.take_congr_name`
    * `Connection.takeAll_congr_name`
-/

namespace CaptureLink

namespace Connection

variable {σ κ β : Type}

/- The same setting with other names. -/
def Setting.named
    (setting : Setting σ β)
    (name : Nat → String) : Setting σ β :=
  { setting with name := name }

/- A response that is no message has no name in it. -/
theorem respond_of_unspoken
    (d : Delegate σ)
    {words : Diagnosis}
    {fresh : String}
    (other : String)
    {s : Session σ κ}
    {arrival : Arrival κ}
    (hUnspoken :
      ∀ e,
        (respond d words fresh s arrival).answer ≠
          .ok (some e)) :
    respond d words other s arrival =
      respond d words fresh s arrival := by
  cases arrival with
  | envelope e =>
      have hSilent : (s.process d fresh e).result = none := by
        cases hResult : (s.process d fresh e).result with
        | none => rfl
        | some reply =>
            exact absurd (congrArg Except.ok hResult)
              (hUnspoken reply)
      simp only [respond, Session.process_of_silent d other hSilent]
  | undecodable defect =>
      cases hRecoverable : defect.recoverable with
      | true =>
          simp only [respond, hRecoverable, if_true] at hUnspoken
          exact absurd rfl (hUnspoken _)
      | false =>
          simp only [respond, hRecoverable]
          rfl
  | sendWithAck now payload label => exact absurd rfl (hUnspoken _)
  | motionInfo => exact absurd rfl (hUnspoken _)
  | tick now => rfl

/-
  An open connection does the same under other names if the
  message that leaves, if any, has the same name.
-/
theorem take_congr_name
    {setting : Setting σ β}
    {name : Nat → String}
    {c : Connection σ κ β}
    {arrival : Arrival κ}
    (hOpen : (c.take setting arrival).broken = none)
    (hName :
      c.issued < (c.take setting arrival).issued →
        name (c.issued + 1) = setting.name (c.issued + 1)) :
    c.take (setting.named name) arrival =
      c.take setting arrival := by
  by_cases hBroken : c.broken = none
  · rw [take_of_open arrival hBroken] at hOpen hName ⊢
    rw [take_of_open arrival hBroken]
    have hSame :
        respond setting.delegate setting.words
            (name (c.issued + 1)) c.session arrival =
          respond setting.delegate setting.words
            (c.nextName setting) c.session arrival := by
      rcases carryOut_open hOpen with
        ⟨e, unit, hAnswer, hCarry⟩ | hSilent
      · rw [carryOut_of_spoken hAnswer hCarry] at hName
        rw [hName (Nat.lt_succ_self _)]
        rfl
      · apply respond_of_unspoken
        intro e hSpoken
        rw [hSilent] at hSpoken
        cases hSpoken
    exact congrArg (c.carryOut setting) hSame
  · rw [take_of_broken arrival hBroken,
      take_of_broken arrival hBroken]

/-
  It does the same with everything that arrives if all the
  messages that leave have the same names.
-/
theorem takeAll_congr_name
    {setting : Setting σ β}
    {name : Nat → String}
    {c : Connection σ κ β}
    (arrivals : List (Arrival κ))
    (hOpen : (c.takeAll setting arrivals).broken = none)
    (hNames :
      ∀ n ≤ (c.takeAll setting arrivals).issued,
        name n = setting.name n) :
    c.takeAll (setting.named name) arrivals =
      c.takeAll setting arrivals := by
  induction arrivals generalizing c with
  | nil => rfl
  | cons arrival arrivals ih =>
      rw [takeAll_cons] at hOpen hNames ⊢
      have hIssued :
          (c.take setting arrival).issued ≤
            ((c.take setting arrival).takeAll setting
              arrivals).issued :=
        issued_le_takeAll setting (c.take setting arrival) arrivals
      have hNow : (c.take setting arrival).broken = none := by
        by_cases hBroken : (c.take setting arrival).broken = none
        · exact hBroken
        · rwa [takeAll_of_broken arrivals hBroken] at hOpen
      have hTake :
          c.take (setting.named name) arrival =
            c.take setting arrival :=
        take_congr_name hNow fun hMore => hNames _ (by omega)
      rw [takeAll_cons, hTake]
      exact ih hOpen hNames

end Connection

end CaptureLink
