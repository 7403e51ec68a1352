/-
  A clock that ticks at once and then periodically.  A tick
  that comes late moves the following ticks, unless it is
  late by so little that the schedule can be kept.

  Key definitions include:
    * `Ticker`
    * `Ticker.start`
    * `Ticker.advance`
-/

namespace CaptureLink

/- The time of the next tick, and the time between ticks. -/
structure Ticker where
  period : Nat
  next : Nat
deriving DecidableEq, Repr

namespace Ticker

/- How late a tick may be without moving the schedule. -/
def slack : Nat := 5

/- A clock that ticks now. -/
def start (period now : Nat) : Ticker :=
  ⟨period, now⟩

/- The first time of the schedule that lies ahead. -/
def aheadOf (t : Ticker) (now : Nat) : Nat :=
  t.next + t.period * ((now - t.next) / t.period + 1)

/- Let time pass; the result says whether the clock ticks. -/
def advance
    (t : Ticker)
    (now : Nat) : Ticker × Bool :=
  if now < t.next then
    (t, false)
  else if now - t.next ≤ slack then
    ({ t with next := t.aheadOf now }, true)
  else
    ({ t with next := now + t.period }, true)

end Ticker

end CaptureLink
