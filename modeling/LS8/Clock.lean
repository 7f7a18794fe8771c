import LS8.Config.Basic

/-!
# The clock

A paced clock lets ticks happen a period apart.  It never bursts to catch up: a clock that is
more than a period late starts again from the present.  The clock itself only computes how long
to wait, so a run means the same at any pace.
-/

namespace LS8

/-- A clock, with times in microseconds. -/
structure Clock where
  /-- The time from tick to tick, if ticks are paced. -/
  period : Option UInt64
  /-- When the next tick is due, once there has been one. -/
  deadline : Option Nat := none
  deriving DecidableEq, Repr

namespace Clock

/-- The clock that a configuration asks for. -/
def ofConfig (c : Config) : Clock where
  period := if c.paced then some c.tickPeriod else none

/-- How long a tick that is asked for at the time `now` has to wait, and the clock after it. -/
def wait (clock : Clock) (now : Nat) : Nat × Clock :=
  match clock.period with
  | none => (0, clock)
  | some period =>
    let due :=
      match clock.deadline with
      | none => now
      | some deadline => if now ≤ deadline + period.toNat then deadline else now
    (due - now, { clock with deadline := some (due + period.toNat) })

end Clock

end LS8
