import ViewInput.Device.Event

/-!
# Click streaks

Presses of one button that follow each other closely, in time and in place, form a streak of up to
three.  **Every press is measured against the one before it**, whose position counts rounded; the
press after a third starts a streak of its own.
-/

namespace ViewInput.Pointer

/-- A press that a later one is measured against. -/
structure Press where
  button : Device.Button
  position : Point
  timestamp : Nat
deriving DecidableEq

structure StreakLimits where
  interval : Nat
  distance : Float32

/-- The presses so far, as far as they matter. -/
structure Clicks where
  last : Option Press := none
  /-- The length of the streak that the last press ended. -/
  count : Nat := 0
deriving DecidableEq

namespace Clicks

def maxCount : Nat := 3

/-- Whether a press goes on with the streak of an earlier one. -/
def follows (limits : StreakLimits) (press last : Press) : Bool :=
  decide (last.button = press.button)
    && decide (press.timestamp - last.timestamp ≤ limits.interval)
    && decide (press.position.manhattanDistance last.position ≤ limits.distance)

/-- The presses with one more.  Its count is that of the streak it ends. -/
def press (clicks : Clicks) (limits : StreakLimits) (press : Press) : Clicks :=
  let goesOn := clicks.last.any (follows limits press) && decide (clicks.count < maxCount)
  { last := some { press with position := press.position.rounded }
    count := (if goesOn then clicks.count else 0) + 1 }

end Clicks

end ViewInput.Pointer
