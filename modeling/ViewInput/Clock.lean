/-!
# The clock

Toolkits stamp events with milliseconds since a moment of their own.  The first stamp is taken to
mean the present on the clock of the engine, and **later stamps keep their distance from it**.
-/

namespace ViewInput

/-- How two clocks are set against each other. -/
structure Clock where
  /-- The first stamp, and the time at which it came. -/
  anchor : Option (Nat × Nat) := none
deriving DecidableEq

namespace Clock

/-- The time of a stamp that comes at the time `now`.  An event without a stamp happens now, and a
stamp before the first counts as the first. -/
def read (c : Clock) (now stamp : Nat) : Clock × Nat :=
  if stamp = 0 then (c, now)
  else match c.anchor with
    | none => ({ anchor := some (stamp, now) }, now)
    | some (first, start) => (c, start + (stamp - first))

end Clock

end ViewInput
