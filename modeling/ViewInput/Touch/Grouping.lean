import ViewInput.Device.Event

/-!
# Touch batches from single fingers

Some windowing systems report one finger at a time.  Between two deliveries their reports are
gathered, and a delivery closes what was gathered into batches that **list every finger that is
down**: the fingers that did not report are stationary.

A finger that goes down and up between two deliveries divides what was gathered, so that its press
and its release stand in two batches.
-/

namespace ViewInput.Touch

open Device (TouchBatch TouchKind TouchPoint TouchState)

/-- What a windowing system reports of one finger. -/
inductive FingerPhase where
  | started
  | moved
  | ended
  | cancelled
deriving DecidableEq

/-- The state of a finger that reports. -/
def FingerPhase.state : FingerPhase → TouchState
  | .started => .pressed
  | .moved => .updated
  | .ended | .cancelled => .released

/-- Reports that make one batch. -/
structure Group where
  points : List TouchPoint := []
  /-- A finger reported that the touch is cancelled. -/
  cancelled : Bool := false
deriving DecidableEq

/-- The fingers that are down, and what was gathered since the last delivery. -/
structure Grouping where
  live : List TouchPoint := []
  closed : List Group := []
  pending : Group := {}
deriving DecidableEq

/-- The points with one set, in its old place if its finger is there already.  A finger that is
pressed and then moves is still pressed. -/
def record (point : TouchPoint) : List TouchPoint → List TouchPoint
  | [] => [point]
  | p :: rest =>
    if p.finger = point.finger then
      (if p.state = .pressed ∧ point.state = .updated then { point with state := .pressed }
        else point) :: rest
    else p :: record point rest

namespace Grouping

/-- A report of one finger. -/
def report (g : Grouping) (finger : Int) (phase : FingerPhase) (position : Point)
    (pressure : Option Float32) : Grouping :=
  let base : TouchPoint :=
    { finger := finger, state := phase.state, position := position, globalPosition := position }
  let point := { base with pressure := pressure.getD base.pressure }
  let pressedHere :=
    g.pending.points.any fun p => decide (p.finger = finger ∧ p.state = .pressed)
  let g :=
    if pressedHere ∧ point.state = .released then
      { g with closed := g.closed ++ [g.pending], pending := {} }
    else g
  { g with
    pending :=
      { points := record point g.pending.points
        cancelled := g.pending.cancelled || decide (phase = .cancelled) } }

/-- The kind of a batch, given whether a finger was down before. -/
def batchKind (hadLive cancelled : Bool) (points : List TouchPoint) : TouchKind :=
  if cancelled then .cancelled
  else if !hadLive then .began
  else if points.all fun p => decide (p.state = .released) then .ended
  else .updated

/-- The fingers that are down but not among some points, as stationary. -/
def carried (live points : List TouchPoint) : List TouchPoint :=
  (live.filter fun l => !points.any fun p => decide (p.finger = l.finger)).map
    fun l => { l with state := .stationary }

/-- The batch of a group, with the fingers that are down afterwards.  There is none without points,
and none that starts a touch without pressing a finger. -/
def close (live : List TouchPoint) (group : Group) (timestamp : Nat) :
    Option TouchBatch × List TouchPoint :=
  let hadLive := !live.isEmpty
  if group.points.isEmpty then (none, live)
  else if !hadLive && !group.cancelled
      && !group.points.any fun p => decide (p.state = .pressed) then (none, live)
  else
    let points := group.points ++ carried live group.points
    let kind := batchKind hadLive group.cancelled points
    let live :=
      if kind = .cancelled then [] else points.filter fun p => decide (p.state ≠ .released)
    (some { kind := kind, points := points, timestamp := timestamp }, live)

/-- The batches of some groups, in order. -/
def closeAll (timestamp : Nat) : List TouchPoint → List Group → List TouchBatch × List TouchPoint
  | live, [] => ([], live)
  | live, group :: groups =>
    let (batch, live) := close live group timestamp
    let (batches, live) := closeAll timestamp live groups
    (batch.toList ++ batches, live)

/-- **A delivery**: all batches since the last. -/
def finish (g : Grouping) (timestamp : Nat) : Grouping × List TouchBatch :=
  let (batches, live) := closeAll timestamp g.live (g.closed ++ [g.pending])
  ({ live := live }, batches)

end Grouping

end ViewInput.Touch
