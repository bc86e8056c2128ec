import ViewInput.Page.Event

/-!
# Flow control for wheel events

The engine is slow to scroll, so for every frame of the page **at most one wheel event is on its
way**, not counting those that end a scroll.  What comes in the meantime waits in a line, and an
event that is compatible with the last of the line is merged into it.

A lane belongs to a slot of a frame and to its generation.  A frame of a later generation takes the
lane over, and an event for an earlier one goes to the engine as it is.  Generations are counted in
a circle, so that **later means less than half a circle ahead**.
-/

namespace ViewInput.Wheel

open Page (EventId Target WheelEvent)

/-! ## Merging -/

/-- Whether an event may be merged into one that waits. -/
def compatible (waiting next : WheelEvent) : Bool :=
  decide (waiting.phase = next.phase)
    && decide (waiting.momentum = next.momentum)
    && decide (waiting.modifiers = next.modifiers)
    && decide (waiting.precise = next.precise)

/-- Two events in one: the distances add up, the place and the time are those of the later, and the
id is that of the earlier. -/
def merge (waiting next : WheelEvent) : WheelEvent :=
  { waiting with
    delta := ⟨waiting.delta.x + next.delta.x, waiting.delta.y + next.delta.y⟩
    ticks := ⟨waiting.ticks.x + next.ticks.x, waiting.ticks.y + next.ticks.y⟩
    position := next.position
    globalPosition := next.globalPosition
    time := next.time }

/-- A line of waiting events with one more, which is merged into the last if it may be. -/
def enqueue (next : WheelEvent) : List WheelEvent → List WheelEvent
  | [] => [next]
  | [last] => if compatible last next then [merge last next] else [last, next]
  | first :: second :: rest => first :: enqueue next (second :: rest)

/-! ## One lane -/

/-- The wheel events of one frame. -/
structure Lane where
  slot : Nat
  generation : Nat
  /-- The event on its way that the engine has to acknowledge before the next. -/
  inFlight : Option EventId := none
  /-- The last event that ended a scroll; nothing waits for its acknowledgement. -/
  lastEnded : Option EventId := none
  waiting : List WheelEvent := []
deriving DecidableEq

namespace Lane

/-- The frame that the lane belongs to. -/
def target (l : Lane) : Target := .frame l.slot l.generation

/-- The lane once an event was sent. -/
def send (l : Lane) (event : WheelEvent) : Lane :=
  if event.isEnded then { l with lastEnded := some event.id }
  else { l with inFlight := some event.id }

/-- A new event: it is sent or has to wait. -/
def submit (l : Lane) (event : WheelEvent) : Lane × List WheelEvent :=
  match l.inFlight with
  | none => (l.send event, [event])
  | some _ => ({ l with waiting := enqueue event l.waiting }, [])

/-- The lane with the events of a line sent, up to the first that has to be acknowledged.  The rest
of the line waits. -/
def drain (l : Lane) : List WheelEvent → Lane × List WheelEvent
  | [] => ({ l with waiting := [] }, [])
  | event :: rest =>
    if event.isEnded then
      let (l, sent) := (l.send event).drain rest
      (l, event :: sent)
    else ({ l.send event with waiting := rest }, [event])

/-- An acknowledgement, if it is for an event of this lane. -/
def acknowledge? (l : Lane) (id : EventId) : Option (Lane × List WheelEvent) :=
  if l.lastEnded = some id then some ({ l with lastEnded := none }, [])
  else if l.inFlight = some id then some ({ l with inFlight := none }.drain l.waiting)
  else none

end Lane

/-! ## Generations -/

/-- Whether a generation is earlier than another: going on from the other, it is reached after half
of the circle at the soonest. -/
def isEarlier (generation other : Nat) : Bool :=
  decide (0x40000000 ≤ ((generation : Int) - other) % 0x80000000)

/-! ## All lanes -/

/-- The lanes of all frames, at most one for each slot. -/
structure Flow where
  lanes : List Lane := []
deriving DecidableEq

/-- A wheel event on its way to a frame. -/
abbrev Sent := Target × WheelEvent

namespace Flow

/-- The lanes with one set, in the place of the lane of its slot. -/
def put (lane : Lane) : List Lane → List Lane
  | [] => [lane]
  | l :: rest => if l.slot = lane.slot then lane :: rest else l :: put lane rest

/-- The lane of a frame, if it has one. -/
def lane? (f : Flow) : Target → Option Lane
  | .null => none
  | .frame slot generation =>
    f.lanes.find? fun l => decide (l.slot = slot ∧ l.generation = generation)

/-- The lane that takes an event for a frame, new if need be.  There is none for no frame, and none
once the slot belongs to a later frame.  A slot without a lane counts as one of generation zero. -/
def laneFor? (f : Flow) : Target → Option Lane
  | .null => none
  | .frame slot generation =>
    let current := f.lanes.find? fun l => decide (l.slot = slot)
    if isEarlier generation ((current.map (·.generation)).getD 0) then none
    else
      match current.filter fun l => decide (l.generation = generation) with
      | some lane => some lane
      | none => some { slot := slot, generation := generation }

/-- **A new event for a frame**, with what goes to the engine now. -/
def submit (f : Flow) (target : Target) (event : WheelEvent) : Flow × List Sent :=
  match f.laneFor? target with
  | none => (f, [(target, event)])
  | some lane =>
    let (lane, sent) := lane.submit event
    ({ lanes := put lane f.lanes }, sent.map fun e => (target, e))

/-- An acknowledgement to the first lane that waits for it. -/
def acknowledgeIn (id : EventId) : List Lane → Option (List Lane × List Sent)
  | [] => none
  | lane :: rest =>
    match lane.acknowledge? id with
    | some (lane, sent) => some (lane :: rest, sent.map fun e => (lane.target, e))
    | none => (acknowledgeIn id rest).map fun (lanes, sent) => (lane :: lanes, sent)

/-- **An acknowledgement by the engine**, with what goes to the engine now, and whether the event is
one that was waited for. -/
def acknowledge (f : Flow) (id : EventId) : Flow × List Sent × Bool :=
  match acknowledgeIn id f.lanes with
  | some (lanes, sent) => ({ lanes := lanes }, sent, true)
  | none => (f, [], false)

/-- Whether an event to a frame waits for its acknowledgement. -/
def isAwaiting (f : Flow) (target : Target) : Bool :=
  (f.lane? target).any fun l => l.inFlight.isSome

/-- How many events for a frame wait to be sent. -/
def waitingCount (f : Flow) (target : Target) : Nat :=
  ((f.lane? target).map fun l => l.waiting.length).getD 0

/-- The lanes without that of a frame that went away. -/
def forget (f : Flow) : Target → Flow
  | .null => f
  | .frame slot generation =>
    { lanes := f.lanes.filter fun l => !decide (l.slot = slot ∧ l.generation = generation) }

/-- The lanes with a fresh start.  Slot zero is set apart from those that frames take in turn, and
what is in its lane stays. -/
def reset (f : Flow) : Flow := { lanes := f.lanes.filter fun l => decide (l.slot = 0) }

end Flow

end ViewInput.Wheel
