import ViewInput.Page.Event
import ViewInput.Touch.Slots

/-!
# Motion events

A batch of touch points becomes a run of motion events: first the fingers that went down, one by
one, then one movement, then the fingers that went up, one by one.  **A finger is named as going
down before anything else names it**, and each event lists the fingers that are down, the one going
down or up among them.

Before that the selection controller may claim the batch.  It is shown a probe, an event with the
first action of the batch and all of its fingers.

The engine acknowledges motion events; those that it has not are remembered, up to a limit.
-/

namespace ViewInput.Touch

open Device (TouchBatch TouchKind TouchState)
open Page (EventId MotionAction MotionEvent)

/-! ## Events without an id -/

/-- A motion event before it has an id. -/
structure Draft where
  action : MotionAction
  index : Option Nat
  contacts : List Contact
deriving DecidableEq

/-- A finger of a motion event.  The larger axis of its contact comes first. -/
def pointer (c : Contact) : Page.MotionPointer :=
  { slot := c.slot
    position := c.point.position
    globalPosition := c.point.globalPosition
    pressure := c.point.pressure
    major := Binary32.larger c.point.ellipse.1 c.point.ellipse.2
    minor := Binary32.smaller c.point.ellipse.1 c.point.ellipse.2 }

/-- A motion event with everything that all events of a batch share. -/
def Draft.event (d : Draft) (modifiers : Page.Modifiers) (time : Nat) (id : EventId) :
    MotionEvent :=
  { action := d.action
    actionIndex := d.index
    pointers := d.contacts.map pointer
    id := id
    modifiers := modifiers
    time := time }

/-- Motion events with ids that count up. -/
def events (modifiers : Page.Modifiers) (time : Nat) : List Draft → EventId → List MotionEvent
  | [], _ => []
  | d :: ds, id => d.event modifiers time id :: events modifiers time ds (id + 1)

/-! ## The order of delivery -/

/-- The fingers in one state. -/
def inState (state : TouchState) (contacts : List Contact) : List Contact :=
  contacts.filter fun c => decide (c.point.state = state)

/-- **The order of delivery**: pressed fingers first, then those that moved, those that did not, and
those released; among equals the order of arrival. -/
def deliveryOrder (contacts : List Contact) : List Contact :=
  inState .pressed contacts ++ inState .updated contacts
    ++ inState .stationary contacts ++ inState .released contacts

/-- Fingers that go down one by one.  Each event lists the ones down so far and everything that is
not pressed.  Only the first finger of a fresh touch is alone in going down. -/
def downs (kind : TouchKind) (contacts : List Contact) : List Draft :=
  let pressed := inState .pressed contacts
  let others := contacts.drop pressed.length
  (List.range pressed.length).map fun i =>
    if kind = .began ∧ i = 0 then ⟨.down, none, pressed.take (i + 1) ++ others⟩
    else ⟨.pointerDown, some i, pressed.take (i + 1) ++ others⟩

/-- A movement of all fingers, if one of them moved. -/
def moves (contacts : List Contact) : List Draft :=
  if contacts.any fun c => decide (c.point.state = .updated) then [⟨.move, none, contacts⟩] else []

/-- Fingers that go up one by one, from the last. -/
def ups (contacts : List Contact) : List Draft :=
  (List.range (inState .released contacts).length).map fun i =>
    let remaining := contacts.take (contacts.length - i)
    if remaining.length = 1 then ⟨.up, none, remaining⟩
    else ⟨.pointerUp, some (remaining.length - 1), remaining⟩

/-- The events of a batch whose fingers are in the order of delivery. -/
def drafts (kind : TouchKind) (contacts : List Contact) : List Draft :=
  match kind with
  | .ended => ups contacts
  | .began | .updated | .cancelled => downs kind contacts ++ moves contacts ++ ups contacts

/-! ## The probe -/

/-- The action of a probe, by the state of the first finger. -/
def probeAction : TouchState → MotionAction
  | .pressed => .down
  | .updated => .move
  | .stationary => .none
  | .released => .up

/-- What is shown to the selection controller.  A cancellation without fingers means those of the
batch before; any other batch without fingers means nothing. -/
def probe? (kind : TouchKind) (contacts previous : List Contact) : Option Draft :=
  match contacts with
  | first :: _ => some ⟨probeAction first.point.state, none, contacts⟩
  | [] => if kind = .cancelled ∧ previous ≠ [] then some ⟨.cancel, none, previous⟩ else none

/-! ## Sequences of batches -/

/-- How many events may wait for the engine to acknowledge them. -/
def maxUnacknowledged : Nat := 128

/-- What is remembered from batch to batch. -/
structure Tracker where
  slots : Slots := {}
  previous : List Contact := []
  /-- Whether the page takes part in the touch that is going on. -/
  started : Bool := false
  /-- The events that the engine has not acknowledged, from the oldest on. -/
  unacknowledged : List EventId := []
deriving DecidableEq

inductive Outcome where
  | ignored
  /-- The selection controller claimed the batch. -/
  | consumed
  | motion (events : List MotionEvent)
deriving DecidableEq

structure Sequenced where
  tracker : Tracker
  probe : Option MotionEvent
  outcome : Outcome
  nextId : EventId

namespace Tracker

/-- The newest of the events that wait. -/
def keepNewest (ids : List EventId) : List EventId := ids.drop (ids.length - maxUnacknowledged)

/-- The tracker after a batch with the given fingers.  Whatever became of it, a batch that ends or
cancels leaves nothing behind. -/
def settle (t : Tracker) (kind : TouchKind) (contacts : List Contact) : Tracker :=
  match kind with
  | .began | .updated => { t with previous := contacts }
  | .ended => { t with previous := [], started := false }
  | .cancelled =>
    { t with
      slots := t.slots.releaseAll (contacts.map (·.point.finger))
      previous := []
      started := false }

/-- **One batch.**  `claimed` is the answer of the selection controller, should it be asked, and
`id` the next id that is free.  The only failure is that the fingers need more slots than there are,
and then nothing changes. -/
def sequence (t : Tracker) (batch : TouchBatch) (modifiers : Page.Modifiers) (time : Nat)
    (claimed : Bool) (id : EventId) : Except InputError Sequenced :=
  match t.slots.bindBatch batch.points with
  | .error e => .error e
  | .ok (bound, slots) =>
    let t := { t with slots := slots }
    let ordered := deliveryOrder bound
    match probe? batch.kind ordered t.previous with
    | none => .ok ⟨t.settle batch.kind ordered, none, .ignored, id⟩
    | some shown =>
      let contacts := shown.contacts
      let probe := shown.event modifiers time id
      if claimed then .ok ⟨t.settle batch.kind contacts, some probe, .consumed, id + 1⟩
      else if batch.kind = .cancelled ∧ t.started = false then
        .ok ⟨t.settle batch.kind contacts, some probe, .ignored, id + 1⟩
      else
        let all : List Draft :=
          if batch.kind = .cancelled then [⟨.cancel, none, contacts⟩]
          else drafts batch.kind contacts
        let out := events modifiers time all (id + 1)
        let t : Tracker :=
          { t with
            started := t.started || decide (batch.kind = .began ∨ batch.kind = .updated)
            unacknowledged := keepNewest (t.unacknowledged ++ out.map (·.id)) }
        .ok ⟨t.settle batch.kind contacts, some probe, .motion out, id + 1 + out.length⟩

/-- The engine acknowledges an event, and with it all older ones.  The answer tells whether the
event was waited for. -/
def acknowledge (t : Tracker) (id : EventId) : Tracker × Bool :=
  if t.unacknowledged.contains id then
    ({ t with unacknowledged := (t.unacknowledged.dropWhile (· != id)).drop 1 }, true)
  else (t, false)

end Tracker

end ViewInput.Touch
