import ViewInput.Clock
import ViewInput.Composition.Machine
import ViewInput.Gesture
import ViewInput.Keyboard.Event
import ViewInput.Pointer.Tracker
import ViewInput.SelectionMenu
import ViewInput.Settings.Document
import ViewInput.TextContext
import ViewInput.Touch.Motion
import ViewInput.Wheel.Flow
import ViewInput.Wheel.Event

/-!
# Views

A view brings all parts together.  It is called with an event or a notification, **reads its
surroundings and answers with effects**, in the order in which they are to happen.  Nothing else
passes between it and the world, so that a run of calls is a function of what the surroundings were.
-/

namespace ViewInput

open Page (EventId Target)

/-! ## The world -/

/-- What a view may ask of its surroundings during one call. -/
structure Surroundings where
  target : Target
  pointerLocked : Bool := false
  /-- Something inside the page has the focus. -/
  hasFocusedWidget : Bool := true
  /-- The view is on its way to another window. -/
  beingAdopted : Bool := false
  /-- The selection controller claims the touch batch that it is shown. -/
  claimsTouch : Bool := false
  layout : SelectionLayout
  clipboardHasText : Bool := false
  text : TextSource := {}
deriving DecidableEq

/-- What a view does to the world. -/
inductive Effect where
  /-- An event goes to a frame. -/
  | route (target : Target) (event : Page.Event)
  /-- The selection controller is shown an event that it may claim. -/
  | probe (event : Page.MotionEvent)
  | focus
  | gotFocus
  | lostFocus
  | setActive (active : Bool)
  /-- The first thing that takes focus gets it, or the last. -/
  | setInitialFocus (reverse : Bool)
  /-- A request for the pointer that waited for the focus is decided. -/
  | decidePointerLock
  | unlockPointer
  | setCursorPosition (position : Point)
  | composition (action : Composition.Action)
  | text (signal : TextSignal)
  | menu (action : MenuAction)
  /-- The selection controller is told that a finger was held. -/
  | longPress (position : Point)
  /-- The selection controller is told that a finger tapped. -/
  | tap (position : Point) (count : Nat)
deriving DecidableEq

namespace Effect

/-- The event that an effect carries to the page. -/
def event? : Effect → Option Page.Event
  | .route _ event => some event
  | .probe event => some (.motion event)
  | _ => none

/-- What an effect tells the engine and the input method about a composition. -/
def composition? : Effect → Option Composition.Action
  | .composition action => some action
  | _ => none

end Effect

/-! ## The view -/

structure View where
  settings : Settings := {}
  pointer : Pointer.Tracker := {}
  clock : Clock := {}
  touch : Touch.Tracker := {}
  wheel : Wheel.Flow := {}
  composition : Composition := {}
  context : TextContext := {}
  menu : SelectionMenu := {}
  /-- The editor command that the next key press carries. -/
  pendingCommand : Option EditCommand := none
  /-- The next id for an event that is acknowledged. -/
  nextId : EventId := 1

/-- What comes of a call: the view afterwards, what it did, and an answer. -/
structure Outcome where
  view : View
  effects : List Effect := []
  answer : Except InputError Bool := .ok true

namespace View

/-- A view with settings that are taken as they are. -/
def new (settings : Settings) : View := { settings := settings }

/-- A view with settings that have to be in range. -/
def create (settings : Settings) : Except InputError View :=
  match settings.validated with
  | .ok settings => .ok (new settings)
  | .error e => .error (.settings e)

/-- A view with the settings of a file. -/
def ofFile (contents : Option ByteArray) : Except InputError View :=
  match Settings.ofFile contents with
  | .ok settings => .ok (new settings)
  | .error e => .error (.settings e)

/-- A view with its settings and a fresh start in everything else.  Ids go on counting. -/
def reset (v : View) : View :=
  { settings := v.settings, wheel := v.wheel.reset, nextId := v.nextId }

/-- An event for the frame that receives input. -/
def routed (s : Surroundings) (event : Page.Event) : Effect := .route s.target event

/-- The time of a stamp, on the clock of the view. -/
def readClock (v : View) (now stamp : Nat) : View × Nat :=
  let (clock, time) := v.clock.read now stamp
  ({ v with clock := clock }, time)

/-- A press in the view ends what is being composed. -/
def finishComposition (v : View) : View × List Effect :=
  let (composition, actions) := v.composition.pointerDown v.settings.platform
  ({ v with composition := composition }, actions.map .composition)

end View

end ViewInput
