import ViewInput.Device.Key
import ViewInput.Geometry
import ViewInput.Keyboard.EditCommand
import ViewInput.Page.Modifiers

/-!
# Events of the page

What the engine of the page accepts, on every platform.  Two kinds of event, wheel and motion, are
acknowledged by the engine later, and carry **an id that tells them apart**.  Times are on the clock
of the engine, in milliseconds.
-/

namespace ViewInput.Page

/-- The identity of an event that is acknowledged. -/
abbrev EventId := Nat

/-- A frame of the page that receives input.  The slot of a frame that went away is used again, by
a frame of a later generation. -/
inductive Target where
  /-- No frame at all. -/
  | null
  | frame (slot generation : Nat)
deriving DecidableEq

/-! ## Pointers -/

/-- A button as the page knows it. -/
inductive MouseButton where
  | none
  | left
  | right
  | middle
  | back
  | forward
deriving DecidableEq

inductive MouseKind where
  | down
  | up
  | move
  | leave
deriving DecidableEq

inductive PointerType where
  | mouse
  | pen
  | eraser
deriving DecidableEq

structure MouseEvent where
  kind : MouseKind
  button : MouseButton := .none
  /-- The length of the click streak, for presses and releases. -/
  clickCount : Nat := 0
  position : Point
  globalPosition : Point
  /-- The way from the last known position on the screen. -/
  movement : Point := .zero
  isRawMovement : Bool := false
  pointer : PointerType := .mouse
  force : Float32 := 0
  tiltX : Int := 0
  tiltY : Int := 0
  twist : Float32 := 0
  tangentialPressure : Float32 := 0
  modifiers : Modifiers
  time : Nat
deriving DecidableEq

/-! ## Keys -/

inductive KeyKind where
  /-- A key went down; nothing is inserted. -/
  | rawDown
  /-- Text is inserted. -/
  | char
  | up
deriving DecidableEq

/-- The identity of a key in the document object model. -/
inductive DomKey where
  | character (char : Char)
  | named (name : Device.NamedKey)
  | unidentified
deriving DecidableEq

structure KeyEvent where
  kind : KeyKind
  /-- The virtual key code, zero if there is none. -/
  keyCode : Nat
  /-- The key code of the platform. -/
  nativeCode : Nat
  domKey : DomKey
  /-- The name of the physical key, empty if unknown. -/
  domCode : String
  text : String
  unmodifiedText : String
  /-- Only the renderer handles the event, and not the shortcuts of the browser. -/
  skipInBrowser : Bool := false
  /-- The command that came with the press. -/
  command : Option EditCommand := none
  modifiers : Modifiers
  time : Nat
deriving DecidableEq

/-! ## Wheels -/

inductive WheelPhase where
  | none
  | began
  | changed
  | ended
deriving DecidableEq

structure WheelEvent where
  /-- How far to scroll, in pixels. -/
  delta : Point
  /-- How far the wheel turned, in steps. -/
  ticks : Point
  phase : WheelPhase := .none
  momentum : WheelPhase := .none
  /-- The device measures pixels. -/
  precise : Bool := false
  position : Point
  globalPosition : Point
  modifiers : Modifiers := {}
  id : EventId
  time : Nat
deriving DecidableEq

def WheelEvent.isEnded (e : WheelEvent) : Bool :=
  decide (e.phase = .ended) || decide (e.momentum = .ended)

/-! ## Gestures -/

/-- What a gesture does.  The gestures of a touchscreen are recognized by the engine itself, and
shown to the host before they take effect. -/
inductive GestureKind where
  | pinchBegin
  /-- One step of a pinch, by the factor of its zoom. -/
  | pinchUpdate (scale : Float32)
  | pinchEnd
  | doubleTap
  | tapDown
  | tap (count : Nat)
  | longPress
  | longTap
  | scrollBegin
  | scrollUpdate (delta : Point)
  | scrollEnd
  | flingStart (velocity : Point)
  | flingCancel
deriving DecidableEq

def GestureKind.isPinch : GestureKind → Bool
  | .pinchBegin | .pinchUpdate _ | .pinchEnd => true
  | _ => false

inductive GestureSource where
  | touchpad
  | touchscreen
deriving DecidableEq

structure GestureEvent where
  kind : GestureKind
  source : GestureSource
  position : Point
  globalPosition : Point
  modifiers : Modifiers
  time : Nat
deriving DecidableEq

/-! ## Touch -/

inductive MotionAction where
  /-- The first finger goes down. -/
  | down
  /-- A further finger goes down. -/
  | pointerDown
  | move
  /-- A finger goes up while others stay. -/
  | pointerUp
  /-- The last finger goes up. -/
  | up
  | cancel
  | none
deriving DecidableEq

structure MotionPointer where
  /-- The slot of the finger, a small number that it keeps while it is down. -/
  slot : Nat
  position : Point
  globalPosition : Point
  pressure : Float32
  major : Float32
  minor : Float32
deriving DecidableEq

structure MotionEvent where
  action : MotionAction
  /-- Which of the pointers went down or up. -/
  actionIndex : Option Nat
  pointers : List MotionPointer
  id : EventId
  modifiers : Modifiers
  time : Nat
deriving DecidableEq

/-- The pointer that went down or up, where the action names one. -/
def MotionEvent.actionPointer (e : MotionEvent) : Option MotionPointer :=
  e.actionIndex.bind (e.pointers[·]?)

/-! ## All events -/

inductive Event where
  | mouse (event : MouseEvent)
  | key (event : KeyEvent)
  | wheel (event : WheelEvent)
  | gesture (event : GestureEvent)
  | motion (event : MotionEvent)
deriving DecidableEq

def Event.time : Event → Nat
  | .mouse e => e.time
  | .key e => e.time
  | .wheel e => e.time
  | .gesture e => e.time
  | .motion e => e.time

end ViewInput.Page
