import ViewInput.Device.Key
import ViewInput.Geometry

/-!
# Events of the device

What the host toolkit delivers, in its own terms: angles of a wheel, batches of touch points,
attributes of an input method.  A timestamp is in milliseconds since some moment; **zero means that
the toolkit did not stamp the event**.
-/

namespace ViewInput.Device

/-! ## Pointers -/

inductive PointerKind where
  | press
  | release
  | move
  /-- A press that the toolkit took for the second of a double click.  Streaks are counted here, so
  it is a press like any other. -/
  | doubleClick
deriving DecidableEq

inductive StylusTip where
  | pen
  | eraser
deriving DecidableEq

structure Stylus where
  pressure : Float32
  tiltX : Int
  tiltY : Int
  rotation : Float32
  tangentialPressure : Float32
  tip : StylusTip
deriving DecidableEq

structure PointerEvent where
  kind : PointerKind
  button : Button
  /-- The buttons held afterwards. -/
  buttons : Buttons
  position : Point
  globalPosition : Point
  modifiers : Modifiers := {}
  timestamp : Nat := 0
  stylus : Option Stylus := none
deriving DecidableEq

/-- The buttons held after an event that reports none: a press holds its own. -/
def PointerKind.defaultButtons (button : Button) : PointerKind → Buttons
  | .press | .doubleClick => button.asSet
  | .release | .move => .none

def PointerKind.isPress : PointerKind → Bool
  | .press | .doubleClick => true
  | .release | .move => false

inductive HoverKind where
  | enter
  | move
  | leave
deriving DecidableEq

/-- Movement without buttons. -/
structure HoverEvent where
  kind : HoverKind
  position : Point
  globalPosition : Point
  modifiers : Modifiers := {}
  timestamp : Nat := 0
deriving DecidableEq

/-! ## Wheels and gestures -/

inductive ScrollPhase where
  /-- A plain wheel, which has no phases. -/
  | none
  | began
  | updated
  | ended
  /-- The scroll goes on after the fingers left. -/
  | momentum
deriving DecidableEq

structure WheelEvent where
  /-- Rotation in eighths of a degree. -/
  angleDelta : Point
  /-- Exact pixels, if the device measures them. -/
  pixelDelta : Option Point := none
  phase : ScrollPhase := .none
  position : Point
  globalPosition : Point
  modifiers : Modifiers := {}
  buttons : Buttons := {}
  timestamp : Nat := 0
deriving DecidableEq

/-- A gesture that the platform recognizes. -/
inductive GestureKind where
  | began
  | ended
  /-- A change of the zoom factor; zero changes nothing. -/
  | zoom (change : Float32)
  /-- Two fingers tap twice. -/
  | smartZoom
  | rotate (angle : Float32)
  | pan
  | swipe
deriving DecidableEq

structure GestureEvent where
  kind : GestureKind
  position : Point
  globalPosition : Point
  modifiers : Modifiers := {}
  timestamp : Nat := 0
deriving DecidableEq

/-! ## Touch -/

inductive TouchKind where
  | began
  | updated
  | ended
  | cancelled
deriving DecidableEq

inductive TouchState where
  | pressed
  | updated
  | stationary
  | released
deriving DecidableEq

structure TouchPoint where
  /-- The finger, by an identity that the toolkit keeps from press to release. -/
  finger : Int
  state : TouchState
  position : Point
  globalPosition : Point
  pressure : Float32 := 1
  /-- The axes of the contact ellipse, in no order. -/
  ellipse : Float32 × Float32 := (0, 0)
deriving DecidableEq

/-- The fingers that the toolkit reports in one event. -/
structure TouchBatch where
  kind : TouchKind
  points : List TouchPoint
  modifiers : Modifiers := {}
  timestamp : Nat := 0
  /-- The batch comes from the windowing system and was not synthesized. -/
  spontaneous : Bool := true
deriving DecidableEq

/-! ## Focus -/

inductive FocusReason where
  | tab
  | backtab
  /-- A popup opened; the view keeps the focus of the page. -/
  | popup
  | mouse
  | other
deriving DecidableEq

structure FocusEvent where
  gained : Bool
  reason : FocusReason
deriving DecidableEq

/-! ## Input methods -/

/-- An attribute of an input method event.  Offsets count characters of the composed text. -/
inductive TextAttribute where
  /-- A part of the composed text is underlined. -/
  | underline (start length : Int32) (color : Option Nat) (thick : Bool)
  /-- The caret stands inside the composed text. -/
  | caret (position : Int32)
  /-- A part of the editor is selected. -/
  | selection (start length : Int32)
deriving DecidableEq

structure InputMethodEvent where
  commit : String := ""
  preedit : String := ""
  attributes : List TextAttribute := []
  /-- Where the replaced text starts; a negative start counts back from the caret. -/
  replacementStart : Int32 := 0
  replacementLength : Int32 := 0
deriving DecidableEq

namespace InputMethodEvent

/-- An event that neither commits, composes nor replaces anything. -/
def isEmpty (e : InputMethodEvent) : Bool :=
  e.commit.isEmpty && e.preedit.isEmpty && e.replacementLength == 0

def hasSelection (e : InputMethodEvent) : Bool :=
  e.attributes.any fun
    | .selection _ _ => true
    | .underline _ _ _ _ | .caret _ => false

end InputMethodEvent

/-! ## All events -/

inductive Event where
  | pointer (event : PointerEvent)
  | key (event : KeyEvent)
  /-- A key press that is offered before it is delivered, so that the page may claim it. -/
  | shortcut (event : KeyEvent)
  | wheel (event : WheelEvent)
  | touch (batch : TouchBatch)
  | gesture (event : GestureEvent)
  | hover (event : HoverEvent)
  | focus (event : FocusEvent)
  | inputMethod (event : InputMethodEvent)
  | leave
deriving DecidableEq

end ViewInput.Device
