import ViewInput.Page.Event
import ViewInput.Pointer.Clicks
import ViewInput.Settings.Presentation

/-!
# Mouse events of the page

A pointer event of the device becomes a mouse event.  What has to be remembered for that is little:
the click streak, the buttons held, and **the anchor**, the last position on the screen that counts.
While the page has the pointer locked the anchor stays, and the host moves its cursor back there.
-/

namespace ViewInput.Pointer

open Device (Button Buttons)

/-! ## Buttons -/

def heldButton (b : Buttons) : Page.MouseButton :=
  if b.left then .left
  else if b.right then .right
  else if b.middle then .middle
  else if b.back then .back
  else if b.forward then .forward
  else .none

/-- The button that a page knows under the same name. -/
def pageButton : Button → Page.MouseButton
  | .left => .left
  | .right => .right
  | .middle => .middle
  | .back => .back
  | .forward => .forward
  | .none | .other _ => .none

/-- The button of an event: the one that changed, or else the first of those held, so that a drag
has a button. -/
def buttonFor (button : Button) (held : Buttons) : Page.MouseButton :=
  match pageButton button with
  | .none => heldButton held
  | b => b

/-! ## State -/

structure Tracker where
  clicks : Clicks := {}
  /-- The last position on the screen that counts. -/
  anchor : Point := .zero
  held : Buttons := {}
deriving DecidableEq

/-- A mouse event, and where the host is to put its cursor back. -/
structure MouseReport where
  event : Page.MouseEvent
  resetCursorTo : Option Point
deriving DecidableEq

/-- What a mouse event says for what a pointer does. -/
def mouseKind : Device.PointerKind → Page.MouseKind
  | .press | .doubleClick => .down
  | .release => .up
  | .move => .move

def streakLimits (settings : Settings) : StreakLimits :=
  ⟨settings.doubleClickInterval, settings.startDragDistance⟩

/-- A mouse event with what a stylus measures. -/
def withStylus (event : Page.MouseEvent) : Option Device.Stylus → Page.MouseEvent
  | none => event
  | some s =>
    { event with
      pointer := match s.tip with
        | .pen => .pen
        | .eraser => .eraser
      force := s.pressure
      tiltX := s.tiltX
      tiltY := s.tiltY
      twist := s.rotation
      tangentialPressure := s.tangentialPressure }

namespace Tracker

/-- Whether the page can represent an event.  It cannot when a button changed that it does not
know. -/
def represents (event : Device.PointerEvent) : Bool :=
  match event.kind with
  | .move => true
  | .press | .release | .doubleClick => decide (pageButton event.button ≠ .none)

/-- **A pointer event.**  The buttons held are noted in any case; the rest only if the page can
represent the event. -/
def pointer (t : Tracker) (settings : Settings) (event : Device.PointerEvent) (time : Nat)
    (locked : Bool) : Tracker × Option MouseReport :=
  let t := { t with held := event.buttons }
  if represents event then
    let kind := mouseKind event.kind
    let clicks :=
      if event.kind.isPress then
        t.clicks.press (streakLimits settings) ⟨event.button, event.position, event.timestamp⟩
      else t.clicks
    let mouse : Page.MouseEvent :=
      { kind := kind
        button := buttonFor event.button event.buttons
        clickCount := if kind = .move then 0 else clicks.count
        position := event.position
        globalPosition := event.globalPosition
        movement := event.globalPosition.deltaFrom t.anchor
        isRawMovement := true
        modifiers := settings.pageModifiers event.modifiers event.buttons
        time := time }
    ({ t with clicks := clicks, anchor := if locked then t.anchor else event.globalPosition },
     some
      { event := withStylus mouse event.stylus
        resetCursorTo := if locked then some t.anchor else none })
  else (t, none)

/-- The pointer left the view, from where it was last. -/
def leave (t : Tracker) (settings : Settings) (time : Nat) : Page.MouseEvent :=
  { kind := .leave
    position := .zero
    globalPosition := t.anchor
    modifiers := settings.pageModifiers .none t.held
    time := time }

end Tracker

/-! ## Hovering -/

/-- The mouse event for a pointer that hovers.  Pages have none for its entering. -/
def hover (settings : Settings) (event : Device.HoverEvent) (time : Nat) : Option Page.MouseEvent :=
  let mouse (kind : Page.MouseKind) : Page.MouseEvent :=
    { kind := kind
      position := event.position
      globalPosition := event.globalPosition
      modifiers := settings.pageModifiers event.modifiers .none
      time := time }
  match event.kind with
  | .enter => none
  | .move => some (mouse .move)
  | .leave => some (mouse .leave)

end ViewInput.Pointer
