import ViewInput.Device.Event
import ViewInput.Page.Event
import ViewInput.Settings.Presentation

/-!
# Wheel events of the page

The angle of a wheel is divided into steps, and a step scrolls some lines of some pixels.  A device
that measures pixels has the last word on the distance, and its events are **precise**.
-/

namespace ViewInput.Wheel

/-- The phase of a scroll, and that of its momentum. -/
def phases : Device.ScrollPhase → Page.WheelPhase × Page.WheelPhase
  | .none => (.none, .none)
  | .began => (.began, .none)
  | .updated => (.changed, .none)
  | .ended => (.ended, .none)
  | .momentum => (.none, .changed)

/-- The pixels that one step scrolls. -/
def pixelsPerStep (settings : Settings) : Float32 :=
  Float32.ofNat settings.wheelScrollLines * settings.scrollStepPixels

/-- The pixels that the device measured, unless there are none. -/
def measured (event : Device.WheelEvent) : Option Point :=
  event.pixelDelta.filter fun d => d.x != 0 || d.y != 0

/-- The wheel event of the page. -/
def wheelEvent (settings : Settings) (event : Device.WheelEvent) (id : Page.EventId) (time : Nat) :
    Page.WheelEvent :=
  let ticks : Point :=
    ⟨event.angleDelta.x / settings.wheelDeltasPerStep,
     event.angleDelta.y / settings.wheelDeltasPerStep⟩
  let step := pixelsPerStep settings
  let (phase, momentum) := phases event.phase
  { delta := (measured event).getD ⟨ticks.x * step, ticks.y * step⟩
    ticks := ticks
    phase := phase
    momentum := momentum
    precise := (measured event).isSome
    position := event.position
    globalPosition := event.globalPosition
    modifiers := settings.pageModifiers event.modifiers event.buttons
    id := id
    time := time }

end ViewInput.Wheel
