import ViewInput.Device.Event
import ViewInput.Page.Event
import ViewInput.Settings.Presentation

/-!
# Touchpad gestures

A page knows two of the gestures that a platform recognizes: the pinch, which begins, zooms and
ends, and the double tap.  The settings may turn the pinch off.
-/

namespace ViewInput.Gesture

/-- What a gesture of the platform does in the page, if anything. -/
def pageKind? (pinchToZoom : Bool) : Device.GestureKind → Option Page.GestureKind
  | .began => if pinchToZoom then some .pinchBegin else none
  | .ended => if pinchToZoom then some .pinchEnd else none
  | .zoom change => if pinchToZoom then some (.pinchUpdate (1 + change)) else none
  | .smartZoom => some .doubleTap
  | .rotate _ | .pan | .swipe => none

/-- The gesture of the page, if it has one. -/
def gestureEvent? (settings : Settings) (event : Device.GestureEvent) (time : Nat) :
    Option Page.GestureEvent :=
  (pageKind? settings.pinchToZoom event.kind).map fun kind =>
    { kind := kind
      source := .touchpad
      position := event.position
      globalPosition := event.globalPosition
      modifiers := settings.pageModifiers event.modifiers .none
      time := time }

end ViewInput.Gesture
