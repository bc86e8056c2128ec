import ViewInput.View.Device

/-!
# All calls of a view

Besides the device, the engine calls: it acknowledges events, shows the gestures that it recognized,
and notifies of changes.  **`View.step`** is one call of any kind.
-/

namespace ViewInput.View

open Page (EventId)

/-! ## Notifications of the engine -/

/-- The view with a changed copy of the text, and the signals of the change. -/
def withContext (v : View) (changed : TextContext × List TextSignal) : Outcome :=
  { view := { v with context := changed.1 }, effects := changed.2.map .text }

/-- The view with a changed menu, and what the change does. -/
def withMenu (v : View) (changed : SelectionMenu × List MenuAction) : Outcome :=
  { view := { v with menu := changed.1 }, effects := changed.2.map .menu }

/-- **An acknowledgement.**  Wheel events come first; an id that nobody waits for changes
nothing. -/
def acknowledge (v : View) (id : EventId) : Outcome :=
  let (wheel, sent, known) := v.wheel.acknowledge id
  if known then
    { view := { v with wheel := wheel }
      effects := sent.map fun (target, e) => .route target (.wheel e) }
  else { view := { v with touch := (v.touch.acknowledge id).1 } }

/-- What a gesture of the engine means for the selection. -/
def gestureMeaning (v : View) (s : Surroundings) (gesture : Page.GestureEvent) :
    View × List Effect :=
  match gesture.kind with
  | .longPress => (v, [.longPress gesture.position])
  | .tap count => (v, [.tap gesture.position count])
  | .scrollBegin =>
    let changed := v.withMenu (v.menu.setScrolling true s.layout)
    (changed.view, changed.effects)
  | .scrollEnd =>
    let changed := v.withMenu (v.menu.setScrolling false s.layout)
    (changed.view, changed.effects)
  | _ => (v, [])

/-- A gesture that the engine recognized.  A pinch goes no further if the settings turned it
off. -/
def engineGesture (v : View) (s : Surroundings) (gesture : Page.GestureEvent) : Outcome :=
  if gesture.kind.isPinch ∧ v.settings.pinchToZoom = false then { view := v }
  else
    let (v, effects) := v.gestureMeaning s gesture
    { view := v, effects := effects ++ [routed s (.gesture gesture)] }

/-! ## The menu -/

/-- A request for a context menu; the answer tells whether the touch menu takes its place. -/
def contextMenu (v : View) (s : Surroundings) (request : ContextMenuRequest) : Outcome :=
  let (menu, actions, taken) := v.menu.contextMenu request s.layout
  { view := { v with menu := menu }, effects := actions.map .menu, answer := .ok taken }

/-- Whether a command of the menu applies now. -/
def isCommandEnabled (s : Surroundings) (command : MenuCommand) : Bool :=
  command.isEnabled s.text.kind (!s.text.selectedText.isEmpty) s.clipboardHasText

/-! ## All calls -/

/-- A call of a view. -/
inductive Call where
  | device (event : Device.Event)
  | fieldUpdated
  | boundsChanged
  | textSelected
  | acknowledge (id : EventId)
  | engineGesture (gesture : Page.GestureEvent)
  /-- The page came to rest. -/
  | flingStopped
  | handleEvent (event : HandleEvent)
  | contextMenu (request : ContextMenuRequest)
  | command (command : MenuCommand)
  | openContextMenu
  | reset
deriving DecidableEq

/-- **One call**, at the time `now`. -/
def step (v : View) (s : Surroundings) (now : Nat) : Call → Outcome
  | .device event => v.device s now event
  | .fieldUpdated => v.withContext (v.context.fieldUpdated s.text)
  | .boundsChanged => v.withContext (v.context.boundsChanged s.text)
  | .textSelected => v.withContext (v.context.textSelected s.text)
  | .acknowledge id => v.acknowledge id
  | .engineGesture gesture => v.engineGesture s gesture
  | .flingStopped => v.withMenu (v.menu.setScrolling false s.layout)
  | .handleEvent event => v.withMenu (v.menu.handleEvent event s.layout)
  | .contextMenu request => v.contextMenu s request
  | .command command => { view := v, effects := command.actions.map .menu }
  | .openContextMenu => { view := v, effects := (contextMenuActions s.layout).map .menu }
  | .reset => { view := v.reset }

end ViewInput.View
