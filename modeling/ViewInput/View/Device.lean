import ViewInput.View.State

/-!
# Events of the device in a view

One function for each kind of event, and **`View.device`** for all of them.  An event counts as
accepted even if nothing comes of it; only the offer of a shortcut can be declined, and only a touch
batch can fail.
-/

namespace ViewInput.View

/-! ## Pointers -/

/-- A pointer event.  While the view is on its way to another window all of them are dropped. -/
def pointerEvent (v : View) (s : Surroundings) (now : Nat) (event : Device.PointerEvent) :
    Outcome :=
  if s.beingAdopted then { view := v }
  else
    let press := event.kind.isPress
    let focus := if press then [Effect.focus] else []
    let (v, time) := v.readClock now event.timestamp
    let (pointer, report) := v.pointer.pointer v.settings event time s.pointerLocked
    let v := { v with pointer := pointer }
    match report with
    | none => { view := v, effects := focus }
    | some t =>
      let cursor := t.resetCursorTo.toList.map Effect.setCursorPosition
      let (v, finished) := if press then v.finishComposition else (v, [])
      { view := v, effects := focus ++ cursor ++ finished ++ [routed s (.mouse t.event)] }

/-- Whether the leaving of a pointer means nothing.  On Windows a drag into a child window is
reported as leaving. -/
def ignoresLeave (v : View) : Bool :=
  decide (v.settings.platform = .windows ∧ v.pointer.held ≠ .none)

/-- A pointer that hovers. -/
def hoverEvent (v : View) (s : Surroundings) (now : Nat) (event : Device.HoverEvent) : Outcome :=
  if event.kind = .leave ∧ v.ignoresLeave then { view := v }
  else
    let (v, time) := v.readClock now event.timestamp
    let mouse := Pointer.hover v.settings event time
    { view := v, effects := mouse.toList.map fun m => routed s (.mouse m) }

/-- The pointer left the view. -/
def leaveEvent (v : View) (s : Surroundings) (now : Nat) : Outcome :=
  if v.ignoresLeave then { view := v }
  else
    let (v, time) := v.readClock now 0
    { view := v, effects := [routed s (.mouse (v.pointer.leave v.settings time))] }

/-! ## Keys -/

/-- Whether a key event frees the pointer. -/
def freesPointer (s : Surroundings) (event : Device.KeyEvent) : Bool :=
  decide (event.kind = .release ∧ event.key = .named .escape) && s.pointerLocked

/-- A key that the composition left alone.  A key that repeats goes up only once, and without a
focus inside the page keys go nowhere. -/
def deliverKey (v : View) (s : Surroundings) (now : Nat) (event : Device.KeyEvent) : Outcome :=
  if event.kind = .release ∧ event.autoRepeat then { view := v }
  else if s.hasFocusedWidget = false then { view := v }
  else
    let (v, command) : View × Option EditCommand :=
      match event.kind with
      | .press => ({ v with pendingCommand := none }, v.pendingCommand)
      | .release => (v, none)
    let (v, time) := v.readClock now event.timestamp
    { view := v
      effects := (Keyboard.keyEvents v.settings event time command).map fun k =>
        routed s (.key k) }

/-- **A key event.**  The composition sees it first. -/
def keyEvent (v : View) (s : Surroundings) (now : Nat) (event : Device.KeyEvent) : Outcome :=
  let freed := if freesPointer s event then [Effect.unlockPointer] else []
  let (composition, actions, verdict) := v.composition.key event
  let v := { v with composition := composition }
  let first := freed ++ actions.map Effect.composition
  match verdict with
  | .swallow => { view := v, effects := first }
  | .deliver =>
    let delivered := v.deliverKey s now event
    { delivered with effects := first ++ delivered.effects }

/-- **The offer of a shortcut.**  It is accepted for an editor command, if the focus takes text, or
on macOS if the command makes sense outside of a field.  The command waits for the key press. -/
def shortcutEvent (v : View) (s : Surroundings) (event : Device.KeyEvent) : Outcome :=
  let platform := v.settings.platform
  let modifiers := v.settings.pageModifiers event.modifiers .none
  let command := EditCommand.forKey platform event.key modifiers
  let outside := decide (platform = .macos) && command.any (·.isClipboardOrSelectAll)
  if s.text.acceptsText || outside then
    match command with
    | some command => { view := { v with pendingCommand := some command }, answer := .ok true }
    | none => { view := v, answer := .ok false }
  else { view := v, answer := .ok false }

/-! ## Wheels and gestures -/

/-- A wheel event.  It takes an id even if it is merged into another. -/
def wheelEvent (v : View) (s : Surroundings) (now : Nat) (event : Device.WheelEvent) : Outcome :=
  let (v, time) := v.readClock now event.timestamp
  let (wheel, sent) := v.wheel.submit s.target (Wheel.wheelEvent v.settings event v.nextId time)
  { view := { v with wheel := wheel, nextId := v.nextId + 1 }
    effects := sent.map fun (target, e) => .route target (.wheel e) }

/-- A gesture on a touchpad. -/
def gestureEvent (v : View) (s : Surroundings) (now : Nat) (event : Device.GestureEvent) :
    Outcome :=
  let (v, time) := v.readClock now event.timestamp
  { view := v
    effects := (Gesture.gestureEvent? v.settings event time).toList.map fun g =>
      routed s (.gesture g) }

/-! ## Touch -/

/-- The menu once a batch went to the page. -/
def menuAfterTouch (v : View) (s : Surroundings) (kind : Device.TouchKind) :
    View × List Effect :=
  let (menu, actions) := match kind with
    | .began => v.menu.touchBegan s.layout
    | .ended | .cancelled => v.menu.touchEnded s.layout
    | .updated => (v.menu, [])
  ({ v with menu := menu }, actions.map .menu)

/-- Whether a batch is left to the gestures of the platform, as it is for a trackpad on macOS. -/
def skipsTouch (v : View) (batch : Device.TouchBatch) : Bool :=
  decide (v.settings.platform = .macos) && batch.spontaneous

/-- **A touch batch.**  A touch that begins takes the focus and ends what is being composed, even if
the batch then fails for want of slots. -/
def touchBatch (v : View) (s : Surroundings) (now : Nat) (batch : Device.TouchBatch) : Outcome :=
  if v.skipsTouch batch then { view := v }
  else
    let (v, first) : View × List Effect :=
      if batch.kind = .began then
        let (v, finished) := v.finishComposition
        (v, .focus :: finished)
      else (v, [])
    let (v, time) := v.readClock now batch.timestamp
    let modifiers := v.settings.pageModifiers batch.modifiers .none
    match v.touch.sequence batch modifiers time s.claimsTouch v.nextId with
    | .error e => { view := v, effects := first, answer := .error e }
    | .ok sequenced =>
      let v := { v with touch := sequenced.tracker, nextId := sequenced.nextId }
      let shown := sequenced.probe.toList.map Effect.probe
      match sequenced.outcome with
      | .ignored | .consumed => { view := v, effects := first ++ shown }
      | .motion events =>
        let (v, menu) := v.menuAfterTouch s batch.kind
        { view := v
          effects := first ++ shown ++ menu ++ events.map fun e => routed s (.motion e) }

/-! ## Focus and input methods -/

/-- Focus gained or lost.  A popup leaves the focus of the page as it is. -/
def focusEvent (v : View) (event : Device.FocusEvent) : Outcome :=
  if event.reason = .popup then { view := v }
  else if event.gained then
    let initial := match event.reason with
      | .tab => [Effect.setInitialFocus false]
      | .backtab => [Effect.setInitialFocus true]
      | _ => []
    { view := v
      effects := [.gotFocus, .setActive true] ++ initial ++ [.decidePointerLock] }
  else
    let (composition, actions) := v.composition.cancel
    { view := { v with composition := composition }
      effects := actions.map .composition ++ [.setActive false, .lostFocus] }

/-- An event of the input method.  Notifications that came before it do not count for what
follows. -/
def inputMethodEvent (v : View) (event : Device.InputMethodEvent) : Outcome :=
  let context := v.context.forgetNotifications
  let (composition, actions) := v.composition.receive event context
  { view := { v with context := context, composition := composition }
    effects := actions.map .composition }

/-! ## All of them -/

/-- **Any event of the device.** -/
def device (v : View) (s : Surroundings) (now : Nat) : Device.Event → Outcome
  | .pointer event => v.pointerEvent s now event
  | .key event => v.keyEvent s now event
  | .shortcut event => v.shortcutEvent s event
  | .wheel event => v.wheelEvent s now event
  | .touch batch => v.touchBatch s now batch
  | .gesture event => v.gestureEvent s now event
  | .hover event => v.hoverEvent s now event
  | .focus event => v.focusEvent event
  | .inputMethod event => v.inputMethodEvent event
  | .leave => v.leaveEvent s now

end ViewInput.View
