import ViewInput.Keyboard.Code
import ViewInput.Page.Event
import ViewInput.Settings.Presentation

/-!
# Key events of the page

A key of the device becomes one event going down or up.  A press that inserts text becomes two: a
raw one, which the browser leaves alone, and one that inserts.  So **a press inserts its text
once**, and a press with an editor command inserts none.
-/

namespace ViewInput.Keyboard

open Device (Key NamedKey KeyLocation)

/-! ## Text and identity -/

/-- Whether a character is one of the control characters, of either range. -/
def isControl (c : Char) : Bool :=
  c.toNat < 0x20 || (0x7F ≤ c.toNat && c.toNat < 0xA0)

/-- The text that a key inserts: a carriage return for the Enter key, nothing for a lone control
character, and else what the key event says. -/
def insertedText (key : Key) (text : String) : String :=
  if key = .named .enter then "\r"
  else match text.toList with
    | [c] => if isControl c then "" else text
    | _ => text

/-- The identity of a key in the document object model.  For a key with a character it is the one
character of the text, if there is just one. -/
def domKey (key : Key) (text : String) : Page.DomKey :=
  match key with
  | .named .unidentified => .unidentified
  | .named .space => .character ' '
  | .named name => .named name
  | .character c =>
    match text.toList with
    | [t] => .character t
    | _ => .character c

/-- The flags of a key event, with what its place on the keyboard and its repetition add. -/
def flags (settings : Settings) (event : Device.KeyEvent) (keypad : Bool) : Page.Modifiers :=
  let base := settings.pageModifiers event.modifiers .none
  { base with
    keypad := base.keypad || keypad
    autoRepeat := event.autoRepeat
    left := decide (event.location = .left)
    right := decide (event.location = .right) }

/-! ## Events -/

/-- Whether the key sits on the numeric keypad. -/
def onKeypad (event : Device.KeyEvent) : Bool :=
  event.modifiers.keypad || decide (event.location = .numpad)

/-- The single event for a key going down or up. -/
def keyEvent (settings : Settings) (event : Device.KeyEvent) (time : Nat) : Page.KeyEvent :=
  let key := settings.presentKey event.key
  let keypad := onKeypad event
  let text := insertedText key event.text
  { kind := match event.kind with
      | .press => .rawDown
      | .release => .up
    keyCode := virtualCode key keypad
    nativeCode := event.virtualKey
    domKey := domKey key text
    domCode := domCode key event.location keypad
    text := text
    unmodifiedText := text
    modifiers := flags settings event keypad
    time := time }

/-- **The events for a key**, in order, with the editor command that its press carries. -/
def keyEvents (settings : Settings) (event : Device.KeyEvent) (time : Nat)
    (command : Option EditCommand) : List Page.KeyEvent :=
  let raw := keyEvent settings event time
  match event.kind, command with
  | .release, _ => [raw]
  | .press, some command => [{ raw with command := some command }]
  | .press, none =>
    if raw.text.isEmpty then [raw]
    else [{ raw with skipInBrowser := true }, { raw with kind := .char }]

end ViewInput.Keyboard
