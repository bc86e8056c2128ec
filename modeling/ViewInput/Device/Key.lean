import ViewInput.Device.Modifiers

/-!
# Keys of the device

A key has a character or a name.  The key without identity (`Key.none`) comes with text that an
input method composed.
-/

namespace ViewInput.Device

/-- Keys without a printable character. -/
inductive NamedKey where
  | backspace
  | tab
  /-- Shift and Tab, as some toolkits report them. -/
  | backtab
  | clear
  | enter
  | shift
  | control
  | alt
  /-- Meta, Command or Super. -/
  | metaKey
  | altGraph
  | pause
  | capsLock
  | escape
  | space
  | pageUp
  | pageDown
  | «end»
  | home
  | arrowLeft
  | arrowUp
  | arrowRight
  | arrowDown
  | printScreen
  | insert
  | delete
  | help
  | contextMenu
  | numLock
  | scrollLock
  /-- A function key, by its number. -/
  | function (number : Nat)
  | unidentified
deriving DecidableEq

namespace NamedKey

/-- The greatest number of a function key. -/
def maxFunction : Nat := 255

/-- The keys with a name, the function keys among them. -/
def all : List NamedKey :=
  [.backspace, .tab, .backtab, .clear, .enter, .shift, .control, .alt, .metaKey, .altGraph, .pause,
   .capsLock, .escape, .space, .pageUp, .pageDown, .end, .home, .arrowLeft, .arrowUp, .arrowRight,
   .arrowDown, .printScreen, .insert, .delete, .help, .contextMenu, .numLock, .scrollLock,
   .unidentified] ++ (List.range (maxFunction + 1)).map .function

/-- The name of a key, as the document object model has it. -/
def name : NamedKey → String
  | .backspace => "Backspace"
  | .tab => "Tab"
  | .backtab => "Backtab"
  | .clear => "Clear"
  | .enter => "Enter"
  | .shift => "Shift"
  | .control => "Control"
  | .alt => "Alt"
  | .metaKey => "Meta"
  | .altGraph => "AltGraph"
  | .pause => "Pause"
  | .capsLock => "CapsLock"
  | .escape => "Escape"
  | .space => "Space"
  | .pageUp => "PageUp"
  | .pageDown => "PageDown"
  | .end => "End"
  | .home => "Home"
  | .arrowLeft => "ArrowLeft"
  | .arrowUp => "ArrowUp"
  | .arrowRight => "ArrowRight"
  | .arrowDown => "ArrowDown"
  | .printScreen => "PrintScreen"
  | .insert => "Insert"
  | .delete => "Delete"
  | .help => "Help"
  | .contextMenu => "ContextMenu"
  | .numLock => "NumLock"
  | .scrollLock => "ScrollLock"
  | .function n => "F" ++ toString n
  | .unidentified => "Unidentified"

/-- The key of a name. -/
def ofName? (name : String) : Option NamedKey := all.find? (·.name == name)

end NamedKey

/-- What a key stands for in the current layout. -/
inductive Key where
  | named (name : NamedKey)
  | character (char : Char)
deriving DecidableEq

namespace Key

/-- The key without identity. -/
def none : Key := .named .unidentified

instance : Inhabited Key := ⟨none⟩

/-- Whether the key has an identity. -/
def hasIdentity (k : Key) : Bool := decide (k ≠ none)

/-- The Control key and the Meta key exchanged. -/
def swapControlMeta : Key → Key
  | .named .control => .named .metaKey
  | .named .metaKey => .named .control
  | k => k

/-- **The exchange undoes itself.** -/
@[simp] theorem swapControlMeta_swapControlMeta (k : Key) :
    k.swapControlMeta.swapControlMeta = k := by
  cases k with
  | character => rfl
  | named n => cases n <;> rfl

end Key

/-- Where on the keyboard a key sits. -/
inductive KeyLocation where
  | standard
  | left
  | right
  | numpad
deriving DecidableEq

/-- Whether a key goes down or up. -/
inductive KeyKind where
  | press
  | release
deriving DecidableEq

/-- A key going down or up. -/
structure KeyEvent where
  kind : KeyKind
  key : Key
  location : KeyLocation := .standard
  /-- The text that the key gives with the modifiers held. -/
  text : String := ""
  modifiers : Modifiers := {}
  scanCode : Nat := 0
  /-- The key code of the platform. -/
  virtualKey : Nat := 0
  autoRepeat : Bool := false
  timestamp : Nat := 0
deriving DecidableEq

end ViewInput.Device
