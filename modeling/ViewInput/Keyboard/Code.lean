import ViewInput.Device.Key

/-!
# Key codes

A key has two codes besides its value: the **virtual key code**, a number that old pages compare,
and the **physical name** of the document object model.  Both are tables over the keys of an
American keyboard; a key outside of it has neither.
-/

namespace ViewInput.Keyboard

open Device (Key NamedKey KeyLocation)

/-! ## Virtual key codes -/

/-- Whether a character is a decimal digit. -/
def isDigit (c : Char) : Bool := '0' ≤ c && c ≤ '9'

/-- The code of a printable character: that of the key it is printed on. -/
def characterCode (c : Char) : Nat :=
  if 'a' ≤ c ∧ c ≤ 'z' then c.toNat - 0x20
  else if ('A' ≤ c ∧ c ≤ 'Z') ∨ isDigit c then c.toNat
  else match c with
    | ' ' => 0x20
    | ';' | ':' => 0xBA
    | '=' | '+' => 0xBB
    | ',' | '<' => 0xBC
    | '-' | '_' => 0xBD
    | '.' | '>' => 0xBE
    | '/' | '?' => 0xBF
    | '\x60' | '~' => 0xC0
    | '[' | '\x7b' => 0xDB
    | '\\' | '|' => 0xDC
    | ']' | '\x7d' => 0xDD
    | '\x27' | '\x22' => 0xDE
    | ')' => 0x30
    | '!' => 0x31
    | '@' => 0x32
    | '#' => 0x33
    | '$' => 0x34
    | '%' => 0x35
    | '^' => 0x36
    | '&' => 0x37
    | '*' => 0x38
    | '(' => 0x39
    | _ => 0

/-- The code of a named key. -/
def namedCode : NamedKey → Nat
  | .backspace => 0x08
  | .tab | .backtab => 0x09
  | .clear => 0x0C
  | .enter => 0x0D
  | .shift => 0x10
  | .control => 0x11
  | .alt => 0x12
  | .pause => 0x13
  | .capsLock => 0x14
  | .escape => 0x1B
  | .space => 0x20
  | .pageUp => 0x21
  | .pageDown => 0x22
  | .end => 0x23
  | .home => 0x24
  | .arrowLeft => 0x25
  | .arrowUp => 0x26
  | .arrowRight => 0x27
  | .arrowDown => 0x28
  | .printScreen => 0x2C
  | .insert => 0x2D
  | .delete => 0x2E
  | .help => 0x2F
  | .metaKey => 0x5B
  | .contextMenu => 0x5D
  | .function n => if 1 ≤ n ∧ n ≤ 24 then 0x70 + (n - 1) else 0
  | .numLock => 0x90
  | .scrollLock => 0x91
  | .altGraph => 0xE1
  | .unidentified => 0

/-- The code of a key on the numeric keypad.  Most named keys do not occur there. -/
def keypadCode : Key → Nat
  | .character c =>
    if isDigit c then 0x60 + (c.toNat - '0'.toNat)
    else match c with
      | '*' => 0x6A
      | '+' => 0x6B
      | '-' => 0x6D
      | '.' | ',' => 0x6E
      | '/' => 0x6F
      | _ => 0
  | .named name =>
    match name with
    | .pageUp | .pageDown | .end | .home | .arrowLeft | .arrowUp | .arrowRight | .arrowDown
    | .enter | .insert | .delete => namedCode name
    | _ => 0

/-- **The virtual key code**, zero if the key has none. -/
def virtualCode (key : Key) (keypad : Bool) : Nat :=
  if keypad then keypadCode key
  else match key with
    | .character c => characterCode c
    | .named name => namedCode name

/-! ## Physical names -/

/-- The physical name of a character on the numeric keypad. -/
def keypadName (c : Char) : String :=
  if isDigit c then "Numpad" ++ c.toString
  else match c with
    | '*' => "NumpadMultiply"
    | '+' => "NumpadAdd"
    | '-' => "NumpadSubtract"
    | '.' | ',' => "NumpadDecimal"
    | '/' => "NumpadDivide"
    | _ => ""

/-- The physical name of a character elsewhere. -/
def characterName (c : Char) : String :=
  let lower := c.toLower
  if 'a' ≤ lower ∧ lower ≤ 'z' then "Key" ++ lower.toUpper.toString
  else if isDigit c then "Digit" ++ c.toString
  else match c with
    | ' ' => "Space"
    | '-' | '_' => "Minus"
    | '=' | '+' => "Equal"
    | '[' | '\x7b' => "BracketLeft"
    | ']' | '\x7d' => "BracketRight"
    | '\\' | '|' => "Backslash"
    | ';' | ':' => "Semicolon"
    | '\x27' | '\x22' => "Quote"
    | '\x60' | '~' => "Backquote"
    | ',' | '<' => "Comma"
    | '.' | '>' => "Period"
    | '/' | '?' => "Slash"
    | _ => ""

/-- The physical name of a named key.  The keys that come in pairs depend on the side, and the Enter
key has a second one on the keypad. -/
def namedName (right keypad : Bool) : NamedKey → String
  | .enter => if keypad then "NumpadEnter" else "Enter"
  | .backspace => "Backspace"
  | .tab | .backtab => "Tab"
  | .escape => "Escape"
  | .space => "Space"
  | .shift => if right then "ShiftRight" else "ShiftLeft"
  | .control => if right then "ControlRight" else "ControlLeft"
  | .alt => if right then "AltRight" else "AltLeft"
  | .altGraph => "AltRight"
  | .metaKey => if right then "MetaRight" else "MetaLeft"
  | .capsLock => "CapsLock"
  | .pageUp => "PageUp"
  | .pageDown => "PageDown"
  | .end => "End"
  | .home => "Home"
  | .arrowLeft => "ArrowLeft"
  | .arrowUp => "ArrowUp"
  | .arrowRight => "ArrowRight"
  | .arrowDown => "ArrowDown"
  | .insert => "Insert"
  | .delete => "Delete"
  | .printScreen => "PrintScreen"
  | .scrollLock => "ScrollLock"
  | .pause => "Pause"
  | .numLock => "NumLock"
  | .contextMenu => "ContextMenu"
  | .help => "Help"
  | .clear => "NumpadClear"
  | .function n => if 1 ≤ n ∧ n ≤ 24 then "F" ++ toString n else ""
  | .unidentified => ""

/-- **The physical name of a key**, empty if it is not known. -/
def domCode (key : Key) (location : KeyLocation) (keypad : Bool) : String :=
  let keypad := keypad || decide (location = .numpad)
  match key with
  | .character c => if keypad then keypadName c else characterName c
  | .named name => namedName (decide (location = .right)) keypad name

end ViewInput.Keyboard
