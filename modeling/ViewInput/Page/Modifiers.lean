import ViewInput.Device.Modifiers

/-!
# Modifiers of page events

Every event of a page carries one set of flags: the modifiers, the buttons held, and what the event
says about its key.
-/

namespace ViewInput.Page

/-- The flags of an event. -/
structure Modifiers where
  shift : Bool := false
  control : Bool := false
  alt : Bool := false
  metaKey : Bool := false
  keypad : Bool := false
  autoRepeat : Bool := false
  leftButton : Bool := false
  middleButton : Bool := false
  rightButton : Bool := false
  backButton : Bool := false
  forwardButton : Bool := false
  /-- The key is the left one of a pair. -/
  left : Bool := false
  /-- The key is the right one of a pair. -/
  right : Bool := false
  altGraph : Bool := false
deriving DecidableEq

namespace Modifiers

/-- No flags. -/
def none : Modifiers := {}

instance : Inhabited Modifiers := ⟨none⟩

/-- The members in the order in which flag words number them. -/
def flags (m : Modifiers) : List Bool :=
  [m.shift, m.control, m.alt, m.metaKey, m.keypad, m.autoRepeat, m.leftButton, m.middleButton,
   m.rightButton, m.backButton, m.forwardButton, m.left, m.right, m.altGraph]

/-- The set of a flag word, given by its bits. -/
def ofFlags (bit : Nat → Bool) : Modifiers :=
  { shift := bit 0, control := bit 1, alt := bit 2, metaKey := bit 3, keypad := bit 4,
    autoRepeat := bit 5, leftButton := bit 6, middleButton := bit 7, rightButton := bit 8,
    backButton := bit 9, forwardButton := bit 10, left := bit 11, right := bit 12,
    altGraph := bit 13 }

/-- The flags for modifiers and buttons of the device, which keep their names. -/
def ofDevice (m : Device.Modifiers) (b : Device.Buttons) : Modifiers :=
  { shift := m.shift
    control := m.control
    alt := m.alt
    metaKey := m.metaKey
    keypad := m.keypad
    altGraph := m.groupSwitch
    leftButton := b.left
    middleButton := b.middle
    rightButton := b.right
    backButton := b.back
    forwardButton := b.forward }

end Modifiers

end ViewInput.Page
