/-!
# Modifiers and buttons of the device

Both are sets, held as one truth value for each member.  On macOS the toolkit reports Command as
Control and Control as Meta; **`swapControlMeta`** undoes that, and undoes itself.
-/

namespace ViewInput.Device

/-- The modifiers held during an event. -/
structure Modifiers where
  shift : Bool := false
  control : Bool := false
  alt : Bool := false
  /-- Meta, Super, or the Control key on macOS. -/
  metaKey : Bool := false
  /-- The key is on the numeric keypad. -/
  keypad : Bool := false
  /-- The mode switch, which is AltGr on some layouts. -/
  groupSwitch : Bool := false
deriving DecidableEq

namespace Modifiers

def none : Modifiers := {}

instance : Inhabited Modifiers := ⟨none⟩

/-- The members in the order in which flag words number them. -/
def flags (m : Modifiers) : List Bool :=
  [m.shift, m.control, m.alt, m.metaKey, m.keypad, m.groupSwitch]

/-- The set of a flag word, given by its bits. -/
def ofFlags (bit : Nat → Bool) : Modifiers :=
  { shift := bit 0, control := bit 1, alt := bit 2, metaKey := bit 3, keypad := bit 4,
    groupSwitch := bit 5 }

def swapControlMeta (m : Modifiers) : Modifiers :=
  { m with control := m.metaKey, metaKey := m.control }

/-- **The exchange undoes itself.** -/
@[simp] theorem swapControlMeta_swapControlMeta (m : Modifiers) :
    m.swapControlMeta.swapControlMeta = m := rfl

end Modifiers

structure Buttons where
  left : Bool := false
  right : Bool := false
  middle : Bool := false
  back : Bool := false
  forward : Bool := false
deriving DecidableEq

namespace Buttons

def none : Buttons := {}

instance : Inhabited Buttons := ⟨none⟩

/-- The members in the order in which flag words number them. -/
def flags (b : Buttons) : List Bool := [b.left, b.right, b.middle, b.back, b.forward]

/-- The set of a flag word, given by its bits. -/
def ofFlags (bit : Nat → Bool) : Buttons :=
  { left := bit 0, right := bit 1, middle := bit 2, back := bit 3, forward := bit 4 }

end Buttons

inductive Button where
  /-- No button changed; the event only moves. -/
  | none
  | left
  | right
  | middle
  | back
  | forward
  /-- A button that has no counterpart in a page. -/
  | other (code : Nat)
deriving DecidableEq

namespace Button

instance : Inhabited Button := ⟨.none⟩

/-- The set that holds the button alone. -/
def asSet : Button → Buttons
  | .left => { left := true }
  | .right => { right := true }
  | .middle => { middle := true }
  | .back => { back := true }
  | .forward => { forward := true }
  | .none | .other _ => .none

end Button

end ViewInput.Device
