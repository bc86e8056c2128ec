import ViewInput.Device.Event
import ViewInput.Platform
import ViewInput.Touch.Grouping

/-!
# From a windowing system

Some windowing systems report in terms of their own: keys by their value in the document object
model, wheels in lines or in pixels, carets as offsets of bytes.  The functions here bring that into
the terms of a toolkit, **on macOS with Control and Meta exchanged**, as a toolkit has it there.
-/

namespace ViewInput.Windowing

open Device (Key NamedKey)

/-! ## Keys and modifiers -/

/-- The modifiers that are held, by their own names. -/
structure Held where
  shift : Bool
  control : Bool
  alt : Bool
  super : Bool
deriving DecidableEq

/-- The modifiers as a toolkit reports them. -/
def modifiers (held : Held) (platform : Platform) : Device.Modifiers :=
  let m : Device.Modifiers :=
    { shift := held.shift, control := held.control, alt := held.alt, metaKey := held.super }
  if platform.swapsControlMeta then m.swapControlMeta else m

inductive KeyValue where
  | named (name : String)
  | text (value : String)
  /-- A key that changes the next. -/
  | dead
  | unidentified
deriving DecidableEq

/-- The key of a name.  Names that no toolkit knows have none. -/
def namedKey (name : String) : NamedKey :=
  match name with
  | "ArrowUp" => .arrowUp
  | "ArrowDown" => .arrowDown
  | "ArrowLeft" => .arrowLeft
  | "ArrowRight" => .arrowRight
  | "Home" => .home
  | "End" => .end
  | "PageUp" => .pageUp
  | "PageDown" => .pageDown
  | "Backspace" => .backspace
  | "Delete" => .delete
  | "Insert" => .insert
  | "Enter" => .enter
  | "Tab" => .tab
  | "Space" => .space
  | "Escape" => .escape
  | "Clear" => .clear
  | "Shift" => .shift
  | "Control" => .control
  | "Alt" => .alt
  | "Super" | "Meta" => .metaKey
  | "AltGraph" => .altGraph
  | "CapsLock" => .capsLock
  | "NumLock" => .numLock
  | "ScrollLock" => .scrollLock
  | "Pause" => .pause
  | "PrintScreen" => .printScreen
  | "Help" => .help
  | "ContextMenu" => .contextMenu
  | _ =>
    match (List.range 24).find? fun i => name == "F" ++ toString (i + 1) with
    | some i => .function (i + 1)
    | none => .unidentified

/-- The key of a value.  Only a text of one character is a key; what a dead key or a longer text
gives still arrives as text. -/
def keyOfValue : KeyValue → Key
  | .named name => .named (namedKey name)
  | .text value =>
    match value.toList with
    | [c] => .character c
    | _ => .none
  | .dead | .unidentified => .none

/-- The key as a toolkit reports it. -/
def key (value : KeyValue) (platform : Platform) : Key :=
  if platform.swapsControlMeta then (keyOfValue value).swapControlMeta else keyOfValue value

/-! ## Fingers -/

inductive Force where
  /-- As a share of the greatest force. -/
  | normalized (share : Float)
  /-- As a force, with the greatest that the device can measure. -/
  | calibrated (force greatest : Float)

/-- The force as a share of the greatest. -/
def Force.share : Force → Float
  | .normalized share => share
  | .calibrated force greatest => force / greatest

/-- The identity of a finger.  Its 64 bits are read with a sign, which keeps fingers apart. -/
def finger (id : Nat) : Int := (Int64.ofNat id).toInt

/-- A report of one finger, with its place in double precision. -/
def reportFinger (g : Touch.Grouping) (id : Nat) (phase : Touch.FingerPhase) (x y : Float)
    (force : Option Force) : Touch.Grouping :=
  g.report (finger id) phase (.ofDouble x y) (force.map fun f => f.share.toFloat32)

/-! ## Wheels -/

inductive WheelDelta where
  | lines (x y : Float32)
  | pixels (x y : Float)

/-- The angle of a wheel that makes a line. -/
def anglePerLine : Float32 := 120

/-- The phase of a scroll whose events are tagged like those of a finger. -/
def scrollPhase : Touch.FingerPhase → Device.ScrollPhase
  | .started => .began
  | .moved => .updated
  | .ended | .cancelled => .ended

/-- A wheel event.  Lines come from a wheel, which has no phases, and pixels from a touchpad. -/
def wheel (delta : WheelDelta) (phase : Touch.FingerPhase) (position : Point) :
    Device.WheelEvent :=
  match delta with
  | .lines x y =>
    { angleDelta := ⟨x * anglePerLine, y * anglePerLine⟩
      position := position
      globalPosition := position }
  | .pixels x y =>
    { angleDelta := .ofDouble x y
      pixelDelta := some (.ofDouble x y)
      phase := scrollPhase phase
      position := position
      globalPosition := position }

/-! ## Input methods -/

/-- What an input method of a windowing system reports. -/
inductive InputMethodReport where
  | enabled
  | disabled
  | commit (text : String)
  /-- Composed text, with the offsets in bytes between which the caret stands. -/
  | preedit (text : String) (caret : Option (Nat × Nat))
deriving DecidableEq

/-- How many characters of a text begin before an offset in bytes, counted on the characters from
`position` on, or nothing if the offset stands inside a character. -/
def charactersBefore? (offset : Nat) : Nat → List Char → Option Nat
  | position, [] => if position = offset then some 0 else none
  | position, c :: rest =>
    if position = offset then some 0
    else if offset < position then none
    else (charactersBefore? offset (position + c.utf8Size) rest).map (· + 1)

/-- The offset in characters for one in bytes.  Offsets beyond the text, or inside a character,
stand for the end of the text. -/
def characterOffset (text : String) (offset : Nat) : Nat :=
  (charactersBefore? offset 0 text.toList).getD text.length

/-- An offset as a word of 32 bits, the greatest one if it does not fit. -/
def word (offset : Nat) : Int32 := Int32.ofInt (min offset Int32.maxValue.toInt)

/-- Composed text, underlined as a whole, with the part before the caret that is being converted
underlined once more. -/
def preeditEvent (text : String) (caret : Option (Nat × Nat)) : Device.InputMethodEvent :=
  if text.isEmpty then { preedit := text }
  else
    let length := word text.length
    let whole : Device.TextAttribute := .underline 0 length none false
    match caret with
    | none => { preedit := text, attributes := [whole, .caret length] }
    | some (first, last) =>
      let start := word (characterOffset text first)
      let stop := word (characterOffset text last)
      let converted : List Device.TextAttribute :=
        if start < stop then [.underline start (stop - start) none true] else []
      { preedit := text, attributes := whole :: converted ++ [.caret stop] }

/-- The event for a report.  That an input method is ready changes nothing, and when it goes it
ends any composition. -/
def inputMethod? : InputMethodReport → Option Device.InputMethodEvent
  | .enabled => none
  | .disabled => some {}
  | .commit text => some { commit := text }
  | .preedit text caret => some (preeditEvent text caret)

end ViewInput.Windowing
