import ViewInput.Device.Event
import ViewInput.TextField

/-!
# Attributes of composed text

An input method describes its text by intervals, given by a start and a length that may be negative.
**Resolving** an event clamps all of them to the text: the parts to underline, the caret, and an
explicit selection.  Of several carets, and of several selections, the last counts.
-/

namespace ViewInput.Composition

open Device (InputMethodEvent TextAttribute)

/-! ## Clamping -/

/-- The sum of two words of 32 bits, or the nearest word if it is none. -/
def saturatingAdd (a b : Int32) : Int :=
  max Int32.minValue.toInt (min Int32.maxValue.toInt (a.toInt + b.toInt))

/-- An offset moved into a text. -/
def clamp (length : Nat) (offset : Int) : Nat := min offset.toNat length

/-- The interval from a start over a length in either direction, moved into a text. -/
def interval (textLength : Nat) (start length : Int32) : TextRange :=
  let stop := saturatingAdd start length
  ⟨clamp textLength (min start.toInt stop), clamp textLength (max start.toInt stop)⟩

/-! ## Resolving -/

/-- An underlined part of composed text. -/
structure TextSpan where
  range : TextRange
  /-- The color of the line, if it is not the default. -/
  color : Option Nat
  thick : Bool
deriving DecidableEq

/-- The attributes of an event, clamped to its text. -/
structure Resolved where
  spans : List TextSpan := []
  cursor : Option Nat := none
  selection : Option TextRange := none
deriving DecidableEq

/-- An explicit selection.  Without composed text one that ends at zero is empty. -/
def explicitSelection (event : InputMethodEvent) (textLength : Nat) (start length : Int32) :
    TextRange :=
  if event.preedit.isEmpty ∧ saturatingAdd start length = 0 then .collapsed 0
  else interval textLength start length

/-- One attribute more.  Only composed text is underlined. -/
def Resolved.add (event : InputMethodEvent) (textLength : Nat) (r : Resolved) :
    TextAttribute → Resolved
  | .underline start length color thick =>
    if event.preedit.isEmpty then r
    else
      { r with
        spans :=
          r.spans ++ [{ range := interval textLength start length, color := color, thick := thick }] }
  | .caret position => { r with cursor := some (clamp textLength position.toInt) }
  | .selection start length =>
    { r with selection := some (explicitSelection event textLength start length) }

/-- **The attributes of an event** over a text of a given length. -/
def resolve (event : InputMethodEvent) (textLength : Nat) : Resolved :=
  event.attributes.foldl (Resolved.add event textLength) {}

end ViewInput.Composition
