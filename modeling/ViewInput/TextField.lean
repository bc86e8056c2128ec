import ViewInput.Geometry

/-!
# Text fields and selections

What the engine says about the field that has the focus: its kind and content, the selected text,
and where on the screen the selection begins and ends.  Offsets count characters.
-/

namespace ViewInput

/-- An interval of offsets, without its end.  Nothing keeps the start from lying behind the end. -/
structure TextRange where
  start : Nat
  stop : Nat
deriving DecidableEq

namespace TextRange

def collapsed (offset : Nat) : TextRange := ⟨offset, offset⟩

instance : Inhabited TextRange := ⟨TextRange.collapsed 0⟩

def contains (r : TextRange) (offset : Nat) : Bool :=
  decide (r.start ≤ offset) && decide (offset < r.stop)

end TextRange

/-- An offset as a word of 64 bits with a sign, which is the form in which input methods exchange
offsets. -/
def signedOffset (offset : Nat) : Int := (Int64.ofNat offset).toInt

/-- The greater half of the words comes out negative. -/
theorem signedOffset_eq {offset : Nat} (hword : offset < UInt64.size) :
    signedOffset offset
      = if (offset : Int) ≤ Int64.maxValue.toInt then (offset : Int) else offset - UInt64.size := by
  have hmax : Int64.maxValue.toInt = 9223372036854775807 := by decide
  have hsize : Int64.size = 18446744073709551616 := rfl
  have hwords : UInt64.size = 18446744073709551616 := rfl
  rw [signedOffset, Int64.toInt_ofNat', Int.bmod_def, hsize]
  split <;> split <;> omega

/-! ## Kinds of field -/

inductive TextFieldKind where
  /-- Nothing that takes text has the focus. -/
  | none
  | text
  | password
  | search
  | email
  | number
  | telephone
  | url
  | textArea
  | contentEditable
deriving DecidableEq

namespace TextFieldKind

def isEditable (k : TextFieldKind) : Bool := decide (k ≠ .none)

/-- Whether the text may be read back. -/
def isReadable (k : TextFieldKind) : Bool := decide (k ≠ .password)

end TextFieldKind

/-- What an input method is told about a field. -/
inductive InputHint where
  | hiddenText
  | sensitiveData
  | noAutoUppercase
  | preferLowercase
  | noPredictiveText
  | multiLine
  | noEditMenu
  | noTextHandles
  | formattedNumbersOnly
  | dialableCharactersOnly
  | emailCharactersOnly
  | urlCharactersOnly
deriving DecidableEq

/-- All hints, in the order in which flag words number them. -/
def InputHint.all : List InputHint :=
  [.hiddenText, .sensitiveData, .noAutoUppercase, .preferLowercase, .noPredictiveText, .multiLine,
   .noEditMenu, .noTextHandles, .formattedNumbersOnly, .dialableCharactersOnly,
   .emailCharactersOnly, .urlCharactersOnly]

/-- The hints for a kind of field.  The last three are given for every kind. -/
def TextFieldKind.hints (k : TextFieldKind) : List InputHint :=
  let particular : List InputHint := match k with
    | .password => [.hiddenText, .sensitiveData, .noAutoUppercase, .preferLowercase]
    | .number => [.formattedNumbersOnly]
    | .telephone => [.dialableCharactersOnly]
    | .email => [.emailCharactersOnly]
    | .url => [.urlCharactersOnly]
    | .textArea | .contentEditable => [.multiLine]
    | .none | .text | .search => []
  particular ++ [.noPredictiveText, .noTextHandles, .noEditMenu]

/-! ## Content and selection -/

/-- The content of the field that has the focus. -/
structure TextFieldState where
  kind : TextFieldKind := .none
  value : String := ""
  /-- The part that an input method is composing. -/
  composition : Option TextRange := none
  selection : TextRange := .collapsed 0
deriving DecidableEq

structure TextSelection where
  /-- The selected interval of the document. -/
  range : TextRange
  /-- The offset in the document of the first character of `text`. -/
  offset : Nat
  text : String
deriving DecidableEq

/-! ## The selection on the screen -/

/-- The side of the selection that a bound is on. -/
inductive BoundSide where
  | left
  | right
  | center
  | empty
deriving DecidableEq

/-- One end of the selection, as a segment of the screen. -/
structure SelectionBound where
  side : BoundSide := .empty
  edgeStart : Point := .zero
  edgeEnd : Point := .zero
deriving DecidableEq

def SelectionBound.height (b : SelectionBound) : Float32 := (b.edgeEnd.y - b.edgeStart.y).abs

/-- Both ends of the selection: where it began, and where it is extended. -/
structure SelectionRegion where
  anchor : SelectionBound
  focus : SelectionBound
deriving DecidableEq

/-- The least rectangle with all four ends of the bounds.  Coordinates that are no numbers are
passed over; without any number the rectangle is inside out. -/
def SelectionRegion.rectBetweenBounds (r : SelectionRegion) : Rect :=
  let points := [r.anchor.edgeStart, r.anchor.edgeEnd, r.focus.edgeStart, r.focus.edgeEnd]
  let infinity : Float32 := 1 / 0
  let least (xs : List Float32) := xs.foldl Binary32.smaller infinity
  let greatest (xs : List Float32) := xs.foldl Binary32.larger (-infinity)
  Rect.ofCorners ⟨least (points.map (·.x)), least (points.map (·.y))⟩
    ⟨greatest (points.map (·.x)), greatest (points.map (·.y))⟩

/-! ## All that the engine says -/

/-- What the engine says about text, at one moment.  Every source has these three of its own.  What
else it can be asked, `selectedText` and `kind`, are provided methods: they are worked out from the
three, and no source has its own. -/
structure TextSource where
  field : Option TextFieldState := none
  selection : Option TextSelection := none
  region : Option SelectionRegion := none
deriving DecidableEq

namespace TextSource

/-- The selected text, empty if nothing is selected.  It is provided for every source. -/
def selectedText (s : TextSource) : String := (s.selection.map (·.text)).getD ""

/-- The kind of the field that has the focus.  It is provided for every source. -/
def kind (s : TextSource) : TextFieldKind := (s.field.map (·.kind)).getD .none

end TextSource

end ViewInput
