import ViewInput.Device.Key
import ViewInput.Page.Modifiers
import ViewInput.Platform

/-!
# Editor commands

Some key presses edit text, and the editor of the page has a command for each.  **`forKey`** knows
them by platform: with the primary modifier (Command on macOS, Control elsewhere) a letter stands
for a command, and beyond that each platform has its keys for moving and deleting.
-/

namespace ViewInput

/-- A command of the editor. -/
inductive EditCommand where
  | undo
  | redo
  | cut
  | copy
  | paste
  | selectAll
  | moveToBeginningOfLine
  | moveToEndOfLine
  | moveToBeginningOfLineAndModifySelection
  | moveToEndOfLineAndModifySelection
  | moveToBeginningOfDocument
  | moveToEndOfDocument
  | moveToBeginningOfDocumentAndModifySelection
  | moveToEndOfDocumentAndModifySelection
  | moveWordLeft
  | moveWordRight
  | moveWordLeftAndModifySelection
  | moveWordRightAndModifySelection
  | deleteWordBackward
  | deleteWordForward
  | deleteToBeginningOfLine
deriving DecidableEq

namespace EditCommand

open Device (Key NamedKey)

/-! ## Names -/

/-- All commands. -/
def all : List EditCommand :=
  [.undo, .redo, .cut, .copy, .paste, .selectAll,
   .moveToBeginningOfLine, .moveToEndOfLine,
   .moveToBeginningOfLineAndModifySelection, .moveToEndOfLineAndModifySelection,
   .moveToBeginningOfDocument, .moveToEndOfDocument,
   .moveToBeginningOfDocumentAndModifySelection, .moveToEndOfDocumentAndModifySelection,
   .moveWordLeft, .moveWordRight,
   .moveWordLeftAndModifySelection, .moveWordRightAndModifySelection,
   .deleteWordBackward, .deleteWordForward, .deleteToBeginningOfLine]

/-- The name by which the editor knows a command. -/
def name : EditCommand → String
  | .undo => "Undo"
  | .redo => "Redo"
  | .cut => "Cut"
  | .copy => "Copy"
  | .paste => "Paste"
  | .selectAll => "SelectAll"
  | .moveToBeginningOfLine => "MoveToBeginningOfLine"
  | .moveToEndOfLine => "MoveToEndOfLine"
  | .moveToBeginningOfLineAndModifySelection => "MoveToBeginningOfLineAndModifySelection"
  | .moveToEndOfLineAndModifySelection => "MoveToEndOfLineAndModifySelection"
  | .moveToBeginningOfDocument => "MoveToBeginningOfDocument"
  | .moveToEndOfDocument => "MoveToEndOfDocument"
  | .moveToBeginningOfDocumentAndModifySelection => "MoveToBeginningOfDocumentAndModifySelection"
  | .moveToEndOfDocumentAndModifySelection => "MoveToEndOfDocumentAndModifySelection"
  | .moveWordLeft => "MoveWordLeft"
  | .moveWordRight => "MoveWordRight"
  | .moveWordLeftAndModifySelection => "MoveWordLeftAndModifySelection"
  | .moveWordRightAndModifySelection => "MoveWordRightAndModifySelection"
  | .deleteWordBackward => "DeleteWordBackward"
  | .deleteWordForward => "DeleteWordForward"
  | .deleteToBeginningOfLine => "DeleteToBeginningOfLine"

/-- The command of a name. -/
def ofName? (name : String) : Option EditCommand := all.find? (·.name == name)

/-- The commands that a page may claim outside of a text field on macOS, where it can act on its
selection. -/
def isClipboardOrSelectAll : EditCommand → Bool
  | .cut | .copy | .paste | .selectAll => true
  | _ => false

/-! ## Shortcuts -/

/-- The four modifiers that distinguish shortcuts; other flags play no part. -/
structure Chord where
  shift : Bool := false
  control : Bool := false
  alt : Bool := false
  metaKey : Bool := false
deriving DecidableEq

/-- The chord that is held. -/
def Chord.ofModifiers (m : Page.Modifiers) : Chord :=
  { shift := m.shift, control := m.control, alt := m.alt, metaKey := m.metaKey }

/-- The primary modifier alone. -/
def Chord.primary : Platform → Chord
  | .macos => { metaKey := true }
  | .linux | .windows => { control := true }

/-- The command of a letter held together with the primary modifier. -/
def ofLetter? (letter : Char) (shift : Bool) : Option EditCommand :=
  match letter.toLower, shift with
  | 'z', false => some .undo
  | 'z', true | 'y', false => some .redo
  | 'a', false => some .selectAll
  | 'c', false => some .copy
  | 'v', false => some .paste
  | 'x', false => some .cut
  | _, _ => none

/-- The command of a named key on macOS.  Command moves by lines and by the document, Option by
words, and Shift extends the selection. -/
def macNavigation? (key : NamedKey) (held : Chord) : Option EditCommand :=
  let base : Chord := { held with shift := false }
  let command : Chord := { metaKey := true }
  let option : Chord := { alt := true }
  let extending (move extend : EditCommand) := some (if held.shift then extend else move)
  match key with
  | .arrowLeft =>
    if base = command then
      extending .moveToBeginningOfLine .moveToBeginningOfLineAndModifySelection
    else if base = option then extending .moveWordLeft .moveWordLeftAndModifySelection
    else none
  | .arrowRight =>
    if base = command then extending .moveToEndOfLine .moveToEndOfLineAndModifySelection
    else if base = option then extending .moveWordRight .moveWordRightAndModifySelection
    else none
  | .arrowUp =>
    if base = command then
      extending .moveToBeginningOfDocument .moveToBeginningOfDocumentAndModifySelection
    else none
  | .arrowDown =>
    if base = command then extending .moveToEndOfDocument .moveToEndOfDocumentAndModifySelection
    else none
  | .backspace =>
    if held = option then some .deleteWordBackward
    else if held = command then some .deleteToBeginningOfLine
    else none
  | .delete => if held = option then some .deleteWordForward else none
  | _ => none

/-- The command of a named key elsewhere. -/
def navigation? (key : NamedKey) (held : Chord) : Option EditCommand :=
  if held = { control := true } then
    match key with
    | .backspace => some .deleteWordBackward
    | .delete => some .deleteWordForward
    | _ => none
  else none

/-- **The command of a key press**, if it is a shortcut for one.  The modifiers are those of the
page, so that Command is Meta. -/
def forKey (platform : Platform) (key : Key) (modifiers : Page.Modifiers) : Option EditCommand :=
  let held := Chord.ofModifiers modifiers
  match key with
  | .character c =>
    if { held with shift := false } = Chord.primary platform then ofLetter? c held.shift else none
  | .named name =>
    match platform with
    | .macos => macNavigation? name held
    | .linux | .windows => navigation? name held

end EditCommand

end ViewInput
