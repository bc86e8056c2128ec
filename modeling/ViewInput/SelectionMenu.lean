import ViewInput.TextField

/-!
# The touch selection menu

The host can show a small menu next to text that was selected by touch.  **It is shown when it is
wanted and nothing is going on**: no finger is down, the page does not scroll, and no handle is
dragged.  The host is told only when that changes.
-/

namespace ViewInput

/-! ## State -/

inductive MenuSource where
  | mouse
  | keyboard
  | longPress
  | longTap
  | touch
  | touchEditMenu
  | other
deriving DecidableEq

namespace MenuSource

/-- Whether a finger was held. -/
def isLongPress : MenuSource → Bool
  | .longPress | .longTap => true
  | _ => false

def isTouch : MenuSource → Bool
  | .longPress | .longTap | .touch => true
  | _ => false

end MenuSource

/-- What the engine says about its selection handles. -/
inductive HandleEvent where
  | selectionShown
  | selectionMoved
  | selectionCleared
  | selectionDragStarted
  | selectionDragStopped
  | insertionShown
  | insertionMoved
  | insertionTapped
  | insertionCleared
  | insertionDragStarted
  | insertionDragStopped
deriving DecidableEq

inductive MenuCommand where
  | cut
  | copy
  | paste
deriving DecidableEq

/-- Whether a command applies to a field. -/
def MenuCommand.isEnabled (kind : TextFieldKind) (hasSelection clipboardHasText : Bool) :
    MenuCommand → Bool
  | .cut => kind.isEditable && kind.isReadable && hasSelection
  | .copy => kind.isReadable && hasSelection
  | .paste => kind.isEditable && clipboardHasText

structure ContextMenuRequest where
  source : MenuSource
  isEditable : Bool
  selectedText : String
deriving DecidableEq

/-- The rectangles that the selection controller knows. -/
structure SelectionLayout where
  /-- From one end of the selection to the other. -/
  bounds : Rect
  startHandle : Rect
  endHandle : Rect
deriving DecidableEq

/-- What the controller, the menu host and the editor are told. -/
inductive MenuAction where
  | hideHandles (hidden : Bool)
  /-- The handles go, and do not come back by themselves. -/
  | dismissHandles
  | show (anchor : Rect) (handleSize : Size)
  | hide
  | cut
  | copy
  | paste
  | openContextMenu (position : Point) (source : MenuSource)
  | moveCaret (point : Point)
  | moveExtent (point : Point)
  | selectRange (base extent : Point)
deriving DecidableEq

structure SelectionMenu where
  requested : Bool := false
  touchDown : Bool := false
  scrolling : Bool := false
  draggingHandle : Bool := false
  showing : Bool := false
deriving DecidableEq

namespace SelectionMenu

/-- **Whether the menu is to be shown.** -/
def shouldShow (m : SelectionMenu) : Bool :=
  m.requested && !m.touchDown && !m.scrolling && !m.draggingHandle

/-! ## Telling the host -/

/-- The size of the larger handle, in whole pixels. -/
def handleSize (layout : SelectionLayout) : Size :=
  (layout.startHandle.size.max layout.endHandle.size).rounded

/-- The host is told if it shows what it should not, or does not show what it should. -/
def update (m : SelectionMenu) (layout : SelectionLayout) : SelectionMenu × List MenuAction :=
  if m.shouldShow = m.showing then (m, [])
  else
    ({ m with showing := m.shouldShow },
     [if m.shouldShow then .show layout.bounds.enclosing (handleSize layout) else .hide])

/-! ## What happens -/

def touchBegan (m : SelectionMenu) (layout : SelectionLayout) : SelectionMenu × List MenuAction :=
  { m with touchDown := true }.update layout

def touchEnded (m : SelectionMenu) (layout : SelectionLayout) : SelectionMenu × List MenuAction :=
  { m with touchDown := false }.update layout

/-- The page begins or ceases to scroll.  The handles are hidden meanwhile. -/
def setScrolling (m : SelectionMenu) (scrolling : Bool) (layout : SelectionLayout) :
    SelectionMenu × List MenuAction :=
  let (m, actions) := { m with scrolling := scrolling }.update layout
  (m, .hideHandles scrolling :: actions)

/-- The flags once the engine said something about its handles. -/
def noted (m : SelectionMenu) : HandleEvent → SelectionMenu
  | .selectionShown => { m with requested := true }
  | .selectionCleared | .insertionCleared => { m with requested := false }
  | .selectionDragStarted | .insertionDragStarted => { m with draggingHandle := true }
  | .selectionDragStopped | .insertionDragStopped => { m with draggingHandle := false }
  | .insertionTapped => { m with requested := !m.requested }
  | .insertionShown | .selectionMoved | .insertionMoved => m

/-- The engine said something about its handles. -/
def handleEvent (m : SelectionMenu) (event : HandleEvent) (layout : SelectionLayout) :
    SelectionMenu × List MenuAction :=
  (m.noted event).update layout

/-- **A request for a context menu.**  The answer tells whether the touch menu takes its place, as
it does for a finger held on an empty selection of a field, and for a touch on selected text. -/
def contextMenu (m : SelectionMenu) (request : ContextMenuRequest) (layout : SelectionLayout) :
    SelectionMenu × List MenuAction × Bool :=
  if request.source.isLongPress ∧ request.isEditable ∧ request.selectedText.isEmpty then
    let (m, actions) := { m with requested := true }.update layout
    (m, actions, true)
  else if request.source.isTouch ∧ ¬ request.selectedText.isEmpty then (m, [], true)
  else (m, [.dismissHandles], false)

end SelectionMenu

/-! ## Commands -/

/-- What a command of the menu does.  The handles go first. -/
def MenuCommand.actions : MenuCommand → List MenuAction
  | .cut => [.dismissHandles, .cut]
  | .copy => [.dismissHandles, .copy]
  | .paste => [.dismissHandles, .paste]

/-- The full context menu opens above the middle of the selection.  The handles go afterwards, for
without them the selection has no place. -/
def contextMenuActions (layout : SelectionLayout) : List MenuAction :=
  [.openContextMenu (Point.rounded ⟨layout.bounds.center.x, layout.bounds.top⟩) .touchEditMenu,
   .dismissHandles]

/-- The caret is moved to a whole pixel. -/
def moveCaretActions (point : Point) : List MenuAction := [.moveCaret point.rounded]

/-- The moving end of the selection is moved to a whole pixel. -/
def moveExtentActions (point : Point) : List MenuAction := [.moveExtent point.rounded]

/-- The text between two whole pixels is selected. -/
def selectBetweenActions (base extent : Point) : List MenuAction :=
  [.selectRange base.rounded extent.rounded]

end ViewInput
