import ViewInput.TextField

/-!
# The text around the caret

Input methods ask about the text around the caret.  The answers come from a copy that the
notifications of the engine keep up to date.  One change that a user sees is reported by three
notifications, in any order: the content of the field, the selected text, and the bounds of the
selection.  **The change is signalled once the three have come**, and only if it is one.
-/

namespace ViewInput

/-! ## The copy -/

/-- Which notifications have come since the last signal. -/
structure Notified where
  state : Bool := false
  selection : Bool := false
  bounds : Bool := false
deriving DecidableEq

/-- The notifications in the order in which flag words number them. -/
def Notified.flags (n : Notified) : List Bool := [n.state, n.selection, n.bounds]

/-- The copy of what the engine said. -/
structure TextContext where
  notified : Notified := {}
  /-- The content of the field without the part that is being composed. -/
  surrounding : String := ""
  cursor : Nat := 0
  /-- The ends of the last selection that was signalled, as offsets in the field. -/
  anchorInSelection : Option Nat := none
  cursorInSelection : Option Nat := none
  previousEmpty : Bool := true
deriving DecidableEq

/-- What the host of the input method is told. -/
inductive TextSignal where
  | stateChanged (visible password : Bool)
  | selectionChanged
deriving DecidableEq

inductive TextQuery where
  | enabled
  | cursorRectangle
  | cursorPosition
  | anchorPosition
  | surroundingText
  | currentSelection
  | maximumTextLength
  | hints
deriving DecidableEq

inductive TextAnswer where
  | none
  | bool (value : Bool)
  | int (value : Int)
  | text (value : String)
  | rect (value : Rect)
  | hints (value : List InputHint)
deriving DecidableEq

/-- A text without the characters at the offsets of an interval. -/
def withoutRange (value : String) (range : TextRange) : String :=
  String.ofList ((value.toList.zipIdx.filter fun (_, i) => !range.contains i).map (·.1))

namespace TextContext

def surroundingLength (c : TextContext) : Nat := c.surrounding.length

/-- The copy with no notification noted. -/
def forgetNotifications (c : TextContext) : TextContext := { c with notified := {} }

/-! ## A change of the selection -/

/-- The ends of a selection as offsets in the field: its anchor, and the end that moves.  The anchor
is the greater one if it stands on the right. -/
def selectionEnds (source : TextSource) (selection : TextSelection) : Nat × Nat :=
  let least := min selection.range.start selection.range.stop - selection.offset
  let greatest := max selection.range.start selection.range.stop - selection.offset
  if source.region.any fun r => decide (r.anchor.side = .right) then (greatest, least)
  else (least, greatest)

/-- Outside of a field only the change from and to an empty selection counts. -/
def selectionChangedOutside (c : TextContext) (source : TextSource) :
    TextContext × List TextSignal :=
  let empty := source.selectedText.isEmpty
  if empty ∧ c.previousEmpty then (c, [])
  else
    ({ c with anchorInSelection := none, cursorInSelection := none, previousEmpty := empty },
     [.selectionChanged])

/-- In a field without selected text the caret is the selection.  It is signalled when it takes the
place of a selection. -/
def caretChanged (c : TextContext) (source : TextSource) : TextContext × List TextSignal :=
  let cursor := (source.field.map fun f => f.selection.start).getD c.cursor
  ({ c with
      cursor := cursor
      anchorInSelection := some cursor
      cursorInSelection := some cursor
      previousEmpty := true },
   .stateChanged true (decide (source.kind = .password))
    :: (if c.previousEmpty then [] else [.selectionChanged]))

/-- In a field with selected text a selection is signalled when its ends are not those of the last
one. -/
def rangeChanged (c : TextContext) (source : TextSource) : TextContext × List TextSignal :=
  match source.selection with
  | none => (c, [])
  | some selection =>
    let (anchor, cursor) := selectionEnds source selection
    if c.anchorInSelection = some anchor ∧ c.cursorInSelection = some cursor then (c, [])
    else
      ({ c with
          anchorInSelection := some anchor
          cursorInSelection := some cursor
          cursor := if selection.text.isEmpty then c.cursor else cursor
          previousEmpty := selection.text.isEmpty },
       [.stateChanged true (decide (source.kind = .password)), .selectionChanged])

/-- The change that the notifications were about. -/
def selectionChanged (c : TextContext) (source : TextSource) : TextContext × List TextSignal :=
  let c := c.forgetNotifications
  if source.kind = .none then c.selectionChangedOutside source
  else if source.selectedText.isEmpty then c.caretChanged source
  else c.rangeChanged source

/-! ## Notifications -/

/-- The change, if everything that it needs has been notified.  Outside of a field the content of a
field is not waited for. -/
def signalIfComplete (c : TextContext) (source : TextSource) : TextContext × List TextSignal :=
  let n := c.notified
  if n.selection ∧ n.bounds ∧ (n.state ∨ source.kind = .none) then c.selectionChanged source
  else (c, [])

/-- The content of the field as it is copied. -/
def copyField (c : TextContext) (field : TextFieldState) : TextContext :=
  { c with
    surrounding := match field.composition with
      | some range => withoutRange field.value range
      | none => field.value }

/-- **The content of the field was notified.**  A second time before the others have come starts
over, and while something is composed only a selection that went away is worth a signal. -/
def fieldUpdated (c : TextContext) (source : TextSource) : TextContext × List TextSignal :=
  match source.field with
  | none => (c, [.stateChanged false false])
  | some field =>
    let c := c.copyField field
    let (c, first) : TextContext × List TextSignal :=
      if source.selectedText.isEmpty then
        ({ c with cursor := field.selection.start },
         [.stateChanged field.kind.isEditable (decide (field.kind = .password))])
      else (c, [])
    if c.notified.state then ({ c with notified := { state := true } }, first)
    else if field.composition.isSome ∧ c.previousEmpty then (c.forgetNotifications, first)
    else
      let c := { c with notified := { c.notified with state := true } }
      if c.notified.selection ∧ c.notified.bounds then
        let (c, signals) := c.selectionChanged source
        (c, first ++ signals)
      else (c, first)

/-- **The bounds of the selection were notified.** -/
def boundsChanged (c : TextContext) (source : TextSource) : TextContext × List TextSignal :=
  { c with notified := { c.notified with bounds := true } }.signalIfComplete source

/-- **The selected text was notified.** -/
def textSelected (c : TextContext) (source : TextSource) : TextContext × List TextSignal :=
  match source.selection with
  | none => (c, [])
  | some _ => { c with notified := { c.notified with selection := true } }.signalIfComplete source

/-! ## Questions -/

/-- The caret on the screen, at least one pixel wide, unless it has no height. -/
def caretRect? (source : TextSource) : Option Rect :=
  match source.region with
  | none => none
  | some region =>
    if 0 < region.focus.height then
      let r := region.rectBetweenBounds
      some (if r.size.width == 0 then { r with size := { r.size with width := 1 } } else r)
    else none

def answer (c : TextContext) (source : TextSource) : TextQuery → TextAnswer
  | .enabled => .bool source.kind.isEditable
  | .cursorRectangle =>
    match caretRect? source with
    | some r => .rect r
    | none => .none
  | .cursorPosition => .int (signedOffset c.cursor)
  | .anchorPosition =>
    let anchor := if source.selectedText.isEmpty then some c.cursor else c.anchorInSelection
    match anchor with
    | some offset => .int (signedOffset offset)
    | none => .int (-1)
  | .surroundingText => .text c.surrounding
  | .currentSelection => .text source.selectedText
  | .maximumTextLength => .none
  | .hints => .hints source.kind.hints

end TextContext

/-- Whether shortcuts for text apply: something that takes text, or hides it, has the focus. -/
def TextSource.acceptsText (source : TextSource) : Bool :=
  source.kind.isEditable || source.kind.hints.contains .hiddenText

end ViewInput
