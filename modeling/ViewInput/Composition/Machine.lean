import ViewInput.Composition.Attributes
import ViewInput.Platform
import ViewInput.TextContext

/-!
# Composition

Input methods compose text in the editor before they commit it.  The engine is told to set a
composition, to commit a text, or to cancel.

**An event with nothing in it is ambiguous** while text is being composed.  Either the last composed
character was erased, or the text that was composed comes next, as a key.  The event is posted once
more, and whatever comes first decides: the event itself, another one, or a key.
-/

namespace ViewInput

open Device (InputMethodEvent KeyEvent)
open ViewInput.Composition (TextSpan)

namespace Composition

/-! ## State and effects -/

inductive Phase where
  | inactive
  | composing
  /-- An empty event was posted once more, and nothing has come since. -/
  | awaiting
deriving DecidableEq

/-- What the engine and the input method are told. -/
inductive Action where
  | setComposition (text : String) (spans : List TextSpan) (replaced : Option TextRange)
      (selection : TextRange)
  | commitText (text : String) (spans : List TextSpan) (replaced : Option TextRange)
      (caretShift : Int)
  | cancelComposition
  | selectInEditor (range : TextRange)
  /-- The input method shall commit what it composes. -/
  | askCommit
  /-- The input method shall drop what it composes. -/
  | askReset
  /-- An event is to be delivered once more. -/
  | repost (event : InputMethodEvent)
deriving DecidableEq

/-- The events that are to be delivered once more. -/
def reposted (actions : List Action) : List InputMethodEvent :=
  actions.filterMap fun
    | .repost event => some event
    | _ => none

/-- What is to become of a key. -/
inductive KeyVerdict where
  | deliver
  | swallow
deriving DecidableEq

/-- The text that an event replaces, if it lies in the field.  A negative start counts back from the
caret. -/
def replacedRange (event : InputMethodEvent) (cursor length : Nat) : Option TextRange :=
  let count := event.replacementLength.toInt
  let offset := event.replacementStart.toInt
  let start := if offset < 0 then signedOffset cursor + offset else offset
  if count ≤ 0 then none
  else if start < 0 ∨ length ≤ start.toNat then none
  else some ⟨start.toNat, start.toNat + count.toNat⟩

end Composition

structure Composition where
  phase : Composition.Phase := .inactive
  preedit : String := ""
  /-- The caret, as an offset in the composed text. -/
  cursor : Nat := 0
  selection : TextRange := .collapsed 0
  spans : List TextSpan := []
deriving DecidableEq

namespace Composition

def isActive (c : Composition) : Bool := decide (c.phase ≠ .inactive)

def idle : Composition := {}

/-! ## Events of the input method -/

/-- An empty event.  It is posted once more if it may be ambiguous, and else ends the
composition. -/
def receiveEmpty (c : Composition) (event : InputMethodEvent) (hasSelection : Bool) :
    Composition × List Action :=
  if c.phase = .composing ∧ hasSelection = false then
    ({ c with phase := .awaiting }, [.repost event])
  else (idle, if c.isActive then [.cancelComposition] else [])

/-- The part of an event that commits or replaces text. -/
def receiveCommit (c : Composition) (event : InputMethodEvent) (resolved : Resolved)
    (replaced : Option TextRange) : Composition × List Action :=
  if ¬ event.commit.isEmpty ∨ 0 < event.replacementLength.toInt then
    (idle, [.commitText event.commit resolved.spans replaced 0])
  else (c, [])

/-- The part of an event that composes text. -/
def receivePreedit (c : Composition) (event : InputMethodEvent) (resolved : Resolved)
    (selection : TextRange) (replaced : Option TextRange) : Composition × List Action :=
  if event.preedit.isEmpty then (c, [])
  else
    ({ phase := .composing
       preedit := event.preedit
       cursor := resolved.cursor.getD event.preedit.length
       selection := selection
       spans := resolved.spans },
     [.setComposition event.preedit resolved.spans replaced selection])

/-- **An event of the input method.**  One that commits and composes at once starts a new
composition. -/
def receive (c : Composition) (event : InputMethodEvent) (context : TextContext) :
    Composition × List Action :=
  let length := event.preedit.length
  let surrounding := context.surroundingLength
  let resolved := resolve event (if 0 < length then length else surrounding)
  let selection := resolved.selection.getD (.collapsed (resolved.cursor.getD length))
  let replaced := replacedRange event context.cursor surrounding
  let explicit := resolved.selection.toList.map Action.selectInEditor
  if event.isEmpty then
    let (c, actions) := c.receiveEmpty event resolved.selection.isSome
    (c, explicit ++ actions)
  else
    let c := if c.phase = .awaiting then { c with phase := .composing } else c
    let (c, committed) := c.receiveCommit event resolved replaced
    let (c, composed) := c.receivePreedit event resolved selection replaced
    (c, explicit ++ committed ++ composed)

/-! ## Everything else -/

/-- **A key** decides what an empty event meant.  A key with an identity means that the composition
was given up.  A key without one has the composed text, which is committed when it goes up. -/
def key (c : Composition) (event : KeyEvent) : Composition × List Action × KeyVerdict :=
  if c.phase ≠ .awaiting then (c, [], .deliver)
  else if event.key.hasIdentity then (idle, [.cancelComposition], .deliver)
  else match event.kind with
    | .press => (c, [], .swallow)
    | .release => (idle, [.commitText event.text [] none 0], .swallow)

/-- A pointer or a finger goes down in the view: the input method shall finish.  On Windows it
commits when it is reset. -/
def pointerDown (c : Composition) (platform : Platform) : Composition × List Action :=
  if c.isActive then
    match platform with
    | .windows => (idle, [.askReset])
    | .linux | .macos => (idle, [.askCommit])
  else (c, [])

def cancel (c : Composition) : Composition × List Action :=
  (idle, if c.isActive then [.cancelComposition] else [])

end Composition

end ViewInput
