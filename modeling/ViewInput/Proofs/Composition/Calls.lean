import Mathlib.Data.List.Basic
import ViewInput.Composition.Machine

/-!
# Runs of a composition

A run of a composition is a list of calls.  `history` plays it from the start and keeps, call by
call, what the engine and the input method were told.

What an event tells hardly depends on the composition: only an empty event asks for its phase
(`receive_told`).
-/

namespace ViewInput.Composition

open Device (InputMethodEvent KeyEvent)

inductive Call where
  | event (event : InputMethodEvent) (context : TextContext)
  | key (event : KeyEvent)
  /-- A pointer or a finger went down in the view. -/
  | pointer (platform : Platform)
  /-- The view lost the focus. -/
  | cancel

def Call.isPointer : Call → Bool
  | .pointer _ => true
  | _ => false

def Call.isEvent : Call → Bool
  | .event _ _ => true
  | _ => false

/-- The composition after a call, and what is told. -/
def respond (c : Composition) : Call → Composition × List Action
  | .event event context => c.receive event context
  | .key event => ((c.key event).1, (c.key event).2.1)
  | .pointer platform => c.pointerDown platform
  | .cancel => c.cancel

/-! ## What an event tells -/

/-- The length of the text that the offsets of an event are about: the composed text, or the text
around the caret if nothing is composed. -/
def offsetLimit (event : InputMethodEvent) (context : TextContext) : Nat :=
  if 0 < event.preedit.length then event.preedit.length else context.surroundingLength

/-- **What an event tells**: what it selects in the editor, and then what comes of its texts. -/
lemma receive_told (c : Composition) (event : InputMethodEvent) (context : TextContext) :
    let resolved := resolve event (offsetLimit event context)
    let replaced := replacedRange event context.cursor context.surroundingLength
    (c.receive event context).2
      = resolved.selection.toList.map .selectInEditor
        ++ if event.isEmpty then (c.receiveEmpty event resolved.selection.isSome).2
          else (c.receiveCommit event resolved replaced).2
            ++ (c.receivePreedit event resolved
                (resolved.selection.getD (.collapsed (resolved.cursor.getD event.preedit.length)))
                replaced).2 := by
  intro resolved replaced
  cases hempty : event.isEmpty with
  | true => simp only [receive, hempty, if_true, resolved, offsetLimit]
  | false =>
      simp only [receive, hempty, Bool.false_eq_true, if_false, List.append_assoc, resolved,
        replaced, offsetLimit]
      -- Neither list depends on the composition.
      congr 2
      · unfold receiveCommit
        split <;> rfl
      · unfold receivePreedit
        split <;> rfl

/-! Calls of some kind are picked out of what an event tells.  Each part of it that tells of no such
call may be passed over. -/

section Picked

variable {β : Type} {pick : Action → Option β} (c : Composition) (event : InputMethodEvent)

lemma filterMap_select (hpick : ∀ range, pick (.selectInEditor range) = none)
    (explicit : Option TextRange) : (explicit.toList.map .selectInEditor).filterMap pick = [] := by
  cases explicit <;> simp [hpick]

lemma filterMap_receiveEmpty (hrepost : pick (.repost event) = none)
    (hcancel : pick .cancelComposition = none) (hasSelection : Bool) :
    (c.receiveEmpty event hasSelection).2.filterMap pick = [] := by
  unfold receiveEmpty
  split
  · simp [hrepost]
  · cases c.isActive <;> simp [hcancel]

lemma filterMap_receiveCommit
    (hpick : ∀ text spans replaced shift, pick (.commitText text spans replaced shift) = none)
    (resolved : Resolved) (replaced : Option TextRange) :
    (c.receiveCommit event resolved replaced).2.filterMap pick = [] := by
  unfold receiveCommit
  split <;> simp [hpick]

lemma filterMap_receivePreedit
    (hpick : ∀ text spans replaced selection,
      pick (.setComposition text spans replaced selection) = none)
    (resolved : Resolved) (selection : TextRange) (replaced : Option TextRange) :
    (c.receivePreedit event resolved selection replaced).2.filterMap pick = [] := by
  unfold receivePreedit
  split <;> simp [hpick]

end Picked

/-! ## Histories -/

/-- A composition with everything that was told, call by call. -/
structure History where
  composition : Composition := {}
  lines : List (Call × List Action) := []

namespace History

/-- Everything that was told. -/
def log (h : History) : List Action := h.lines.flatMap (·.2)

/-- What was told because of events of the input method. -/
def eventLog (h : History) : List Action :=
  (h.lines.filter fun line => line.1.isEvent).flatMap (·.2)

def next (h : History) (call : Call) : History :=
  { composition := (h.composition.respond call).1
    lines := h.lines ++ [(call, (h.composition.respond call).2)] }

lemma log_next (h : History) (call : Call) :
    (h.next call).log = h.log ++ (h.composition.respond call).2 := by
  simp [log, next]

lemma eventLog_next (h : History) (call : Call) :
    (h.next call).eventLog
      = h.eventLog ++ if call.isEvent then (h.composition.respond call).2 else [] := by
  cases hevent : call.isEvent <;> simp [eventLog, next, hevent]

end History

/-- **The history of a run** from the start. -/
def history (calls : List Call) : History := calls.foldl History.next {}

lemma history_concat (calls : List Call) (call : Call) :
    history (calls ++ [call]) = (history calls).next call := by
  simp [history]

end ViewInput.Composition
