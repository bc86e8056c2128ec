import Mathlib.Data.List.DropRight
import Mathlib.Data.List.Induction
import ViewInput.Pointer.Tracker

/-!
# Runs of the pointer tracker

A run converts pointer events, with the pointer locked or not, hears of a pointer that hovers or
leaves, and starts afresh, in any order.  `history` plays it from a new tracker and keeps a log of
what every call reported.  A tracker that starts afresh remembers nothing, so that of the log only
the part since then counts (`recent`).

**A pointer event is dropped or converted** (`pointer_eq_none_iff`).  What a conversion reports and
what it leaves behind is said once, in `Converts`.
-/

namespace ViewInput

/-- The press that an event makes. -/
def Device.PointerEvent.asPress (event : Device.PointerEvent) : Pointer.Press :=
  ⟨event.button, event.position, event.timestamp⟩

namespace Pointer

open Device (PointerEvent HoverEvent)

/-! ## Calls -/

/-- One call of the tracker. -/
inductive Call where
  | pointer (event : PointerEvent) (time : Nat) (locked : Bool)
  | hover (event : HoverEvent) (time : Nat)
  | leave (time : Nat)
  /-- The tracker starts afresh. -/
  | reset
deriving DecidableEq

/-- The tracker after a call, and what the call reports.  A pointer that hovers or leaves has no
cursor to put back. -/
def Tracker.respond (t : Tracker) (settings : Settings) : Call → Tracker × Option MouseReport
  | .pointer event time locked => t.pointer settings event time locked
  | .hover event time => (t, (hover settings event time).map fun e => ⟨e, none⟩)
  | .leave time => (t, some ⟨t.leave settings time, none⟩)
  | .reset => ({}, none)

/-! ## Histories -/

/-- A call with what it reported. -/
structure Entry where
  call : Call
  report : Option MouseReport

/-- A tracker with everything that it reported. -/
structure History where
  tracker : Tracker := {}
  log : List Entry := []

def History.next (settings : Settings) (h : History) (call : Call) : History :=
  { tracker := (h.tracker.respond settings call).1
    log := h.log ++ [⟨call, (h.tracker.respond settings call).2⟩] }

/-- **The history of a run**, from a new tracker. -/
def history (settings : Settings) (calls : List Call) : History :=
  calls.foldl (History.next settings) {}

lemma history_concat (settings : Settings) (calls : List Call) (call : Call) :
    history settings (calls ++ [call]) = (history settings calls).next settings call := by
  simp [history]

/-- The log since the tracker last started afresh. -/
def recent (log : List Entry) : List Entry := log.rtakeWhile fun e => decide (e.call ≠ .reset)

lemma recent_concat (log : List Entry) (e : Entry) :
    recent (log ++ [e]) = if e.call = .reset then [] else recent log ++ [e] := by
  by_cases hreset : e.call = .reset
  · rw [if_pos hreset]
    exact List.rtakeWhile_concat_neg _ _ _ (by simp [hreset])
  · rw [if_neg hreset]
    exact List.rtakeWhile_concat_pos _ _ _ (by simp [hreset])

/-! ## One pointer event -/

section Stylus

variable (e : Page.MouseEvent) (stylus : Option Device.Stylus)

@[simp] lemma withStylus_kind : (withStylus e stylus).kind = e.kind := by cases stylus <;> rfl

@[simp] lemma withStylus_clickCount : (withStylus e stylus).clickCount = e.clickCount := by
  cases stylus <;> rfl

@[simp] lemma withStylus_globalPosition :
    (withStylus e stylus).globalPosition = e.globalPosition := by
  cases stylus <;> rfl

@[simp] lemma withStylus_movement : (withStylus e stylus).movement = e.movement := by
  cases stylus <;> rfl

end Stylus

/-- **What a conversion reports, and what it leaves behind.** -/
structure Converts (settings : Settings) (t : Tracker) (event : PointerEvent) (locked : Bool)
    (t' : Tracker) (report : MouseReport) : Prop where
  kind : report.event.kind = mouseKind event.kind
  globalPosition : report.event.globalPosition = event.globalPosition
  /-- Only a press is counted. -/
  clicks : t'.clicks = if event.kind.isPress
    then t.clicks.press (streakLimits settings) event.asPress else t.clicks
  clickCount : event.kind ≠ .move → report.event.clickCount = t'.clicks.count
  movement : report.event.movement = event.globalPosition.deltaFrom t.anchor
  resetCursorTo : report.resetCursorTo = if locked then some t.anchor else none
  anchor : t'.anchor = if locked then t.anchor else event.globalPosition

/-- A button changed that no page knows. -/
lemma represents_eq_false_iff {event : PointerEvent} : Tracker.represents event = false ↔
    event.kind ≠ .move ∧ pageButton event.button = .none := by
  unfold Tracker.represents
  cases event.kind <;> simp

section Pointer

variable (settings : Settings) (t : Tracker) (event : PointerEvent) (time : Nat) (locked : Bool)

/-- **A pointer event is dropped or converted.**  If it is dropped, only the buttons held are
noted. -/
lemma pointer_cases :
    ((event.kind ≠ .move ∧ pageButton event.button = .none) ∧
      t.pointer settings event time locked = ({ t with held := event.buttons }, none)) ∨
    (¬ (event.kind ≠ .move ∧ pageButton event.button = .none) ∧
      ∃ t' report, t.pointer settings event time locked = (t', some report) ∧
        Converts settings t event locked t' report) := by
  rw [← represents_eq_false_iff]
  cases hknown : Tracker.represents event with
  | false => exact Or.inl ⟨rfl, by simp [Tracker.pointer, hknown]⟩
  | true =>
      refine Or.inr ⟨nofun, ?_⟩
      simp only [Tracker.pointer, hknown, if_true]
      refine ⟨_, _, rfl, ?_⟩
      exact
        { kind := by rw [withStylus_kind]
          globalPosition := by rw [withStylus_globalPosition]
          clicks := rfl
          clickCount := fun hmove => by
            rw [withStylus_clickCount, if_neg]
            cases hkind : event.kind <;> simp [mouseKind, hkind] at hmove ⊢
          movement := by rw [withStylus_movement]
          resetCursorTo := rfl
          anchor := rfl }

/-- An event is dropped just if a button changed that no page knows. -/
lemma pointer_eq_none_iff : (t.pointer settings event time locked).2 = none ↔
    event.kind ≠ .move ∧ pageButton event.button = .none := by
  rcases pointer_cases settings t event time locked with
    ⟨hforeign, heq⟩ | ⟨hknown, t', report, heq, -⟩
  · simp [heq, hforeign]
  · simp [heq, hknown]

end Pointer

/-- An event that is reported was converted. -/
lemma converts_of_report {settings : Settings} {t : Tracker} {event : PointerEvent} {time : Nat}
    {locked : Bool} {report : MouseReport}
    (h : (t.pointer settings event time locked).2 = some report) :
    Converts settings t event locked (t.pointer settings event time locked).1 report := by
  rcases pointer_cases settings t event time locked with
    ⟨-, heq⟩ | ⟨-, t', report', heq, hconverts⟩
  · simp [heq] at h
  · rw [heq] at h ⊢
    rwa [← Option.some.inj h]

/-- An event for examples, at one place of the view and of the screen. -/
def eventAt (kind : Device.PointerKind) (button : Device.Button) (place : Point)
    (timestamp : Nat := 0) : PointerEvent :=
  { kind := kind
    button := button
    buttons := {}
    position := place
    globalPosition := place
    timestamp := timestamp }

end Pointer

end ViewInput
