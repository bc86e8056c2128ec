import ViewInput.Proofs.Pointer.Runs

/-!
# The anchor of a locked pointer

While the page has the pointer locked, the host moves its cursor back again and again, and the page
wants to know how far each movement went.  The anchor is where the cursor goes back to: **the
position of the latest event that was converted while the pointer was not locked** (`anchorOf`).

The tracker holds it and nothing else as its anchor (`anchor_history`).  So every movement is
measured from it, and a stretch of locked events has one anchor from its first event to its last
(`locked_pointer_keeps_anchor`).
-/

namespace ViewInput.Pointer

open Device (PointerEvent HoverEvent)

/-! ## The anchor in a log -/

/-- The position of an event that was converted while the pointer was not locked. -/
def Entry.unlockedPosition? (e : Entry) : Option Point :=
  match e.call, e.report with
  | .pointer event _ false, some _ => some event.globalPosition
  | _, _ => none

/-- **The anchor that a log leaves**: the latest such position, or the origin if there is none. -/
def anchorOf (log : List Entry) : Point :=
  ((recent log).filterMap Entry.unlockedPosition?).getLast?.getD .zero

lemma anchorOf_concat (log : List Entry) (e : Entry) : anchorOf (log ++ [e]) =
    if e.call = .reset then .zero else e.unlockedPosition?.getD (anchorOf log) := by
  rw [anchorOf, recent_concat]
  split
  · rfl
  · rw [List.filterMap_append, List.getLast?_append]
    cases h : e.unlockedPosition? <;> simp [h, anchorOf]

/-! ## Runs -/

/-- A call that has no say in where the anchor is: the pointer is locked or only hovers or leaves,
or a button changed that no page knows. -/
def Call.KeepsAnchor : Call → Prop
  | .pointer event _ locked => locked = true ∨ event.kind ≠ .move ∧ pageButton event.button = .none
  | .hover _ _ | .leave _ => True
  | .reset => False

instance : ∀ call : Call, Decidable call.KeepsAnchor
  | .pointer event _ locked => inferInstanceAs
      (Decidable (locked = true ∨ event.kind ≠ .move ∧ pageButton event.button = .none))
  | .hover _ _ | .leave _ => .isTrue trivial
  | .reset => .isFalse id

variable {settings : Settings}

/-- **The tracker holds the anchor of its log.** -/
lemma anchor_history (settings : Settings) (calls : List Call) :
    (history settings calls).tracker.anchor = anchorOf (history settings calls).log := by
  induction calls using List.reverseRecOn with
  | nil => rfl
  | append_singleton calls call ih =>
      rw [history_concat, History.next, anchorOf_concat, ← ih]
      cases call with
      | pointer event time locked =>
          rw [if_neg nofun, Tracker.respond]
          rcases pointer_cases settings (history settings calls).tracker event time locked with
            ⟨-, heq⟩ | ⟨-, t', report, heq, hconverts⟩
          · rw [heq]
            cases locked <;> rfl
          · rw [heq, hconverts.anchor]
            cases locked <;> rfl
      | hover event time | leave time => rfl
      | reset => rfl

/-- A call without a say leaves the anchor. -/
lemma anchorOf_next (h : History) {call : Call} (hkeeps : call.KeepsAnchor) :
    anchorOf (h.next settings call).log = anchorOf h.log := by
  rw [History.next, anchorOf_concat]
  cases call with
  | pointer event time locked =>
      rw [if_neg nofun, Tracker.respond]
      rcases hkeeps with rfl | hdropped
      · rfl
      · rw [(pointer_eq_none_iff settings h.tracker event time locked).mpr hdropped]
        cases locked <;> rfl
  | hover event time | leave time => rfl
  | reset => exact hkeeps.elim

/-- **A locked pointer does not drift.**  In any run, each converted event tells the movement from
the anchor to its own position on the screen.  It asks to put the cursor back exactly if the pointer
is locked, and then to the anchor.  A pointer that leaves does so from the anchor.  And in a stretch
of calls while the pointer is locked, or that hover, leave, or tell of a button that no page knows,
the anchor stays where it was. -/
theorem locked_pointer_keeps_anchor (settings : Settings) (calls : List Call) :
    let t := (history settings calls).tracker
    let anchor := anchorOf (history settings calls).log
    (∀ event time locked report, (t.pointer settings event time locked).2 = some report →
      report.event.globalPosition = event.globalPosition ∧
      report.event.movement = event.globalPosition.deltaFrom anchor ∧
      report.resetCursorTo = if locked then some anchor else none) ∧
    (∀ event time locked, (t.pointer settings event time locked).2 = none ↔
      event.kind ≠ .move ∧ pageButton event.button = .none) ∧
    (∀ time, (t.leave settings time).globalPosition = anchor) ∧
    ∀ stretch : List Call, (∀ call ∈ stretch, call.KeepsAnchor) →
      anchorOf (history settings (calls ++ stretch)).log = anchor := by
  intro t anchor
  have hanchor : t.anchor = anchor := anchor_history settings calls
  refine ⟨fun event time locked report hreport => ?_,
    fun event time locked => pointer_eq_none_iff _ t event time locked,
    fun time => hanchor, fun stretch hstretch => ?_⟩
  · have hconverts := converts_of_report hreport
    rw [← hanchor]
    exact ⟨hconverts.globalPosition, hconverts.movement, hconverts.resetCursorTo⟩
  · induction stretch using List.reverseRecOn with
    | nil => rw [List.append_nil]
    | append_singleton stretch call ih =>
        obtain ⟨hbefore, hcall⟩ := List.forall_mem_append.mp hstretch
        rw [← List.append_assoc, history_concat, anchorOf_next _ (hcall call (by simp))]
        exact ih hbefore

/-- The pointer starts over and moves. -/
def approach : List Call :=
  [.pointer (eventAt .move .none ⟨40, 8⟩) 0 false, .reset,
   .pointer (eventAt .move .none ⟨10, 4⟩) 0 false]

/-- It is locked and moves on.  A button that no page knows goes down, with the pointer not locked,
and the pointer leaves. -/
def lockedStretch : List Call :=
  [.pointer (eventAt .move .none ⟨25, 4⟩) 0 true, .pointer (eventAt .press .left ⟨30, 6⟩) 0 true,
   .pointer (eventAt .press (.other 9) ⟨31, 6⟩) 0 false, .leave 0]

theorem locked_pointer_keeps_anchor_lockedStretch :
    (∀ call ∈ lockedStretch, call.KeepsAnchor) ∧
    anchorOf (history {} (approach ++ lockedStretch)).log = ⟨10, 4⟩ ∧
    ∃ report, ((history {} (approach ++ lockedStretch)).tracker.pointer {}
        (eventAt .release .left ⟨20.5, 1⟩) 0 true).2 = some report ∧
      report.event.movement = ⟨10.5, -3⟩ ∧ report.resetCursorTo = some ⟨10, 4⟩ := by
  have hstretch : ∀ call ∈ lockedStretch, call.KeepsAnchor := by decide
  have hanchor : anchorOf (history {} (approach ++ lockedStretch)).log = ⟨10, 4⟩ :=
    (locked_pointer_keeps_anchor {} approach).2.2.2 lockedStretch hstretch
  obtain ⟨hreports, hdropped, -, -⟩ :=
    locked_pointer_keeps_anchor {} (approach ++ lockedStretch)
  obtain ⟨report, hreport⟩ := Option.ne_none_iff_exists'.mp
    (mt (hdropped (eventAt .release .left ⟨20.5, 1⟩) 0 true).mp (by decide))
  obtain ⟨-, hmovement, hcursor⟩ := hreports _ 0 true report hreport
  rw [hanchor] at hmovement hcursor
  have hdistance : (⟨20.5, 1⟩ : Point).deltaFrom ⟨10, 4⟩ = ⟨10.5, -3⟩ := by decide +kernel
  exact ⟨hstretch, hanchor, report, hreport, hmovement.trans hdistance, hcursor⟩

end ViewInput.Pointer
