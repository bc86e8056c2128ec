import Mathlib.Data.List.Induction
import ViewInput.Proofs.Composition.Calls

/-!
# Offsets in composed text

An input method gives its offsets as words with a sign, and may say anything.  **Resolving an event
moves all of them into the text** that they are about (`resolve_within`): the composed text, or the
text around the caret if nothing is composed.

A composition only ever keeps the offsets of an event with composed text, together with that text.
What changes later is the phase, or everything is forgotten at once.  So `InOrder` is kept by every
call, and whatever is composed lies in its text (`offsets_stay_in_text`).
-/

namespace ViewInput

/-- An interval in a text of some length. -/
structure TextRange.Within (r : TextRange) (length : Nat) : Prop where
  ordered : r.start ≤ r.stop
  bounded : r.stop ≤ length

lemma TextRange.within_collapsed {offset length : Nat} (h : offset ≤ length) :
    (TextRange.collapsed offset).Within length :=
  ⟨Nat.le_refl offset, h⟩

namespace Composition

open Device (InputMethodEvent KeyEvent TextAttribute)

/-! ## Resolving -/

lemma clamp_le (length : Nat) (offset : Int) : clamp length offset ≤ length :=
  Nat.min_le_right _ _

lemma clamp_mono (length : Nat) {a b : Int} (h : a ≤ b) : clamp length a ≤ clamp length b := by
  unfold clamp
  omega

lemma interval_within (length : Nat) (start count : Int32) :
    (interval length start count).Within length where
  ordered := clamp_mono length (by omega)
  bounded := clamp_le length _

lemma explicitSelection_within (event : InputMethodEvent) (length : Nat) (start count : Int32) :
    (explicitSelection event length start count).Within length := by
  unfold explicitSelection
  split
  · exact TextRange.within_collapsed (Nat.zero_le length)
  · exact interval_within length start count

/-- Attributes that lie in a text. -/
structure Resolved.Within (r : Resolved) (length : Nat) : Prop where
  spans : ∀ s ∈ r.spans, s.range.Within length
  cursor : ∀ offset ∈ r.cursor, offset ≤ length
  selection : ∀ range ∈ r.selection, range.Within length

lemma Resolved.Within.add {r : Resolved} {length : Nat} (h : r.Within length)
    (event : InputMethodEvent) (a : TextAttribute) : (r.add event length a).Within length := by
  cases a with
  | underline start count color thick =>
      simp only [Resolved.add]
      split
      · exact h
      · refine ⟨fun s hs => ?_, h.cursor, h.selection⟩
        rcases List.mem_append.mp hs with hold | hnew
        · exact h.spans s hold
        · rw [List.mem_singleton.mp hnew]
          exact interval_within length start count
  | caret position =>
      refine ⟨h.spans, ?_, h.selection⟩
      rintro offset ⟨⟩
      exact clamp_le length position.toInt
  | selection start count =>
      refine ⟨h.spans, h.cursor, ?_⟩
      rintro range ⟨⟩
      exact explicitSelection_within event length start count

/-- **Everything that an event resolves to lies in the text.** -/
lemma resolve_within (event : InputMethodEvent) (length : Nat) :
    (resolve event length).Within length := by
  have hnone : Resolved.Within {} length := ⟨by simp, by simp, by simp⟩
  exact List.foldlRecOn (motive := fun r : Resolved => r.Within length) event.attributes _ hnone
    fun _ hr a _ => hr.add event a

/-- With composed text, the text that offsets are moved into is that one. -/
lemma resolve_within_preedit {event : InputMethodEvent} (hsome : event.preedit ≠ "") (other : Nat) :
    (resolve event (if 0 < event.preedit.length then event.preedit.length else other)).Within
      event.preedit.length := by
  have hpos : 0 < event.preedit.length :=
    Nat.pos_of_ne_zero fun hzero => hsome (String.length_eq_zero_iff.mp hzero)
  rw [if_pos hpos]
  exact resolve_within event _

namespace Resolved.Within

variable {r : Resolved} {length : Nat}

/-- The caret stands at the end unless the event places it. -/
lemma caret_le (h : r.Within length) : r.cursor.getD length ≤ length := by
  cases hcursor : r.cursor with
  | none => exact Nat.le_refl length
  | some offset => exact h.cursor offset hcursor

/-- The caret is the selection unless the event has one. -/
lemma selected (h : r.Within length) :
    (r.selection.getD (.collapsed (r.cursor.getD length))).Within length := by
  cases hselection : r.selection with
  | none => exact TextRange.within_collapsed h.caret_le
  | some range => exact h.selection range hselection

end Resolved.Within

/-! ## Compositions -/

/-- **A composition in order**: it is active exactly while it has a text, its offsets lie in the
text, and nothing is left of it when it is over. -/
structure InOrder (c : Composition) : Prop where
  active_iff : c.isActive = true ↔ c.preedit ≠ ""
  eq_idle : c.isActive = false → c = idle
  cursor : c.cursor ≤ c.preedit.length
  selection : c.selection.Within c.preedit.length
  spans : ∀ s ∈ c.spans, s.range.Within c.preedit.length

lemma inOrder_idle : InOrder idle where
  active_iff := by decide
  eq_idle := fun _ => rfl
  cursor := Nat.zero_le _
  selection := TextRange.within_collapsed (Nat.zero_le _)
  spans := by simp [idle]

namespace InOrder

variable {c : Composition}

/-- Doubt comes and goes without a change of the text. -/
lemma withPhase (h : InOrder c) (hactive : c.isActive = true) {phase : Phase}
    (hphase : phase ≠ .inactive) : InOrder { c with phase := phase } := by
  have hstill : isActive { c with phase := phase } = true := by simp [isActive, hphase]
  refine ⟨iff_of_true hstill (h.active_iff.mp hactive), fun hover => ?_, h.cursor, h.selection,
    h.spans⟩
  rw [hstill] at hover
  cases hover

lemma receiveEmpty (h : InOrder c) (event : InputMethodEvent) (hasSelection : Bool) :
    InOrder (c.receiveEmpty event hasSelection).1 := by
  unfold Composition.receiveEmpty
  split
  · rename_i hcomposing
    exact h.withPhase (by simp [isActive, hcomposing.1]) (by decide)
  · exact inOrder_idle

lemma receiveCommit (h : InOrder c) (event : InputMethodEvent) (resolved : Resolved)
    (replaced : Option TextRange) : InOrder (c.receiveCommit event resolved replaced).1 := by
  unfold Composition.receiveCommit
  split
  · exact inOrder_idle
  · exact h

/-- A new text comes with offsets of its own. -/
lemma receivePreedit (h : InOrder c) {event : InputMethodEvent} {resolved : Resolved}
    {selection : TextRange}
    (hwithin : event.preedit ≠ "" → resolved.Within event.preedit.length)
    (hselection : event.preedit ≠ "" → selection.Within event.preedit.length)
    (replaced : Option TextRange) :
    InOrder (c.receivePreedit event resolved selection replaced).1 := by
  unfold Composition.receivePreedit
  split
  · exact h
  · rename_i hpreedit
    have hsome : event.preedit ≠ "" := by simpa using hpreedit
    exact ⟨iff_of_true rfl hsome, nofun, (hwithin hsome).caret_le, hselection hsome,
      (hwithin hsome).spans⟩

lemma receive (h : InOrder c) (event : InputMethodEvent) (context : TextContext) :
    InOrder (c.receive event context).1 := by
  unfold Composition.receive
  simp only
  split
  · exact h.receiveEmpty event _
  · have hback : InOrder (if c.phase = .awaiting then { c with phase := .composing } else c) := by
      split
      · rename_i hawaiting
        exact h.withPhase (by simp [isActive, hawaiting]) (by decide)
      · exact h
    refine (hback.receiveCommit event _ _).receivePreedit (fun hsome => ?_) (fun hsome => ?_) _
    · exact resolve_within_preedit hsome _
    · exact (resolve_within_preedit hsome _).selected

lemma key (h : InOrder c) (event : KeyEvent) : InOrder (c.key event).1 := by
  unfold Composition.key
  split
  · exact h
  · split
    · exact inOrder_idle
    · split
      · exact h
      · exact inOrder_idle

lemma pointerDown (h : InOrder c) (platform : Platform) : InOrder (c.pointerDown platform).1 := by
  unfold Composition.pointerDown
  split
  · cases platform <;> exact inOrder_idle
  · exact h

lemma respond (h : InOrder c) (call : Call) : InOrder (c.respond call).1 := by
  cases call with
  | event event context => exact h.receive event context
  | key event => exact h.key event
  | pointer platform => exact h.pointerDown platform
  | cancel => exact inOrder_idle

end InOrder

lemma inOrder_history (calls : List Call) : InOrder (history calls).composition := by
  induction calls using List.reverseRecOn with
  | nil => exact inOrder_idle
  | append_singleton calls call ih =>
      rw [history_concat]
      exact ih.respond call

/-- **The offsets of a composition stay in its text**, whatever the input method says.  After every
run a composition is active exactly if it has a text.  Its caret, its selection and its spans are
then intervals of that text, and if it is not active there are none. -/
theorem offsets_stay_in_text (calls : List Call) :
    let c := (history calls).composition
    (c.isActive = true ↔ c.preedit ≠ "") ∧
    (c.isActive = false → c.cursor = 0 ∧ c.selection = .collapsed 0 ∧ c.spans = []) ∧
    (c.isActive = true → c.cursor ≤ c.preedit.length ∧
      c.selection.start ≤ c.selection.stop ∧ c.selection.stop ≤ c.preedit.length ∧
      ∀ s ∈ c.spans, s.range.start ≤ s.range.stop ∧ s.range.stop ≤ c.preedit.length) := by
  intro c
  have h : InOrder c := inOrder_history calls
  refine ⟨h.active_iff, fun hover => ?_, fun _ => ?_⟩
  · rw [h.eq_idle hover]
    exact ⟨rfl, rfl, rfl⟩
  · exact ⟨h.cursor, h.selection.ordered, h.selection.bounded, fun s hs =>
      ⟨(h.spans s hs).ordered, (h.spans s hs).bounded⟩⟩

/-- A caret before the text, and a span that ends far behind it. -/
example :
    let wild : InputMethodEvent :=
      { preedit := "abc", attributes := [.caret (-7), .underline 1 2147483647 none true] }
    let c := (history [.event wild {}]).composition
    c.cursor = 0 ∧ c.selection = .collapsed 0 ∧ c.spans.map (·.range) = [⟨1, 3⟩] := by
  decide

end Composition

end ViewInput
