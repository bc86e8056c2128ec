import Mathlib.Data.List.Permutation
import ViewInput.Proofs.TextContext.Rounds

/-!
# The order of the notifications

The engine sends the three notifications of a change in any order.  **From a quiet start the order
does not matter** (`order_of_notices_is_free`): while a round is open, the context depends only on
which notifications have come (`hearAll_open`), and with the last one all that was copied is judged.

A context need not be quiet.  If the content of the field was noted before, and comes again between
the other two, the round starts over, and the one that came first has to come once more
(`change_signalled_unless_restarted`).  In every other order, and with anything else left over, a
change is signalled and remembered.
-/

namespace ViewInput

/-! ## Noting -/

namespace Notified

/-- Just these notifications are noted. -/
def of (ks : List Notice) : Notified :=
  ⟨decide (.field ∈ ks), decide (.selection ∈ ks), decide (.bounds ∈ ks)⟩

lemma mark_of (ks : List Notice) (k : Notice) : (of ks).mark k = of (ks ++ [k]) := by
  cases k <;> simp [of, mark]

lemma isComplete_of_iff {ks : List Notice} : (of ks).isComplete = true ↔ ∀ k, k ∈ ks := by
  simp only [isComplete, of, Bool.and_eq_true, decide_eq_true_eq]
  constructor
  · rintro ⟨⟨hfield, hselection⟩, hbounds⟩ k
    cases k <;> assumption
  · exact fun h => ⟨⟨h _, h _⟩, h _⟩

lemma isComplete_of_eq_false {ks : List Notice} {k : Notice} (h : k ∉ ks) :
    (of ks).isComplete = false :=
  Bool.eq_false_iff.mpr fun hall => h (isComplete_of_iff.mp hall k)

/-- What has not come before is just added. -/
lemma take_of {ks : List Notice} {k : Notice} (h : k ∉ ks) : (of ks).take k = (of ks).add k := by
  cases k <;> simp [take, of, h]

/-- **Whether notifications are lost** when each comes once: the content of the field was noted
before and comes between the others, and the last of them was not noted before. -/
def restartsIn (n : Notified) : List Notice → Bool
  | [_, .field, last] => n.state && !n.has last
  | _ => false

/-- **Whatever is left over**, the three notifications complete a round unless some are lost.  Then
the one that came first, if it comes once more, completes it. -/
lemma rounds_of_perm (n : Notified) {order : List Notice} (h : order.Perm Notice.all) :
    n.rounds order = (!n.restartsIn order).toNat ∧
    (n.restartsIn order = true → n.rounds (order ++ order.take 1) = 1) := by
  -- What can be left over, and in which order, is a matter of 48 cases.
  have hall : ∀ state selection bounds, ∀ order ∈ Notice.all.permutations',
      let n : Notified := ⟨state, selection, bounds⟩
      n.rounds order = (!n.restartsIn order).toNat ∧
      (n.restartsIn order = true → n.rounds (order ++ order.take 1) = 1) := by
    decide
  exact hall n.state n.selection n.bounds order (List.mem_permutations'.mpr h)

end Notified

namespace TextContext

variable {c : TextContext} {source : TextSource} {ks order order' : List Notice} {k : Notice}

/-- Notifications come, all about what one source says. -/
def hearAll (c : TextContext) (source : TextSource) (ks : List Notice) :
    TextContext × List TextSignal :=
  c.run (ks.map fun k => .notice k source)

lemma hearAll_concat (c : TextContext) (source : TextSource) (ks : List Notice) (k : Notice) :
    c.hearAll source (ks ++ [k]) = (((c.hearAll source ks).1.hear source k).1,
      (c.hearAll source ks).2 ++ ((c.hearAll source ks).1.hear source k).2) := by
  rw [hearAll, List.map_append, run_append]
  simp [run, respond, hearAll]

/-- With a selection, and nothing composed that could excuse it, every notification is noted. -/
lemma noted_eq_take (hselection : source.selection.isSome)
    (hcomposing : c.isComposing source = false) (k : Notice) :
    c.noted source k = c.notified.take k := by
  cases k with
  | field => simp [noted, hcomposing]
  | selection => simp [noted, Option.isNone_eq_false_iff.mpr hselection]
  | bounds => rfl

/-! ## From a quiet start -/

/-- What is copied once some notifications have come. -/
def seenAfter (c : TextContext) (source : TextSource) (ks : List Notice) : TextContext :=
  if .field ∈ ks then c.refreshed source else c

/-- What is told at once when some notifications come. -/
def toldAfter (source : TextSource) (ks : List Notice) : List TextSignal :=
  if .field ∈ ks then told source .field else []

lemma seenAfter_concat (hfresh : k ∉ ks) (n n' : Notified) :
    { { c.seenAfter source ks with notified := n }.sees source k with notified := n' }
      = { c.seenAfter source (ks ++ [k]) with notified := n' } := by
  cases k with
  | field =>
      cases hfield : source.field <;>
        simp [seenAfter, sees, refreshed, copyField, hfresh, hfield]
  | selection => simp [seenAfter, sees]
  | bounds => simp [seenAfter, sees]

lemma toldAfter_concat (hfresh : k ∉ ks) :
    toldAfter source ks ++ told source k = toldAfter source (ks ++ [k]) := by
  cases k with
  | field => simp [toldAfter, hfresh]
  | selection => simp [toldAfter, told]
  | bounds => simp [toldAfter, told]

lemma isComposing_seenAfter (n : Notified) :
    isComposing { c.seenAfter source ks with notified := n } source = c.isComposing source := by
  unfold seenAfter
  split
  · cases hfield : source.field <;> simp [isComposing, refreshed, copyField, hfield]
  · rfl

section Quiet

variable (hkind : source.kind ≠ .none) (hselection : source.selection.isSome)
  (hcomposing : c.isComposing source = false) (hquiet : c.notified = {})

include hkind hselection hcomposing

/-- One more notification while a round is open. -/
lemma hear_seenAfter (hfresh : k ∉ ks) :
    hear { c.seenAfter source ks with notified := .of ks } source k =
      if (Notified.of (ks ++ [k])).isComplete then
        (((c.seenAfter source (ks ++ [k])).selectionChanged source).1,
          told source k ++ ((c.seenAfter source (ks ++ [k])).selectionChanged source).2)
      else
        ({ c.seenAfter source (ks ++ [k]) with notified := .of (ks ++ [k]) }, told source k) := by
  have hopen : isComposing { c.seenAfter source ks with notified := .of ks } source = false :=
    (isComposing_seenAfter _).trans hcomposing
  have hjudged : (sees { c.seenAfter source ks with notified := .of ks } source k).selectionChanged
      source = (c.seenAfter source (ks ++ [k])).selectionChanged source :=
    selectionChanged_congr source (seenAfter_concat hfresh (.of ks) {})
  rw [hear_eq _ hkind, noted_eq_take hselection hopen, Notified.take_of hfresh, settle_add,
    Notified.mark_of, hjudged]
  split
  · rfl
  · rw [seenAfter_concat hfresh, List.append_nil]

include hquiet

/-- **While a round is open** only what has come matters. -/
lemma hearAll_open (hnodup : ks.Nodup) (hopen : (Notified.of ks).isComplete = false) :
    c.hearAll source ks
      = ({ c.seenAfter source ks with notified := .of ks }, toldAfter source ks) := by
  induction ks using List.reverseRecOn with
  | nil =>
      have hnone : Notified.of [] = c.notified := hquiet.symm
      rw [hnone]
      rfl
  | append_singleton ks k ih =>
      have hfresh : k ∉ ks := (List.nodup_cons.mp (List.nodup_append_comm.mp hnodup)).1
      have hbefore := ih (hnodup.sublist (List.sublist_append_left ks [k]))
        (Notified.isComplete_of_eq_false hfresh)
      rw [hearAll_concat, hbefore, hear_seenAfter hkind hselection hcomposing hfresh]
      simp only [hopen, Bool.false_eq_true, if_false, toldAfter_concat hfresh]

/-- **The whole round**, in any order: all is copied, told, and then judged. -/
lemma hearAll_of_perm (horder : order.Perm Notice.all) :
    c.hearAll source order = (((c.refreshed source).selectionChanged source).1,
      told source .field ++ ((c.refreshed source).selectionChanged source).2) := by
  have hnodup : order.Nodup := horder.nodup_iff.mpr (by decide)
  have hmem : ∀ k, k ∈ order := fun k => horder.mem_iff.mpr (by cases k <;> decide)
  obtain rfl | ⟨ks, k, rfl⟩ := List.eq_nil_or_concat' order
  · cases horder.length_eq
  · have hfresh : k ∉ ks := (List.nodup_cons.mp (List.nodup_append_comm.mp hnodup)).1
    have hopen := hearAll_open hkind hselection hcomposing hquiet
      (hnodup.sublist (List.sublist_append_left ks [k])) (Notified.isComplete_of_eq_false hfresh)
    have hall : (Notified.of (ks ++ [k])).isComplete = true := Notified.isComplete_of_iff.mpr hmem
    have hseen : c.seenAfter source (ks ++ [k]) = c.refreshed source := if_pos (hmem .field)
    have htold : toldAfter source (ks ++ [k]) = told source .field := if_pos (hmem .field)
    rw [hearAll_concat, hopen, hear_seenAfter hkind hselection hcomposing hfresh, if_pos hall,
      hseen, ← List.append_assoc, toldAfter_concat hfresh, htold]

end Quiet

/-- Nothing keeps a round from being complete if nothing is composed, or if there was a selection
before. -/
lemma isComposing_eq_false {field : TextFieldState} (hfield : source.field = some field)
    (h : field.composition = none ∨ c.previousEmpty = false) : c.isComposing source = false := by
  rcases h with hnone | hprevious
  · simp [isComposing, hfield, hnone]
  · simp [isComposing, hprevious]

/-- **From a quiet start the order of the notifications does not matter.**  Let a field have the
focus, let there be a selection, maybe an empty one, and let nothing be composed unless there was
selected text before.  Then in all six orders the three notifications make the same context of a
quiet one, it is quiet again, and they raise the same signals in the same sequence.  A change of the
selection is signalled once, and anything else is not. -/
theorem order_of_notices_is_free {c : TextContext} {source : TextSource} {field : TextFieldState}
    {order order' : List Notice} (hquiet : c.notified = {}) (hfield : source.field = some field)
    (hkind : field.kind ≠ .none) (hselection : source.selection.isSome)
    (hcomposed : field.composition = none ∨ c.previousEmpty = false)
    (horder : order.Perm Notice.all) (horder' : order'.Perm Notice.all) :
    c.hearAll source order = c.hearAll source order' ∧
    (c.hearAll source order).1.notified = {} ∧
    (c.hearAll source order).2.count .selectionChanged
      = if c.memory.isNews source then 1 else 0 := by
  have hfocus := TextSource.kind_ne_none hfield hkind
  have hcomposing := isComposing_eq_false hfield hcomposed
  have hround := hearAll_of_perm hfocus hselection hcomposing hquiet horder
  refine ⟨?_, ?_, ?_⟩
  · rw [hround, hearAll_of_perm hfocus hselection hcomposing hquiet horder']
  · rw [hround, selectionChanged_notified]
  · have hsame : (c.refreshed source).memory = c.memory := sees_memory c source .field
    rw [hround, List.count_append, count_told, Nat.zero_add, count_selectionChanged hfocus, hsame]
    cases c.memory.isNews source <;> rfl

/-- A word was selected and signalled. -/
def wordSignalled : TextContext :=
  (({} : TextContext).hearAll selectedWord Notice.all).1

/-- It is composed over, and only a caret is left. -/
def composedOver : TextSource where
  field := some
    { kind := .text, value := "ha world", composition := some ⟨0, 2⟩, selection := .collapsed 2 }
  selection := some { range := .collapsed 2, offset := 0, text := "" }

theorem order_of_notices_is_free_composedOver :
    (wordSignalled.notified = {} ∧ wordSignalled.previousEmpty = false) ∧
    wordSignalled.hearAll composedOver [.bounds, .field, .selection]
      = wordSignalled.hearAll composedOver Notice.all ∧
    (wordSignalled.hearAll composedOver [.bounds, .field, .selection]).2.count .selectionChanged
      = 1 := by
  have hquiet : wordSignalled.notified = {} := by decide
  have hprevious : wordSignalled.previousEmpty = false := by decide
  have hnews : wordSignalled.memory.isNews composedOver = true := by decide
  have hfield : composedOver.field = some _ := rfl
  have horder : List.Perm [.bounds, .field, .selection] Notice.all := by decide
  obtain ⟨hsame, -, hcount⟩ := order_of_notices_is_free hquiet hfield (by decide) rfl
    (.inr hprevious) horder (List.Perm.refl _)
  rw [hnews, if_pos rfl] at hcount
  exact ⟨⟨hquiet, hprevious⟩, hsame, hcount⟩

/-! ## From any start -/

lemma rounds_hearAll (hkind : source.kind ≠ .none) (hselection : source.selection.isSome)
    (hcomposition : ∀ field ∈ source.field, field.composition = none) (c : TextContext)
    (ks : List Notice) :
    c.rounds (ks.map fun k => .notice k source) = c.notified.rounds ks := by
  induction ks generalizing c with
  | nil => rfl
  | cons k rest ih =>
      have hcomposing : c.isComposing source = false := by
        cases hfield : source.field with
        | none => simp [isComposing, hfield]
        | some field => simp [isComposing, hfield, hcomposition field hfield]
      have hnoted := noted_eq_take hselection hcomposing k
      rw [List.map_cons, rounds, completes, hnoted, respond, ih, hear_notified c hkind, hnoted]
      rfl

/-- If nothing is composed, the rounds can be counted without the texts. -/
lemma judges_hearAll (hkind : source.kind ≠ .none) (hselection : source.selection.isSome)
    (hcomposition : ∀ field ∈ source.field, field.composition = none) (c : TextContext)
    (ks : List Notice) : c.Judges source (c.notified.rounds ks) (c.hearAll source ks) := by
  have hcalls : ∀ call ∈ ks.map fun k => Call.notice k source, call.IsFrom source := by
    simp [Call.IsFrom]
  rw [← rounds_hearAll hkind hselection hcomposition c ks]
  exact c.judges_run hkind hcalls

/-- A selection with these ends is signalled once, and it is remembered. -/
structure Signals (ends : Nat × Nat) (heard : TextContext × List TextSignal) : Prop where
  once : heard.2.count .selectionChanged = 1
  anchor : heard.1.anchorInSelection = some ends.1
  cursor : heard.1.cursorInSelection = some ends.2

/-- Selected text is news unless both its ends are remembered. -/
lemma isNews_eq_false_iff {selection : TextSelection}
    (hselection : source.selection = some selection) (htext : selection.text ≠ "") :
    c.memory.isNews source = false ↔
      c.anchorInSelection = some (selectionEnds source selection).1 ∧
      c.cursorInSelection = some (selectionEnds source selection).2 := by
  have hselected := TextSource.selectedText_isEmpty hselection htext
  simp [Memory.isNews, memory, hselection, hselected]

/-- **News is signalled by the first round that is complete.** -/
lemma signals_of_rounds {selection : TextSelection} (hkind : source.kind ≠ .none)
    (hselection : source.selection = some selection) (htext : selection.text ≠ "")
    (hcomposition : ∀ field ∈ source.field, field.composition = none)
    (hnews : c.memory.isNews source = true) (hrounds : 0 < c.notified.rounds ks) :
    Signals (selectionEnds source selection) (c.hearAll source ks) := by
  have hjudges := judges_hearAll hkind (by simp [hselection]) hcomposition c ks
  obtain ⟨hanchor, hcursor⟩ := (isNews_eq_false_iff hselection htext).mp (hjudges.known hrounds)
  refine ⟨?_, hanchor, hcursor⟩
  rw [hjudges.count, hnews, if_pos rfl]
  omega

/-- **A change of the selection is signalled, unless notifications are lost.**  Take any context,
with whatever was left over, and let a field have the focus in which nothing is composed and text is
selected, with ends that are not both remembered.  Let the three notifications come once each.

If the content of the field was noted before and comes between the others, and the last of them was
not noted before, then nothing is signalled and the memory stays.  The one that came first has to
come once more, and then the change is signalled and its ends are remembered.  In every other case
it is signalled once, and its ends are remembered. -/
theorem change_signalled_unless_restarted {c : TextContext} {source : TextSource}
    {field : TextFieldState} {selection : TextSelection} {order : List Notice}
    (hfield : source.field = some field) (hkind : field.kind ≠ .none)
    (hcomposition : field.composition = none) (hselection : source.selection = some selection)
    (htext : selection.text ≠ "")
    (hnew : ¬ (c.anchorInSelection = some (selectionEnds source selection).1 ∧
      c.cursorInSelection = some (selectionEnds source selection).2))
    (horder : order.Perm Notice.all) :
    (c.notified.restartsIn order = false →
      Signals (selectionEnds source selection) (c.hearAll source order)) ∧
    (c.notified.restartsIn order = true →
      .selectionChanged ∉ (c.hearAll source order).2 ∧
      (c.hearAll source order).1.memory = c.memory ∧
      Signals (selectionEnds source selection) (c.hearAll source (order ++ order.take 1))) := by
  have hfocus := TextSource.kind_ne_none hfield hkind
  have hplain : ∀ other ∈ source.field, other.composition = none := by
    simpa [hfield] using hcomposition
  have hnews : c.memory.isNews source = true :=
    Bool.ne_false_iff.mp ((isNews_eq_false_iff hselection htext).not.mpr hnew)
  obtain ⟨hrounds, hagain⟩ := c.notified.rounds_of_perm horder
  constructor
  · intro hstays
    refine signals_of_rounds hfocus hselection htext hplain hnews ?_
    simp [hrounds, hstays]
  · intro hrestarts
    have hjudges := judges_hearAll hfocus (by simp [hselection]) hplain c order
    rw [hrounds, hrestarts] at hjudges
    refine ⟨hjudges.notMem, hjudges.kept rfl, ?_⟩
    refine signals_of_rounds hfocus hselection htext hplain hnews ?_
    simp [hagain hrestarts]

/-- The content of the field was notified alone, while only the caret stood in it. -/
def fieldAlone : List Call :=
  [.notice .field { field := some { kind := .text, value := "hello world" } }]

theorem change_signalled_unless_restarted_fieldAlone :
    let c := (({} : TextContext).run fieldAlone).1
    c.notified = { state := true } ∧
    ¬ (c.anchorInSelection = some 0 ∧ c.cursorInSelection = some 5) ∧
    Signals (0, 5) (c.hearAll selectedWord [.bounds, .selection, .field]) ∧
    .selectionChanged ∉ (c.hearAll selectedWord [.selection, .field, .bounds]).2 ∧
    Signals (0, 5) (c.hearAll selectedWord [.selection, .field, .bounds, .selection]) := by
  intro c
  have hnew : ¬ (c.anchorInSelection = some 0 ∧ c.cursorInSelection = some 5) := by decide
  have hfield : selectedWord.field = some _ := rfl
  have hlast : List.Perm [.bounds, .selection, .field] Notice.all := by decide
  have hbetween : List.Perm [.selection, .field, .bounds] Notice.all := by decide
  have hsignalled := change_signalled_unless_restarted hfield (by decide) rfl rfl (by decide) hnew
    hlast
  have hlost := change_signalled_unless_restarted hfield (by decide) rfl rfl (by decide) hnew
    hbetween
  obtain ⟨hsilent, -, hagain⟩ := hlost.2 (by decide)
  exact ⟨by decide, hnew, hsignalled.1 (by decide), hsilent, hagain⟩

/-- **A change of the selection is lost.**  The content of the field was notified before.  Then text
is selected in it, with nothing composed, and the three notifications come once each, with the
content of the field between the others.  Nothing is signalled, and nothing is remembered. -/
theorem field_between_loses_change :
    let c := (({} : TextContext).run fieldAlone).1
    let heard := c.hearAll selectedWord [.selection, .field, .bounds]
    (selectedWord.kind = .text ∧ selectedWord.field.map (·.composition) = some none ∧
      selectedWord.selectedText = "hello" ∧
      selectedWord.selection.map (selectionEnds selectedWord) = some (0, 5)) ∧
    (c.anchorInSelection = none ∧ c.cursorInSelection = none) ∧
    heard.2 = [] ∧ (heard.1.anchorInSelection = none ∧ heard.1.cursorInSelection = none) ∧
    heard.1.notified = { state := true, bounds := true } := by
  decide

end TextContext

end ViewInput
