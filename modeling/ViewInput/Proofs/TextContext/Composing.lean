import ViewInput.Proofs.TextContext.Rounds

/-!
# Notifications while something is composed

What an input method composes stands in the field, with the caret behind it, and so the engine
reports changes of the selection all the time.  **None of them is signalled** as long as no text was
selected before (`composing_is_not_signalled`): the content of the field makes an end of every
round, and as it is never noted, no round is ever complete.

What is composed is no part of the text around the caret.  `withoutRange_eq` says what is left.
-/

namespace ViewInput

/-! ## The text around the composition -/

/-- The entries of a list that is counted from `k` which stand outside of an interval. -/
lemma map_fst_filter_zipIdx {α : Type} (l : List α) (k : Nat) (range : TextRange) :
    ((l.zipIdx k).filter fun (_, i) => !range.contains i).map (·.1)
      = l.take (range.start - k) ++ l.drop (max range.start range.stop - k) := by
  induction l generalizing k with
  | nil => simp
  | cons a l ih =>
      rcases Nat.lt_or_ge k range.start with hbefore | hstart
      · -- The entry comes before the interval, and both cuts are further on.
        have houtside : range.contains k = false := by
          simp [TextRange.contains]
          omega
        have htake : range.start - k = range.start - (k + 1) + 1 := by omega
        have hdrop : max range.start range.stop - k
            = max range.start range.stop - (k + 1) + 1 := by omega
        simp [List.zipIdx_cons, houtside, ih, htake, hdrop]
      · have htake : range.start - k = 0 := by omega
        have htake' : range.start - (k + 1) = 0 := by omega
        rcases Nat.lt_or_ge k range.stop with hinside | hbehind
        · have hcontains : range.contains k = true := by simp [TextRange.contains, hstart, hinside]
          have hdrop : max range.start range.stop - k
              = max range.start range.stop - (k + 1) + 1 := by omega
          simp [List.zipIdx_cons, hcontains, ih, htake, htake', hdrop]
        · have houtside : range.contains k = false := by simp [TextRange.contains, hbehind]
          have hdrop : max range.start range.stop - k = 0 := by omega
          have hdrop' : max range.start range.stop - (k + 1) = 0 := by omega
          simp [List.zipIdx_cons, houtside, ih, htake, htake', hdrop, hdrop']

/-- **A text without an interval** is what comes before it and what comes after it. -/
lemma withoutRange_eq (value : String) (range : TextRange) :
    withoutRange value range = String.ofList (value.toList.take range.start
      ++ value.toList.drop (max range.start range.stop)) := by
  rw [withoutRange, map_fst_filter_zipIdx, Nat.sub_zero, Nat.sub_zero]

namespace TextContext

/-! ## One call -/

/-- What a call is while something is composed: a field has the focus, and its content has a part
that is composed whenever it is notified. -/
def Call.Composes : Call → Prop
  | .notice .field source => source.kind ≠ .none ∧ ∃ field ∈ source.field, field.composition.isSome
  | .notice _ source => source.kind ≠ .none
  | .forget => True

/-- **Nothing can be signalled**: no text was selected, and the content of the field is not
noted. -/
structure Silent (c : TextContext) : Prop where
  previous : c.previousEmpty = true
  unnoted : c.notified.state = false

variable {c : TextContext} {source : TextSource}

lemma Call.Composes.kind_ne_none {k : Notice} (h : (Call.notice k source).Composes) :
    source.kind ≠ .none := by
  cases k with
  | field => exact h.1
  | selection => exact h
  | bounds => exact h

/-- No notification completes a round, since the content of the field is never noted. -/
lemma Silent.noted (h : c.Silent) {k : Notice} (hcomposes : (Call.notice k source).Composes) :
    (c.noted source k).2 = false ∧ (c.noted source k).1.state = false := by
  cases k with
  | field =>
      obtain ⟨field, hfield, hcomposition⟩ := hcomposes.2
      have hcomposing : c.isComposing source = true := by
        rw [Option.mem_def] at hfield
        simp [isComposing, hfield, hcomposition, h.previous]
      simp [TextContext.noted, hcomposing, h.unnoted]
  | selection =>
      cases hselection : source.selection <;>
        simp [TextContext.noted, hselection, Notified.take, Notified.add, Notified.mark,
          Notified.isComplete, h.unnoted]
  | bounds =>
      simp [TextContext.noted, Notified.take, Notified.add, Notified.mark, Notified.isComplete,
        h.unnoted]

lemma Silent.respond (h : c.Silent) {call : Call} (hcomposes : call.Composes) :
    (c.respond call).1.Silent ∧ (c.respond call).1.memory = c.memory ∧
      .selectionChanged ∉ (c.respond call).2 := by
  cases call with
  | forget => exact ⟨⟨h.previous, rfl⟩, rfl, by simp [TextContext.respond]⟩
  | notice k source =>
      obtain ⟨hopen, hstate⟩ := h.noted hcomposes
      have hkind := hcomposes.kind_ne_none
      have hjudges := c.judges_hear hkind k
      rw [hopen] at hjudges
      have hmemory := hjudges.kept rfl
      have hprevious : (c.hear source k).1.previousEmpty = true :=
        (congrArg Memory.wasEmpty hmemory).trans h.previous
      have hunnoted : (c.hear source k).1.notified.state = false := by
        rw [hear_notified c hkind, hstate]
      exact ⟨⟨hprevious, hunnoted⟩, hmemory, hjudges.notMem⟩

/-- The content of the field is copied without what is composed. -/
lemma Silent.surrounding (h : c.Silent) {field : TextFieldState} {range : TextRange}
    (hcomposes : (Call.notice .field source).Composes) (hfield : source.field = some field)
    (hrange : field.composition = some range) :
    (c.respond (.notice .field source)).1.surrounding = withoutRange field.value range := by
  rw [TextContext.respond, hear_eq c hcomposes.kind_ne_none]
  simp [settle, (h.noted hcomposes).1, sees, refreshed, copyField, hfield, hrange]

/-! ## Runs -/

lemma Silent.run (h : c.Silent) {calls : List Call} (hcalls : ∀ call ∈ calls, call.Composes) :
    (c.run calls).1.Silent ∧ (c.run calls).1.memory = c.memory ∧
      .selectionChanged ∉ (c.run calls).2 := by
  induction calls generalizing c with
  | nil => exact ⟨h, rfl, List.not_mem_nil⟩
  | cons call rest ih =>
      obtain ⟨hcall, hrest⟩ := List.forall_mem_cons.mp hcalls
      obtain ⟨hsilent, hmemory, hunsaid⟩ := h.respond hcall
      obtain ⟨hend, hsame, hstill⟩ := ih hsilent hrest
      exact ⟨hend, hsame.trans hmemory, List.not_mem_append hunsaid hstill⟩

/-- **While something is composed no change of the selection is signalled.**  Start with a context
that remembers no selected text and has not noted the content of the field.  Take a run in which
notifications come and are forgotten at will, and the engine says what it likes, but always that a
field has the focus, and with its content that a part of it is composed.

Then a change of the selection is never signalled, and what is remembered of the selection is the
same at any time of the run.  Each time the content of the field is notified, the text around the
caret is what it says without the part that is composed. -/
theorem composing_is_not_signalled {c : TextContext} {calls : List Call}
    (hprevious : c.previousEmpty = true) (hunnoted : c.notified.state = false)
    (hcalls : ∀ call ∈ calls, call.Composes) :
    .selectionChanged ∉ (c.run calls).2 ∧
    (∀ before, before <+: calls →
      (c.run before).1.anchorInSelection = c.anchorInSelection ∧
      (c.run before).1.cursorInSelection = c.cursorInSelection ∧
      (c.run before).1.previousEmpty = c.previousEmpty) ∧
    ∀ before source field range, before ++ [.notice .field source] <+: calls →
      source.field = some field → field.composition = some range →
      (c.run (before ++ [.notice .field source])).1.surrounding
        = String.ofList (field.value.toList.take range.start
            ++ field.value.toList.drop (max range.start range.stop)) := by
  have hsilent : c.Silent := ⟨hprevious, hunnoted⟩
  refine ⟨(hsilent.run hcalls).2.2, fun before hbefore => ?_,
    fun before source field range hbefore hfield hrange => ?_⟩
  · have hmemory := (hsilent.run fun call hcall => hcalls call (hbefore.subset hcall)).2.1
    simpa [memory] using hmemory
  · obtain ⟨hfirst, hlast⟩ := List.forall_mem_append.mp
      fun call hcall => hcalls call (hbefore.subset hcall)
    have hmid := (hsilent.run hfirst).1
    rw [run_append, ← withoutRange_eq]
    exact hmid.surrounding (hlast _ (List.mem_singleton.mpr rfl)) hfield hrange

/-- A field of which the end is composed, with the caret behind it. -/
def composingAtEnd (value : String) (start stop : Nat) : TextSource where
  field := some
    { kind := .text, value := value, composition := some ⟨start, stop⟩
      selection := .collapsed stop }
  selection := some { range := .collapsed stop, offset := 0, text := "" }

/-- Both notifications of a selection were left over when the composition began. -/
def leftOver : TextContext := { notified := { selection := true, bounds := true } }

/-- A word is composed letter by letter, and for a moment another one is selected. -/
def typedWord : List Call :=
  [.notice .field (composingAtEnd "héllo w" 6 7), .notice .selection (composingAtEnd "héllo w" 6 7),
   .notice .bounds (composingAtEnd "héllo w" 6 7), .notice .bounds selectedWord, .forget,
   .notice .selection selectedWord, .notice .bounds selectedWord,
   .notice .field (composingAtEnd "héllo wor" 6 9)]

theorem composing_is_not_signalled_typedWord :
    (leftOver.previousEmpty = true ∧ leftOver.notified.state = false ∧
      ∀ call ∈ typedWord, call.Composes) ∧
    .selectionChanged ∉ (leftOver.run typedWord).2 ∧
    (leftOver.run typedWord).1.anchorInSelection = none ∧
    (leftOver.run typedWord).1.surrounding = "héllo " := by
  have hcalls : ∀ call ∈ typedWord, call.Composes := by
    simp [typedWord, Call.Composes, composingAtEnd, selectedWord, TextSource.kind]
  obtain ⟨hunsaid, hkept, hsurrounding⟩ :=
    composing_is_not_signalled (c := leftOver) rfl rfl hcalls
  have hend := hsurrounding (typedWord.take 7) (composingAtEnd "héllo wor" 6 9) _ ⟨6, 9⟩
    (List.prefix_refl _) rfl rfl
  have htext : String.ofList ("héllo wor".toList.take 6 ++ "héllo wor".toList.drop (max 6 9))
      = "héllo " := by decide
  exact ⟨⟨rfl, rfl, hcalls⟩, hunsaid, (hkept typedWord (List.prefix_refl _)).1, hend.trans htext⟩

end TextContext

end ViewInput
