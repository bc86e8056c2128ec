import Mathlib.Data.List.Induction
import ViewInput.Proofs.Composition.Calls

/-!
# What the engine composes

The engine composes a text from the call that sets it to the next that commits or cancels.
**Between calls the composition and the engine agree**: `Mirrors` says that the one is what the calls
made the other show, and that nothing is ever cancelled that is not shown.  Each part of the machine
keeps it, so every run does (`mirrors_history`).

A pointer that goes down is the exception.  It leaves the end of the composition to the input method,
and the engine hears of it only by the commit that follows.
-/

namespace ViewInput.Composition

open Device (InputMethodEvent KeyEvent)

/-! ## What the engine was told -/

/-- Whether the engine is told to set a composition, to commit a text or to cancel. -/
def Action.composes : Action → Bool
  | .setComposition _ _ _ _ | .commitText _ _ _ _ | .cancelComposition => true
  | .selectInEditor _ | .askCommit | .askReset | .repost _ => false

/-- The last call of the engine about a composition. -/
def latest? (log : List Action) : Option Action := (log.filter Action.composes).getLast?

/-- **What the engine composes**: the text of the last call, if that one set a composition, with its
spans and its selection. -/
def shown? (log : List Action) : Option (String × List TextSpan × TextRange) :=
  match latest? log with
  | some (.setComposition text spans _ selection) => some (text, spans, selection)
  | _ => none

/-- The texts that were committed. -/
def committed (log : List Action) : List String :=
  log.filterMap fun
    | .commitText text _ _ _ => some text
    | _ => none

/-- Whether an event commits, be it only by replacing text. -/
def commits (event : InputMethodEvent) : Bool :=
  !event.commit.isEmpty || decide (0 < event.replacementLength.toInt)

/-- The text that a call shall commit, if it is an event that commits. -/
def Call.commit? : Call → Option String
  | .event e _ => if commits e then some e.commit else none
  | _ => none

section Shown

variable (log : List Action)

lemma shown?_setComposition (text : String) (spans : List TextSpan) (replaced : Option TextRange)
    (selection : TextRange) :
    shown? (log ++ [.setComposition text spans replaced selection])
      = some (text, spans, selection) := by
  simp [shown?, latest?, Action.composes]

lemma shown?_commitText (text : String) (spans : List TextSpan) (replaced : Option TextRange)
    (caretShift : Int) : shown? (log ++ [.commitText text spans replaced caretShift]) = none := by
  simp [shown?, latest?, Action.composes]

lemma shown?_cancelComposition : shown? (log ++ [.cancelComposition]) = none := by
  simp [shown?, latest?, Action.composes]

lemma shown?_of_not_composes {a : Action} (ha : a.composes = false) :
    shown? (log ++ [a]) = shown? log := by
  simp [shown?, latest?, ha]

lemma committed_append (more : List Action) :
    committed (log ++ more) = committed log ++ committed more :=
  List.filterMap_append

end Shown

/-! ## The composition and the engine -/

/-- What a composition stands for. -/
def text? (c : Composition) : Option (String × List TextSpan × TextRange) :=
  if c.isActive then some (c.preedit, c.spans, c.selection) else none

lemma text?_idle : idle.text? = none := rfl

lemma text?_of_isActive {c : Composition} (h : c.isActive = true) :
    c.text? = some (c.preedit, c.spans, c.selection) := if_pos h

/-- **The composition and the engine agree**, and nothing was cancelled that the engine did not
compose. -/
structure Mirrors (c : Composition) (log : List Action) : Prop where
  shown : shown? log = c.text?
  cancels : ∀ first rest, log = first ++ .cancelComposition :: rest → (shown? first).isSome = true

namespace Mirrors

variable {c d : Composition} {log : List Action}

lemma start : Mirrors {} [] := ⟨rfl, fun first rest heq => by simp at heq⟩

/-- One call of the engine more.  If it cancels, there is something to cancel. -/
lemma concat (h : Mirrors c log) {a : Action} (hshown : shown? (log ++ [a]) = d.text?)
    (ha : a = .cancelComposition → c.isActive = true) : Mirrors d (log ++ [a]) where
  shown := hshown
  cancels := by
    intro first rest heq
    rcases List.eq_nil_or_concat rest with rfl | ⟨rest', b, rfl⟩
    · obtain ⟨rfl, hlast⟩ := List.append_inj' heq rfl
      rw [h.shown, text?_of_isActive (ha (List.singleton_inj.mp hlast))]
      rfl
    · rw [List.concat_eq_append, ← List.cons_append, ← List.append_assoc] at heq
      exact h.cancels first rest' (List.append_inj' heq rfl).1

/-- A call that is not about the composition. -/
lemma aside (h : Mirrors c log) {a : Action} (ha : a.composes = false) (htext : d.text? = c.text?) :
    Mirrors d (log ++ [a]) :=
  h.concat (by rw [shown?_of_not_composes log ha, h.shown, htext]) fun heq => by
    rw [heq] at ha
    cases ha

lemma of_text?_eq (h : Mirrors c log) (htext : d.text? = c.text?) : Mirrors d log :=
  ⟨h.shown.trans htext.symm, h.cancels⟩

lemma commit (h : Mirrors c log) (text : String) (spans : List TextSpan)
    (replaced : Option TextRange) : Mirrors idle (log ++ [.commitText text spans replaced 0]) :=
  h.concat (shown?_commitText log text spans replaced 0) nofun

lemma cancel (h : Mirrors c log) :
    Mirrors idle (log ++ if c.isActive then [.cancelComposition] else []) := by
  cases hactive : c.isActive with
  | false =>
      rw [if_neg (by simp), List.append_nil]
      exact h.of_text?_eq (text?_idle.trans (by simp [text?, hactive]))
  | true => exact h.concat (shown?_cancelComposition log) fun _ => hactive

/-! ## Events -/

lemma select (h : Mirrors c log) (explicit : Option TextRange) :
    Mirrors c (log ++ explicit.toList.map .selectInEditor) := by
  cases explicit with
  | none => simpa using h
  | some range => exact h.aside rfl rfl

lemma receiveEmpty (h : Mirrors c log) (event : InputMethodEvent) (hasSelection : Bool) :
    Mirrors (c.receiveEmpty event hasSelection).1
      (log ++ (c.receiveEmpty event hasSelection).2) := by
  unfold Composition.receiveEmpty
  split
  · rename_i hcomposing
    exact h.aside rfl (by simp [text?, isActive, hcomposing.1])
  · exact h.cancel

lemma receiveCommit (h : Mirrors c log) (event : InputMethodEvent) (resolved : Resolved)
    (replaced : Option TextRange) :
    Mirrors (c.receiveCommit event resolved replaced).1
      (log ++ (c.receiveCommit event resolved replaced).2) := by
  unfold Composition.receiveCommit
  split
  · exact h.commit _ _ _
  · simpa using h

lemma receivePreedit (h : Mirrors c log) (event : InputMethodEvent) (resolved : Resolved)
    (selection : TextRange) (replaced : Option TextRange) :
    Mirrors (c.receivePreedit event resolved selection replaced).1
      (log ++ (c.receivePreedit event resolved selection replaced).2) := by
  unfold Composition.receivePreedit
  split
  · simpa using h
  · exact h.concat (shown?_setComposition log _ _ _ _) nofun

lemma receive (h : Mirrors c log) (event : InputMethodEvent) (context : TextContext) :
    Mirrors (c.receive event context).1 (log ++ (c.receive event context).2) := by
  have hselect := h.select (resolve event (if 0 < event.preedit.length then event.preedit.length
    else context.surroundingLength)).selection
  unfold Composition.receive
  simp only
  split
  · rw [← List.append_assoc]
    exact hselect.receiveEmpty event _
  · -- An event that is not empty takes a composition out of doubt before anything else.
    rw [← List.append_assoc, ← List.append_assoc]
    refine ((hselect.of_text?_eq ?_).receiveCommit event _ _).receivePreedit event _ _ _
    split
    · rename_i hawaiting
      simp [text?, isActive, hawaiting]
    · rfl

/-! ## Keys -/

lemma key (h : Mirrors c log) (event : KeyEvent) :
    Mirrors (c.key event).1 (log ++ (c.key event).2.1) := by
  unfold Composition.key
  split
  · simpa using h
  · rename_i hawaiting
    have hactive : c.isActive = true := by simp [isActive, not_not.mp hawaiting]
    split
    · simpa [hactive] using h.cancel
    · split
      · simpa using h
      · exact h.commit _ _ _

end Mirrors

/-! ## Runs -/

lemma Mirrors.respond {c : Composition} {log : List Action} (h : Mirrors c log) {call : Call}
    (hpointer : call.isPointer = false) :
    Mirrors (c.respond call).1 (log ++ (c.respond call).2) := by
  cases call with
  | event event context => exact h.receive event context
  | key event => exact h.key event
  | pointer platform => cases hpointer
  | cancel => exact h.cancel

lemma mirrors_history {calls : List Call} (hpointer : ∀ call ∈ calls, call.isPointer = false) :
    Mirrors (history calls).composition (history calls).log := by
  induction calls using List.reverseRecOn with
  | nil => exact .start
  | append_singleton calls call ih =>
      rw [history_concat, History.log_next]
      exact (ih fun call' hc => hpointer call' (List.mem_append_left _ hc)).respond
        (hpointer call (by simp))

/-! ## Committed texts -/

section Committed

variable (c : Composition) (event : InputMethodEvent)

lemma committed_select (explicit : Option TextRange) :
    committed (explicit.toList.map .selectInEditor) = [] :=
  filterMap_select (fun _ => rfl) explicit

lemma committed_receiveEmpty (hasSelection : Bool) :
    committed (c.receiveEmpty event hasSelection).2 = [] :=
  filterMap_receiveEmpty c event rfl rfl hasSelection

lemma commits_iff :
    commits event = true ↔ ¬ event.commit.isEmpty ∨ 0 < event.replacementLength.toInt := by
  simp [commits]

lemma receiveCommit_of_commits (h : commits event = true) (resolved : Resolved)
    (replaced : Option TextRange) :
    c.receiveCommit event resolved replaced
      = (idle, [.commitText event.commit resolved.spans replaced 0]) :=
  if_pos ((commits_iff event).mp h)

lemma receiveCommit_of_not_commits (h : commits event = false) (resolved : Resolved)
    (replaced : Option TextRange) : c.receiveCommit event resolved replaced = (c, []) :=
  if_neg fun hcommits => by
    rw [(commits_iff event).mpr hcommits] at h
    cases h

lemma committed_receiveCommit (resolved : Resolved) (replaced : Option TextRange) :
    committed (c.receiveCommit event resolved replaced).2
      = if commits event then [event.commit] else [] := by
  cases hcommits : commits event with
  | true =>
      rw [receiveCommit_of_commits c event hcommits]
      rfl
  | false =>
      rw [receiveCommit_of_not_commits c event hcommits]
      rfl

lemma committed_receivePreedit (resolved : Resolved) (selection : TextRange)
    (replaced : Option TextRange) :
    committed (c.receivePreedit event resolved selection replaced).2 = [] :=
  filterMap_receivePreedit c event (fun _ _ _ _ => rfl) resolved selection replaced

lemma commits_of_isEmpty (h : event.isEmpty = true) : commits event = false := by
  simp only [InputMethodEvent.isEmpty, Bool.and_eq_true, beq_iff_eq] at h
  simp [commits, h]

/-- An event commits once if it commits at all. -/
lemma committed_receive (context : TextContext) :
    committed (c.receive event context).2 = if commits event then [event.commit] else [] := by
  rw [receive_told, committed_append, committed_select, List.nil_append]
  split
  · rename_i hempty
    rw [committed_receiveEmpty, commits_of_isEmpty event hempty]
    rfl
  · rw [committed_append, committed_receiveCommit, committed_receivePreedit, List.append_nil]

end Committed

lemma committed_history (calls : List Call) :
    committed (history calls).eventLog = calls.filterMap Call.commit? := by
  induction calls using List.reverseRecOn with
  | nil => rfl
  | append_singleton calls call ih =>
      rw [history_concat, History.eventLog_next, committed_append, ih, List.filterMap_append]
      congr 1
      cases call with
      | event event context =>
          simp only [Call.isEvent, if_true, respond, committed_receive]
          cases hcommits : commits event <;> simp [Call.commit?, hcommits]
      | _ => rfl

/-- **The composition mirrors the engine** after every run in which no pointer goes down.  It is
active exactly if the engine composes, with the text, the spans and the selection of the engine; the
engine is told to cancel only what it composes; and the events commit their texts in order, each of
them once. -/
theorem engine_mirrors_composition {calls : List Call}
    (hpointer : ∀ call ∈ calls, call.isPointer = false) :
    ((history calls).composition.isActive = true ↔ (shown? (history calls).log).isSome = true) ∧
    (∀ text spans selection, shown? (history calls).log = some (text, spans, selection) →
      text = (history calls).composition.preedit ∧ spans = (history calls).composition.spans ∧
        selection = (history calls).composition.selection) ∧
    (∀ first rest, (history calls).log = first ++ .cancelComposition :: rest →
      (shown? first).isSome = true) ∧
    committed (history calls).eventLog = calls.filterMap Call.commit? := by
  have h := mirrors_history hpointer
  refine ⟨?_, fun text spans selection hshown => ?_, h.cancels, committed_history calls⟩
  · rw [h.shown, text?]
    cases (history calls).composition.isActive <;> simp
  · rw [h.shown, text?] at hshown
    split at hshown
    · cases hshown
      exact ⟨rfl, rfl, rfl⟩
    · cases hshown

/-- A text is composed and committed while the next one begins.  An empty event puts that one in
doubt, and a key without identity has its text.  The last composition is put in doubt and taken out
of it again. -/
def typing : List Call :=
  [.event { preedit := "k", attributes := [.caret 0, .underline 0 1 none true] } {},
   .event { commit := "ka", preedit := "n" } {},
   .event {} {},
   .key { kind := .press, key := .none, text := "ne" },
   .key { kind := .release, key := .none, text := "ne" },
   .event { replacementStart := -1, replacementLength := 1 } { surrounding := "kane", cursor := 4 },
   .event { preedit := "mo", attributes := [.selection 0 1] } {},
   .event {} {},
   .event { replacementLength := -1 } {}]

theorem engine_mirrors_composition_typing :
    (∀ call ∈ typing, call.isPointer = false) ∧
    ((history typing).composition.isActive = true ∧
      (shown? (history typing).log).isSome = true) ∧
    (∀ text spans selection, shown? (history typing).log = some (text, spans, selection) →
      text = "mo" ∧ spans = [] ∧ selection = ⟨0, 1⟩) ∧
    committed (history typing).eventLog = ["ka", ""] := by
  have hpointer : ∀ call ∈ typing, call.isPointer = false := by
    simp [typing, Call.isPointer]
  obtain ⟨hactive, htext, -, hcommitted⟩ := engine_mirrors_composition hpointer
  have h : (history typing).composition.isActive = true := by decide
  exact ⟨hpointer, ⟨h, hactive.mp h⟩, htext, hcommitted⟩

end ViewInput.Composition
