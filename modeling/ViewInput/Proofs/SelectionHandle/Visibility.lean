import Mathlib.Data.List.Induction
import ViewInput.SelectionHandle

/-!
# What the host shows of a handle

A handle is to be seen if it is switched on and not too faint, and the host is told so.  It is told
on two occasions, and not the same on both: **a change of the opacity says whether the handle is to
be seen, but switching it on says that it is to be seen, however faint it may be**.

So it depends on what came last.  The host shows what it is to show except after a handle was
switched on at a negligible opacity, until the opacity changes or the handle is switched off
(`host_shows_visible_iff`).
-/

namespace ViewInput

/-- What the host is told of the visibility. -/
def HandleAction.visible? : HandleAction → Option Bool
  | .setVisible visible => some visible
  | .setBounds _ | .setOpacity _ | .setImage _ => none

namespace SelectionHandle

/-! ## Calls -/

/-- One call of a handle. -/
inductive Call where
  | enabled (on : Bool)
  | alpha (alpha : Float32)
  | orientation (orientation : HandleOrientation)
  | origin (origin : Point)

/-- The handle after a call, and what the host is told. -/
def respond (h : SelectionHandle) : Call → SelectionHandle × List HandleAction
  | .enabled on => h.setEnabled on
  | .alpha alpha => h.setAlpha alpha
  | .orientation orientation => h.setOrientation orientation
  | .origin origin => h.setOrigin origin

/-- A change that bears on whether the handle is to be seen. -/
inductive Change where
  | switched
  | faded
deriving DecidableEq

/-- The change that a call makes.  A call for what is already so makes none. -/
def change? (h : SelectionHandle) : Call → Option Change
  | .enabled on => if on = h.enabled then none else some .switched
  | .alpha alpha => if alpha == h.alpha then none else some .faded
  | .orientation _ | .origin _ => none

/-! ## Histories -/

/-- A handle with everything that the host was told, and with the changes in it. -/
structure History where
  handle : SelectionHandle
  log : List HandleAction := []
  changes : List Change := []

def History.next (h : History) (call : Call) : History :=
  { handle := (h.handle.respond call).1
    log := h.log ++ (h.handle.respond call).2
    changes := h.changes ++ (h.handle.change? call).toList }

/-- **The history of a run**, from a new handle for which the host has a drawable. -/
def history (images : HandleImages) (calls : List Call) : History :=
  calls.foldl History.next { handle := { hasHost := true, images := images } }

lemma history_concat (images : HandleImages) (calls : List Call) (call : Call) :
    history images (calls ++ [call]) = (history images calls).next call := by
  simp [history]

/-- **Whether the host shows the handle**: what it was told last, and not before it was told. -/
def shown (log : List HandleAction) : Bool :=
  (log.filterMap HandleAction.visible?).getLast?.getD false

lemma shown_append (log more : List HandleAction) : shown (log ++ more)
    = (more.filterMap HandleAction.visible?).getLast?.getD (shown log) := by
  rw [shown, List.filterMap_append, List.getLast?_append]
  cases (more.filterMap HandleAction.visible?).getLast? <;> rfl

/-! ## One call -/

/-- **What a call can do** to a handle that the host draws: nothing that bears on whether it is to be
seen, a switch, or a change of the opacity. -/
lemma respond_cases {h : SelectionHandle} (hhost : h.hasHost = true) (call : Call) :
    (h.change? call = none ∧ (h.respond call).1.hasHost = true ∧
      (h.respond call).1.enabled = h.enabled ∧ (h.respond call).1.alpha = h.alpha ∧
      (h.respond call).2.filterMap HandleAction.visible? = []) ∨
    (∃ on, h.change? call = some .switched ∧
      h.respond call = ({ h with enabled := on }, [.setVisible on])) ∨
    (∃ alpha, h.change? call = some .faded ∧ h.respond call = ({ h with alpha := alpha },
      [.setOpacity alpha, .setVisible { h with alpha := alpha }.isVisible])) := by
  have hdrawn : ¬ h.hasHost = false := by simp [hhost]
  cases call with
  | enabled on =>
      by_cases hsame : on = h.enabled
      · exact Or.inl (by simp [change?, respond, setEnabled, hsame, hhost])
      · exact Or.inr (Or.inl ⟨on, by simp [change?, respond, setEnabled, hsame, hhost]⟩)
  | alpha alpha =>
      cases hsame : alpha == h.alpha with
      | true => exact Or.inl (by simp [change?, respond, setAlpha, hsame, hhost])
      | false =>
          exact Or.inr (Or.inr ⟨alpha, by simp [change?, respond, setAlpha, hsame, hhost]⟩)
  | orientation orientation =>
      refine Or.inl ⟨rfl, ?_⟩
      rw [respond, setOrientation]
      split
      · exact ⟨hhost, rfl, rfl, rfl⟩
      · exact ⟨hhost, rfl, rfl, rfl⟩
  | origin origin =>
      refine Or.inl ⟨rfl, ?_⟩
      rw [respond, setOrigin, if_neg hdrawn]
      exact ⟨hhost, rfl, rfl, rfl⟩

/-- **What the host shows, by what changed last.** -/
structure Told (h : History) : Prop where
  hasHost : h.handle.hasHost = true
  shown_eq : shown h.log =
    if h.changes.getLast? = some .faded then h.handle.isVisible else h.handle.enabled

/-- **One call.** -/
lemma Told.next {h : History} (told : Told h) (call : Call) : Told (h.next call) := by
  rcases respond_cases told.hasHost call with
    ⟨hchange, hhost, henabled, halpha, hsilent⟩ | ⟨on, hchange, heq⟩ | ⟨alpha, hchange, heq⟩
  · refine ⟨hhost, ?_⟩
    have hvisible : (h.handle.respond call).1.isVisible = h.handle.isVisible := by
      rw [isVisible, henabled, halpha]
      rfl
    simp only [History.next, shown_append, hsilent, hchange, henabled, hvisible, Option.toList_none,
      List.append_nil]
    exact told.shown_eq
  · refine ⟨?_, ?_⟩
    · rw [History.next, heq]
      exact told.hasHost
    · simp [History.next, heq, hchange, shown_append, HandleAction.visible?]
  · refine ⟨?_, ?_⟩
    · rw [History.next, heq]
      exact told.hasHost
    · simp only [History.next, heq, hchange, shown_append, Option.toList_some,
        List.getLast?_concat, if_true]
      rfl

/-! ## Runs -/

lemma told_history (images : HandleImages) (calls : List Call) : Told (history images calls) := by
  induction calls using List.reverseRecOn with
  | nil => exact ⟨rfl, rfl⟩
  | append_singleton calls call ih =>
      rw [history_concat]
      exact ih.next call

/-- **When the host shows what it is to show.**  After any run of calls the host shows a handle that
is to be seen, if the last change was one of the opacity, and one that is switched on otherwise.  So
it shows the handle just if it is to be seen, unless the handle is switched on at a negligible
opacity that has not changed since.  Then the host shows what is not to be seen; it never hides what
is. -/
theorem host_shows_visible_iff (images : HandleImages) (calls : List Call) :
    let h := history images calls
    let handle := h.handle
    (shown h.log = if h.changes.getLast? = some .faded then handle.isVisible else handle.enabled) ∧
    (shown h.log = handle.isVisible ↔ ¬ (handle.enabled = true ∧
      ¬ negligibleAlpha ≤ handle.alpha.abs ∧ h.changes.getLast? ≠ some .faded)) ∧
    (handle.isVisible = true → shown h.log = true) := by
  intro h handle
  have hshown : shown h.log =
      if h.changes.getLast? = some .faded then handle.isVisible else handle.enabled :=
    (told_history images calls).shown_eq
  refine ⟨hshown, ?_, ?_⟩
  · rw [hshown]
    split
    · rename_i hfaded
      exact iff_of_true rfl fun h => h.2.2 hfaded
    · rename_i hswitched
      cases henabled : handle.enabled <;> simp [isVisible, henabled, hswitched]
  · intro hvisible
    rw [hshown]
    split
    · exact hvisible
    · exact (Bool.and_eq_true_iff.mp hvisible).1

/-- **A new handle that is switched on is shown, though it is not to be seen.** -/
theorem faint_handle_shown :
    let h := history ⟨.zero, .zero, .zero⟩ [.enabled true]
    (shown h.log = true ∧ h.handle.isVisible = false) ∧
    ¬ ∀ images calls, shown (history images calls).log = (history images calls).handle.isVisible := by
  intro h
  have hodds : shown h.log = true ∧ h.handle.isVisible = false := by decide
  refine ⟨hodds, fun hall => ?_⟩
  have hsame := hall ⟨.zero, .zero, .zero⟩ [.enabled true]
  exact Bool.noConfusion (hodds.1.symm.trans (hsame.trans hodds.2))

end SelectionHandle

end ViewInput
