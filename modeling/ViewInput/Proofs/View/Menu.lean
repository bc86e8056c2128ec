import Mathlib.Data.List.Chain
import ViewInput.Proofs.View.Runs

/-!
# The menu and its host

The host of the selection menu is told to show it and to hide it, and the selection controller is
told to hide its handles while the page scrolls.  Neither is ever asked what it does, so the view
has to remember.  **What it remembers is what they were told** (`SelectionMenu.Told`), and after every
call the menu is shown just when it is to be (`SelectionMenu.Mirrored`).

Everything that touches the menu ends in an update, and an update settles it whatever came before
(`Told.update`).  So a call keeps the mirror, and a run without a fresh start does
(`host_follows_menu`).
-/

namespace ViewInput

namespace SelectionMenu

/-! ## What was told -/

/-- What the host displays, from the start: no menu at first, then what each call makes of it. -/
def displays (log : List MenuAction) : List Bool := false :: log.filterMap MenuAction.shows?

/-- Whether the handles are hidden, from the start. -/
def handlesHidden (log : List MenuAction) : List Bool :=
  false :: log.filterMap MenuAction.hidesHandles?

lemma displays_append (log more : List MenuAction) :
    displays (log ++ more) = displays log ++ more.filterMap MenuAction.shows? := by
  simp [displays]

lemma handlesHidden_append (log more : List MenuAction) :
    handlesHidden (log ++ more) = handlesHidden log ++ more.filterMap MenuAction.hidesHandles? := by
  simp [handlesHidden]

/-- **What was told is what the menu remembers.**  Every call of the host changed what it
displays. -/
structure Told (m : SelectionMenu) (log : List MenuAction) : Prop where
  changes : (displays log).IsChain (· ≠ ·)
  displayed : (displays log).getLast? = some m.showing
  hidden : (handlesHidden log).getLast? = some m.scrolling

/-- The menu is shown just when it is to be. -/
structure Mirrored (m : SelectionMenu) (log : List MenuAction) : Prop extends Told m log where
  settled : m.showing = m.shouldShow

variable {m m' : SelectionMenu} {log actions : List MenuAction}

lemma mirrored_new : Mirrored {} [] where
  changes := .singleton false
  displayed := rfl
  hidden := rfl
  settled := rfl

/-- What the host and the controller do not hear of changes nothing between them. -/
lemma Told.silent (h : Told m log)
    (hsilent : ∀ a ∈ actions, a.shows? = none ∧ a.hidesHandles? = none) :
    Told m (log ++ actions) := by
  have hshows : actions.filterMap MenuAction.shows? = [] :=
    List.filterMap_eq_nil_iff.mpr fun a ha => (hsilent a ha).1
  have hhides : actions.filterMap MenuAction.hidesHandles? = [] :=
    List.filterMap_eq_nil_iff.mpr fun a ha => (hsilent a ha).2
  refine ⟨?_, ?_, ?_⟩
  · rw [displays_append, hshows, List.append_nil]
    exact h.changes
  · rw [displays_append, hshows, List.append_nil]
    exact h.displayed
  · rw [handlesHidden_append, hhides, List.append_nil]
    exact h.hidden

lemma Told.scrolled (h : Told m log) (scrolling : Bool) :
    Told { m with scrolling := scrolling } (log ++ [.hideHandles scrolling]) := by
  have hshows : [MenuAction.hideHandles scrolling].filterMap MenuAction.shows? = [] := rfl
  refine ⟨?_, ?_, ?_⟩
  · rw [displays_append, hshows, List.append_nil]
    exact h.changes
  · rw [displays_append, hshows, List.append_nil]
    exact h.displayed
  · simp [handlesHidden_append, MenuAction.hidesHandles?]

/-- The host is told of a change. -/
lemma Told.shown (h : Told m log) {action : MenuAction} {showing : Bool}
    (haction : action.shows? = some showing) (hhandles : action.hidesHandles? = none)
    (hchange : m.showing ≠ showing) :
    Told { m with showing := showing } (log ++ [action]) where
  changes := by
    have hshows : [action].filterMap MenuAction.shows? = [showing] := by simp [haction]
    rw [displays_append, hshows]
    refine List.isChain_append.mpr ⟨h.changes, .singleton showing, fun last hlast next hnext => ?_⟩
    rw [h.displayed] at hlast
    cases hlast
    cases hnext
    exact hchange
  displayed := by simp [displays_append, haction]
  hidden := by simpa [handlesHidden_append, hhandles] using h.hidden

/-- **An update settles the menu**, whatever else has changed. -/
lemma Told.update (h : Told m log) (layout : SelectionLayout) :
    Mirrored (m.update layout).1 (log ++ (m.update layout).2) := by
  unfold SelectionMenu.update
  split
  · rename_i hsettled
    exact ⟨h.silent (by simp), hsettled.symm⟩
  · rename_i hunsettled
    refine ⟨h.shown ?_ ?_ (Ne.symm hunsettled), rfl⟩
    · cases m.shouldShow <;> rfl
    · cases m.shouldShow <;> rfl

/-- What is wanted, dragged or touched is no matter of the host's. -/
lemma Told.of_eq (h : Told m log) (hshowing : m'.showing = m.showing)
    (hscrolling : m'.scrolling = m.scrolling) : Told m' log :=
  ⟨h.changes, hshowing ▸ h.displayed, hscrolling ▸ h.hidden⟩

/-! ## What happens to the menu -/

lemma Mirrored.touched (h : Mirrored m log) (touchDown : Bool) (layout : SelectionLayout) :
    Mirrored ({ m with touchDown := touchDown }.update layout).1
      (log ++ ({ m with touchDown := touchDown }.update layout).2) := by
  have htold : Told { m with touchDown := touchDown } log := h.toTold.of_eq rfl rfl
  exact htold.update layout

lemma Mirrored.move (h : Mirrored m log) (hmove : m.Move m' actions) :
    Mirrored m' (log ++ actions) := by
  cases hmove with
  | silent actions hsilent => exact ⟨h.toTold.silent hsilent, h.settled⟩
  | noted requested draggingHandle layout =>
      have htold : Told { m with requested := requested, draggingHandle := draggingHandle } log :=
        h.toTold.of_eq rfl rfl
      exact htold.update layout
  | scrolled scrolling layout =>
      have hupdate := (h.toTold.scrolled scrolling).update layout
      rwa [List.append_assoc] at hupdate

end SelectionMenu

/-! ## Runs -/

namespace View

open SelectionMenu (Mirrored displays handlesHidden)

variable {v : View} {log : List MenuAction}

lemma mirrored_menuAfter (h : Mirrored v.menu log) (s : Surroundings) (kind : Device.TouchKind)
    (outcome : Touch.Outcome) :
    Mirrored (v.menuAfter s kind outcome).1 (log ++ (v.menuAfter s kind outcome).2) := by
  have hsame : Mirrored v.menu (log ++ []) := (List.append_nil log).symm ▸ h
  cases outcome with
  | ignored | consumed => exact hsame
  | motion events =>
      cases kind with
      | began => exact h.touched true s.layout
      | updated => exact hsame
      | ended | cancelled => exact h.touched false s.layout

/-- One turn keeps the mirror, unless it is a fresh start. -/
theorem mirrored_take (h : Mirrored v.menu log) {t : Turn} (hcall : t.call ≠ .reset) :
    Mirrored (v.take t).view.menu (log ++ menuActions (v.take t).effects) := by
  have haside : ∀ {w : View} {o : Outcome}, Aside w o → w.menu = v.menu →
      Mirrored o.view.menu (log ++ menuActions o.effects) := by
    intro w o ho hw
    rw [ho.quiet, List.append_nil, ho.kept.menu, hw]
    exact h
  cases v.course_take t with
  | aside _ _ ho => exact haside ho rfl
  | press _ _ ho => exact haside ho rfl
  | wheel _ _ target event _ ho => exact haside ho rfl
  | touch _ batch q _ ho =>
      have hmenu := mirrored_menuAfter h t.surroundings batch.kind q.outcome
      rw [← ho.menu] at hmenu
      exact hmenu
  | acknowledged _ _ id ho =>
      rw [ho]
      exact haside (aside_acknowledge v id) rfl
  | menu _ _ ho => exact h.move ho.move
  | reset hreset => exact absurd hreset hcall

lemma mirrored_history (settings : Settings) (turns : List Turn)
    (hgoing : ∀ t ∈ turns, t.call ≠ .reset) :
    Mirrored (history settings turns).view.menu (menuActions (history settings turns).log) := by
  induction turns using List.reverseRecOn with
  | nil => exact SelectionMenu.mirrored_new
  | append_singleton turns t ih =>
      have hbefore := ih fun t ht => hgoing t (List.mem_append_left _ ht)
      have hcall := hgoing t (List.mem_append_right _ (List.mem_singleton_self t))
      rw [history_concat, History.next, menuActions_append]
      exact mirrored_take hbefore hcall

/-- **The host follows the menu.**  In a run without a fresh start, whatever is called: the menu is
shown just when it is to be, every call of its host changes what the host displays, beginning with
no menu, so that calls to show and to hide it take turns; the host displays what the view believes;
and the controller hides its handles just while the page scrolls. -/
theorem host_follows_menu (settings : Settings) (turns : List Turn)
    (hgoing : ∀ t ∈ turns, t.call ≠ .reset) :
    let h := history settings turns
    h.view.menu.showing = h.view.menu.shouldShow ∧
    (displays (menuActions h.log)).IsChain (· ≠ ·) ∧
    (displays (menuActions h.log)).getLast? = some h.view.menu.showing ∧
    (handlesHidden (menuActions h.log)).getLast? = some h.view.menu.scrolling := by
  have h := mirrored_history settings turns hgoing
  exact ⟨h.settled, h.changes, h.displayed, h.hidden⟩

/-- A gesture of the touchscreen, at a place that says nothing. -/
def touchscreen (kind : Page.GestureKind) : Turn :=
  quietly (.engineGesture
    { kind := kind, source := .touchscreen, position := .zero, globalPosition := .zero
      modifiers := {}, time := 0 })

/-- Text is selected by touch and the page scrolls.  Then too many fingers come at once, a handle is
dragged, and the controller claims a finger before it goes up. -/
def busySelection : List Turn :=
  [quietly (.handleEvent .selectionShown), touches .began [Touch.pointAt 1 .pressed] false,
   touchscreen .scrollBegin, touches .ended [Touch.pointAt 1 .released] false,
   touches .began ((List.range 17).map fun i => Touch.pointAt i .pressed) false,
   quietly .flingStopped, quietly (.handleEvent .selectionDragStarted), quietly (.command .copy),
   quietly (.handleEvent .selectionDragStopped), touches .began [Touch.pointAt 1 .pressed] false,
   touches .updated [Touch.pointAt 1 .updated] true,
   touches .ended [Touch.pointAt 1 .released] false, quietly (.handleEvent .insertionTapped)]

theorem host_follows_menu_busySelection :
    (∀ t ∈ busySelection, t.call ≠ .reset) ∧
    (displays (menuActions (history {} busySelection).log)).IsChain (· ≠ ·) ∧
    (displays (menuActions (history {} busySelection).log)).getLast?
      = some (history {} busySelection).view.menu.showing ∧
    displays (menuActions (history {} busySelection).log)
      = [false, true, false, true, false, true, false, true, false] := by
  have hgoing : ∀ t ∈ busySelection, t.call ≠ .reset := by
    simp [busySelection, quietly, touches, touchscreen]
  obtain ⟨-, hchanges, hdisplayed, -⟩ := host_follows_menu {} busySelection hgoing
  exact ⟨hgoing, hchanges, hdisplayed, by decide⟩

end View

end ViewInput
