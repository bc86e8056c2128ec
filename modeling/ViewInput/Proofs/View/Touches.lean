import ViewInput.Proofs.Touch.Backlog
import ViewInput.Proofs.View.Runs

/-!
# Touches that are over

A view keeps two notions of a touch that is going on.  The tracker's is over with every batch that
ends or cancels.  The menu's, for which it is held back, is over **only if the page hears of the
end** (`View.touchDown_iff_of_ends`): a finger that the selection controller claims as it goes up
leaves the menu held back, with no finger down.

So the menu is held back only by a touch that is going on, just if the page hears every end of a
touch for which the menu is held back (`View.held_back_iff_ends_heard`).
-/

namespace ViewInput

open Device (TouchBatch)

namespace SelectionMenu

lemma update_touchDown (m : SelectionMenu) (layout : SelectionLayout) :
    (m.update layout).1.touchDown = m.touchDown := by
  unfold update
  split <;> rfl

/-- No other move of the menu has to do with touches. -/
lemma Move.touchDown {m m' : SelectionMenu} {actions : List MenuAction} (h : m.Move m' actions) :
    m'.touchDown = m.touchDown := by
  cases h with
  | silent actions hsilent => rfl
  | noted requested draggingHandle layout => exact update_touchDown _ layout
  | scrolled scrolling layout => exact update_touchDown _ layout

end SelectionMenu

namespace View

/-! ## Turns about touches -/

/-- **A turn that ends a touch**, by a batch that the view takes. -/
structure Ends (v : View) (t : Turn) (batch : TouchBatch) : Prop where
  call : t.call = .device (.touch batch)
  seen : v.skipsTouch batch = false
  taken : (v.take t).answer = .ok true
  ends : batch.kind.ends = true

/-- Whether the page hears of a batch. -/
def Hears (v : View) (t : Turn) (batch : TouchBatch) : Prop :=
  v.touch.Hears (v.offerOf t.surroundings t.now batch)

variable {v : View} {t : Turn} {batch : TouchBatch} {q : Touch.Sequenced}

lemma hears_of_taken (htaken : v.taken? t = some (batch, q)) :
    q.outcome.heard = true ↔ v.Hears t batch :=
  (Touch.Tracker.leaves_of_answer ((v.taken?_eq_some_iff).mp htaken).2.2).heard

lemma started_of_taken (htaken : v.taken? t = some (batch, q)) :
    q.tracker.started = (!batch.kind.ends && (q.outcome.heard || v.touch.started)) :=
  (Touch.Tracker.leaves_of_answer ((v.taken?_eq_some_iff).mp htaken).2.2).started

/-- The menu notices a touch that begins or ends if the page hears of it. -/
lemma menuAfter_touchDown (v : View) (s : Surroundings) (kind : Device.TouchKind)
    (outcome : Touch.Outcome) : (v.menuAfter s kind outcome).1.touchDown
      = if outcome.heard = true ∧ kind ≠ .updated then !kind.ends else v.menu.touchDown := by
  cases outcome with
  | ignored | consumed => rfl
  | motion events =>
      cases kind with
      | updated => rfl
      | began | ended | cancelled => exact SelectionMenu.update_touchDown _ s.layout

lemma acknowledge_started (v : View) (id : Page.EventId) :
    (v.acknowledge id).view.touch.started = v.touch.started := by
  unfold acknowledge
  simp only
  split
  · rfl
  · rcases Touch.Tracker.acknowledge_cases v.touch id with ⟨-, heq⟩ | ⟨_, _, -, heq⟩ <;> simp [heq]

/-- What the menu makes of a batch. -/
lemma Answered.touchDown {o : Outcome} (h : Answered v t.surroundings batch q o) :
    o.view.menu.touchDown = if q.outcome.heard = true ∧ batch.kind ≠ .updated
      then !batch.kind.ends else v.menu.touchDown := by
  have hmenu := congrArg (fun both => both.1.touchDown) h.menu
  rw [menuAfter_touchDown] at hmenu
  exact hmenu

/-- A turn that ends a touch is answered by the tracker. -/
lemma Ends.exists_taken (h : v.Ends t batch) : ∃ q, v.taken? t = some (batch, q) ∧
    Answered v t.surroundings batch q (v.take t) := by
  obtain ⟨hcall, hseen, hanswer, -⟩ := h
  obtain ⟨call, s, now⟩ := t
  obtain rfl : call = .device (.touch batch) := hcall
  cases hans : v.touch.answer (v.offerOf s now batch) with
  | error e =>
      have herror := (v.aside_touchBatch s now hseen hans).2
      exact absurd (herror.symm.trans hanswer) (by simp)
  | ok q =>
      exact ⟨q, v.taken?_eq_some_iff.mpr ⟨rfl, hseen, hans⟩, v.answered_touchBatch s now hseen hans⟩

/-! ## The end of a touch -/

/-- **The end of a touch**: it is over for the tracker, and for the menu if the page hears of it. -/
theorem touch_of_ends (h : v.Ends t batch) : (v.take t).view.touch.started = false ∧
    ((v.take t).view.menu.touchDown = true ↔ v.menu.touchDown = true ∧ ¬ v.Hears t batch) := by
  obtain ⟨q, htaken, hanswered⟩ := h.exists_taken
  have hkind : batch.kind ≠ .updated := fun hkind => by
    simpa [hkind, Device.TouchKind.ends] using h.ends
  rw [hanswered.kept.touch, hanswered.touchDown, ← hears_of_taken htaken]
  refine ⟨by simp [started_of_taken htaken, h.ends], ?_⟩
  cases q.outcome.heard <;> simp [hkind, h.ends]

/-- A turn keeps the menu from being held back by a touch that is over, unless it ends a touch of
which the page does not hear. -/
theorem held_back_take (hheld : v.menu.touchDown = true → v.touch.started = true)
    (hends : ∀ batch, v.Ends t batch → v.menu.touchDown = true → v.Hears t batch)
    (hdown : (v.take t).view.menu.touchDown = true) :
    (v.take t).view.touch.started = true := by
  have haside : ∀ {w : View} {o : Outcome}, Aside w o → w.menu = v.menu →
      w.touch.started = v.touch.started → o.view.menu.touchDown = true →
      o.view.touch.started = true := by
    intro w o ho hmenu htouch hdown
    rw [ho.kept.menu, hmenu] at hdown
    rw [ho.kept.touch, htouch]
    exact hheld hdown
  cases v.course_take t with
  | aside _ _ ho => exact haside ho rfl rfl hdown
  | press _ _ ho => exact haside ho rfl rfl hdown
  | wheel _ _ target event _ ho => exact haside ho rfl rfl hdown
  | touch _ batch q htaken ho =>
      cases hkind : batch.kind.ends with
      | true =>
          obtain ⟨hcall, hseen, -⟩ := v.taken?_eq_some_iff.mp htaken
          have hended : v.Ends t batch := ⟨hcall, hseen, ho.answer, hkind⟩
          obtain ⟨hbefore, hdeaf⟩ := (touch_of_ends hended).2.mp hdown
          exact absurd (hends batch hended hbefore) hdeaf
      | false =>
          rw [ho.kept.touch, started_of_taken htaken, hkind]
          cases hheard : q.outcome.heard with
          | true => rfl
          | false =>
              simp only [ho.touchDown, hheard, Bool.false_eq_true, false_and, if_false] at hdown
              simpa using hheld hdown
  | acknowledged _ _ id ho =>
      rw [ho] at hdown ⊢
      exact haside (aside_acknowledge v id) rfl (acknowledge_started v id) hdown
  | menu _ _ ho =>
      rw [ho.move.touchDown] at hdown
      rw [ho.kept.touch]
      exact hheld hdown
  | reset _ ho =>
      rw [ho] at hdown
      cases hdown

/-! ## Runs -/

/-- **When the menu is held back by a touch that is over.**  At any time of a run the menu is held
back only while the tracker knows of a touch, just if the page hears of every end of a touch while
the menu is held back.  And after any end of a touch the menu is held back just if it was before and
the page did not hear of it: if the selection controller claimed the batch, if the batch named no
finger, or if it cancelled a touch in which the page had no part. -/
theorem held_back_iff_ends_heard (settings : Settings) (turns : List Turn) :
    ((∀ before, before <+: turns → (after settings before).menu.touchDown = true →
        (after settings before).touch.started = true) ↔
      ∀ before t batch, before ++ [t] <+: turns → (after settings before).Ends t batch →
        (after settings before).menu.touchDown = true → (after settings before).Hears t batch) ∧
    ∀ t batch, (after settings turns).Ends t batch →
      ((after settings (turns ++ [t])).menu.touchDown = true ↔
        (after settings turns).menu.touchDown = true ∧ ¬ (after settings turns).Hears t batch) := by
  refine ⟨⟨fun hheld before t batch hbefore hends hdown => ?_, fun hheard before => ?_⟩,
    fun t batch hends => ?_⟩
  · by_contra hdeaf
    obtain ⟨hover, hstill⟩ := touch_of_ends hends
    have hstarted := hheld (before ++ [t]) hbefore
    rw [after_concat] at hstarted
    exact Bool.false_ne_true (hover.symm.trans (hstarted (hstill.mpr ⟨hdown, hdeaf⟩)))
  · induction before using List.reverseRecOn with
    | nil => exact fun _ hdown => Bool.noConfusion hdown
    | append_singleton before t ih =>
        intro hbefore
        rw [after_concat]
        exact held_back_take (ih ((List.prefix_append before [t]).trans hbefore))
          fun batch hends => hheard before t batch hbefore hends
  · rw [after_concat]
    exact (touch_of_ends hends).2

/-- Text is selected by touch, and a finger goes down. -/
def fingerDown : List Turn :=
  [quietly (.handleEvent .selectionShown), touches .began [Touch.pointAt 1 .pressed] false]

/-- The finger goes up, and the selection controller claims that. -/
def claimedLift : Turn := touches .ended [Touch.pointAt 1 .released] true

theorem held_back_iff_ends_heard_claimedLift :
    (after {} fingerDown).Ends claimedLift
      { kind := .ended, points := [Touch.pointAt 1 .released] } ∧
    (after {} (fingerDown ++ [claimedLift])).menu.touchDown = true ∧
    ¬ ∀ before, before <+: fingerDown ++ [claimedLift] →
      (after {} before).menu.touchDown = true → (after {} before).touch.started = true := by
  have hends : (after {} fingerDown).Ends claimedLift
      { kind := .ended, points := [Touch.pointAt 1 .released] } :=
    ⟨rfl, rfl, rfl, rfl⟩
  have hdown : (after {} fingerDown).menu.touchDown = true := by decide
  have hdeaf : ¬ (after {} fingerDown).Hears claimedLift
      { kind := .ended, points := [Touch.pointAt 1 .released] } :=
    fun h => Bool.noConfusion h.unclaimed
  refine ⟨hends, ((held_back_iff_ends_heard {} fingerDown).2 _ _ hends).mpr ⟨hdown, hdeaf⟩, ?_⟩
  intro hheld
  exact hdeaf ((held_back_iff_ends_heard {} (fingerDown ++ [claimedLift])).1.mp hheld fingerDown
    claimedLift _ (List.prefix_refl _) hends hdown)

/-- **The menu is wanted, nothing goes on, and it stays hidden.**  The finger for which it is held
back is up. -/
theorem claimed_lift_holds_back :
    let v := after {} (fingerDown ++ [claimedLift])
    v.menu.touchDown = true ∧ v.touch.started = false ∧ v.touch.slots.bindings = [] ∧
    v.menu.requested = true ∧ v.menu.showing = false := by
  decide

end View

end ViewInput
