import ViewInput.Proofs.Touch.Backlog
import ViewInput.Proofs.View.Runs
import ViewInput.Proofs.Wheel.Ids

/-!
# Acknowledgements and the events that they are for

An acknowledgement carries nothing but an id, and two parts of a view look for it: the lanes of the
wheel flow, and the motion events that wait.  All ids come from one counter, and **with every call
the view loses some of the ids that it keeps and gains only new ones** (`View.issues_take`).  So no
id is kept twice (`View.Dated`), and none that was acknowledged comes back.

From this it follows that an acknowledgement finds the one event that it is for
(`View.acknowledge_hits_own`).
-/

namespace ViewInput.View

open Page (EventId)
open Wheel (Flow Lane)

/-! ## The ids that a view keeps -/

/-- **The ids that a view keeps**: of wheel events and of motion events. -/
def ids (v : View) : List EventId := v.wheel.ids ++ v.touch.unacknowledged

/-- A view awaits the acknowledgement of an event. -/
def Awaits (v : View) (id : EventId) : Prop :=
  (∃ l ∈ v.wheel.lanes, l.Awaits id) ∨ id ∈ v.touch.unacknowledged

instance (v : View) (id : EventId) : Decidable (v.Awaits id) :=
  inferInstanceAs (Decidable ((∃ l ∈ v.wheel.lanes, l.Awaits id) ∨ id ∈ v.touch.unacknowledged))

/-- **No id is kept twice**, and all of them are older than the next. -/
structure Dated (v : View) : Prop where
  steady : v.wheel.Steady
  nodup : v.ids.Nodup
  old : ∀ id ∈ v.ids, id < v.nextId

/-- What a call may do to the ids that are kept: some go, and new ones come. -/
structure Issues (v v' : View) : Prop where
  steady : v'.wheel.Steady
  ids : ∃ first count, v.nextId ≤ first ∧ first + count ≤ v'.nextId ∧
    v'.ids.Subperm (v.ids ++ List.range' first count)

variable {v v' : View} {id : EventId}

lemma Awaits.mem_ids (h : v.Awaits id) : id ∈ v.ids := by
  rcases h with ⟨l, hl, hawaits⟩ | hid
  · exact List.mem_append_left _ (List.mem_flatMap.mpr ⟨l, hl, hawaits.mem_ids⟩)
  · exact List.mem_append_right _ hid

lemma Issues.of_subperm (hsteady : v'.wheel.Steady) (hids : v'.ids.Subperm v.ids)
    (hnext : v'.nextId = v.nextId) : Issues v v' :=
  ⟨hsteady, v.nextId, 0, le_rfl, hnext.ge, by simpa using hids⟩

lemma Issues.of_eq (hsteady : v.wheel.Steady) (hwheel : v'.wheel = v.wheel)
    (htouch : v'.touch = v.touch) (hnext : v'.nextId = v.nextId) : Issues v v' := by
  refine .of_subperm (hwheel ▸ hsteady) ?_ hnext
  rw [View.ids, hwheel, htouch]
  exact List.Subperm.refl _

lemma Issues.nextId_le (h : Issues v v') : v.nextId ≤ v'.nextId := by
  obtain ⟨first, count, hfirst, hnext, -⟩ := h.ids
  exact hfirst.trans ((Nat.le_add_right first count).trans hnext)

/-- An id that is kept was kept before, or it is new. -/
lemma Issues.mem_ids (h : Issues v v') (hid : id ∈ v'.ids) : id ∈ v.ids ∨ v.nextId ≤ id := by
  obtain ⟨first, count, hfirst, -, hsub⟩ := h.ids
  rcases List.mem_append.mp (hsub.subset hid) with hold | hnew
  · exact Or.inl hold
  · exact Or.inr (hfirst.trans (List.mem_range'_1.mp hnew).1)

lemma nodup_of_subperm {l l' : List EventId} (hsub : l.Subperm l') (h : l'.Nodup) : l.Nodup := by
  obtain ⟨mid, hperm, hmid⟩ := hsub
  exact hperm.nodup_iff.mp (h.sublist hmid)

lemma Dated.issues (h : Dated v) (hissues : Issues v v') : Dated v' := by
  obtain ⟨first, count, hfirst, hnext, hsub⟩ := hissues.ids
  refine ⟨hissues.steady, ?_, fun id hid => ?_⟩
  · have hall : (v.ids ++ List.range' first count).Nodup := by
      refine List.nodup_append.mpr ⟨h.nodup, List.nodup_range', fun a ha b hb hab => ?_⟩
      have hnew := hfirst.trans (List.mem_range'_1.mp hb).1
      exact absurd (h.old a ha) (hab ▸ hnew.not_gt)
    exact nodup_of_subperm hsub hall
  · rcases List.mem_append.mp (hsub.subset hid) with hold | hnew
    · exact (h.old id hold).trans_le hissues.nextId_le
    · exact (List.mem_range'_1.mp hnew).2.trans_le hnext

/-! ## One turn -/

/-- What an acknowledgement does: the wheel flow takes it, or it is for the motion events. -/
lemma acknowledge_eq (v : View) (id : EventId) : v.acknowledge id =
    if (v.wheel.acknowledge id).2.2 then
      { view := { v with wheel := (v.wheel.acknowledge id).1 }
        effects := (v.wheel.acknowledge id).2.1.map fun sent => .route sent.1 (.wheel sent.2) }
    else { view := { v with touch := (v.touch.acknowledge id).1 } } := rfl

/-- An acknowledgement takes its id out of the view, if the view awaits it. -/
lemma ids_acknowledge (h : v.wheel.Steady) (id : EventId) :
    (v.acknowledge id).view.wheel.Steady ∧ (v.acknowledge id).view.nextId = v.nextId ∧
      ((¬ v.Awaits id ∧ v.acknowledge id = { view := v }) ∨
        (id :: (v.acknowledge id).view.ids).Subperm v.ids) := by
  rcases h.acknowledge id with ⟨hnone, heq⟩ | ⟨hknown, hsteady, hsub⟩
  · rw [acknowledge_eq, heq, if_neg Bool.false_ne_true]
    refine ⟨h, rfl, ?_⟩
    rcases Touch.Tracker.acknowledge_cases v.touch id
      with ⟨hnot, hsame⟩ | ⟨older, newer, hids, htouch⟩
    · rw [hsame]
      exact Or.inl ⟨fun h => h.elim (fun ⟨l, hl, hawaits⟩ => hnone l hl hawaits) hnot, rfl⟩
    · rw [View.ids, View.ids, htouch, hids]
      refine Or.inr (List.perm_middle.symm.subperm.trans ((List.subperm_append_left _).mpr ?_))
      exact (List.sublist_append_right older (id :: newer)).subperm
  · rw [acknowledge_eq, if_pos hknown]
    exact ⟨hsteady, rfl, Or.inr ((List.subperm_append_right v.touch.unacknowledged).mpr hsub)⟩

/-- **One turn** loses some ids and gains only new ones. -/
theorem issues_take (h : v.wheel.Steady) (t : Turn) : Issues v (v.take t).view := by
  cases v.course_take t with
  | aside _ _ ho => exact .of_eq h ho.kept.wheel ho.kept.touch ho.kept.nextId
  | press _ _ ho => exact .of_eq h ho.kept.wheel ho.kept.touch ho.kept.nextId
  | wheel _ _ target event hid ho =>
      obtain ⟨hsteady, hids⟩ := h.submit target event
      rw [hid] at hids
      refine ⟨ho.kept.wheel ▸ hsteady, v.nextId, 1, le_rfl, ho.kept.nextId.ge, ?_⟩
      rw [View.ids, ho.kept.wheel, ho.kept.touch, View.ids]
      refine ((List.subperm_append_right _).mpr hids).trans ?_
      rw [List.append_assoc, List.append_assoc]
      exact (List.perm_append_comm.append_left v.wheel.ids).subperm
  | touch _ batch q htaken ho =>
      obtain ⟨-, -, hans⟩ := v.taken?_eq_some_iff.mp htaken
      obtain ⟨first, count, hfirst, hnext, hsuffix⟩ := (Touch.Tracker.leaves_of_answer hans).suffix
      refine ⟨ho.kept.wheel ▸ h, first, count, hfirst, (ho.kept.nextId.trans hnext).ge, ?_⟩
      rw [View.ids, ho.kept.wheel, ho.kept.touch, View.ids, List.append_assoc]
      exact (hsuffix.sublist.append_left v.wheel.ids).subperm
  | acknowledged _ _ id ho =>
      rw [ho]
      obtain ⟨hsteady, hnext, hids⟩ := ids_acknowledge h id
      refine .of_subperm hsteady ?_ hnext
      rcases hids with ⟨-, hsame⟩ | hids
      · rw [hsame]
      · exact List.Subperm.cons_self.trans hids
  | menu _ _ ho => exact .of_eq h ho.kept.wheel ho.kept.touch ho.kept.nextId
  | reset _ ho =>
      rw [ho]
      obtain ⟨hsteady, hids⟩ := h.reset
      have hnone : v.reset.ids = v.wheel.reset.ids := List.append_nil _
      refine .of_subperm hsteady ?_ rfl
      rw [hnone]
      exact hids.trans (List.sublist_append_left _ v.touch.unacknowledged).subperm

/-! ## Runs -/

lemma dated_after (settings : Settings) (turns : List Turn) : Dated (after settings turns) := by
  induction turns using List.reverseRecOn with
  | nil => exact ⟨Wheel.Flow.steady_empty, List.nodup_nil, List.forall_mem_nil _⟩
  | append_singleton turns t ih =>
      rw [after_concat]
      exact ih.issues (issues_take ih.steady t)

/-- **No id comes back**: what is kept later was kept before, or it is new. -/
lemma ids_later (settings : Settings) (turns later : List Turn) :
    (after settings turns).nextId ≤ (after settings (turns ++ later)).nextId ∧
      ∀ id ∈ (after settings (turns ++ later)).ids,
        id ∈ (after settings turns).ids ∨ (after settings turns).nextId ≤ id := by
  induction later using List.reverseRecOn with
  | nil =>
      rw [List.append_nil]
      exact ⟨le_rfl, fun id hid => Or.inl hid⟩
  | append_singleton later t ih =>
      have hissues := issues_take (dated_after settings (turns ++ later)).steady t
      rw [← List.append_assoc, after_concat]
      refine ⟨ih.1.trans hissues.nextId_le, fun id hid => ?_⟩
      rcases hissues.mem_ids hid with hold | hnew
      · exact ih.2 id hold
      · exact Or.inr (ih.1.trans hnew)

/-! ## An acknowledgement -/

/-- An id that the view does not await means nothing. -/
lemma acknowledge_of_not_awaits (hnot : ¬ v.Awaits id) : v.acknowledge id = { view := v } := by
  obtain ⟨hlanes, hbacklog⟩ := not_or.mp hnot
  have hnone : ∀ l ∈ v.wheel.lanes, ¬ l.Awaits id := fun l hl hawaits => hlanes ⟨l, hl, hawaits⟩
  rw [acknowledge_eq, Flow.acknowledge_of_not_awaits hnone, if_neg Bool.false_ne_true]
  rcases Touch.Tracker.acknowledge_cases v.touch id with ⟨-, hsame⟩ | ⟨older, newer, hids, -⟩
  · rw [hsame]
  · exact absurd (by simp [hids]) hbacklog

lemma acknowledge_of_lane (h : Dated v) {l : Lane} (hl : l ∈ v.wheel.lanes)
    (hawaits : l.Awaits id) : ∃ before after l' sent, v.wheel.lanes = before ++ l :: after ∧
      l'.target = l.target ∧ l.waiting = sent ++ l'.waiting ∧ v.acknowledge id =
        { view := { v with wheel := { lanes := before ++ l' :: after } }
          effects := sent.map fun event => .route l.target (.wheel event) } := by
  have hids : v.wheel.ids.Nodup := (List.nodup_append.mp h.nodup).1
  obtain ⟨before, after, l', sent, hlanes, htarget, hwaiting, heq⟩ :=
    Flow.acknowledge_of_awaits hids hl hawaits
  refine ⟨before, after, l', sent, hlanes, htarget, hwaiting, ?_⟩
  rw [acknowledge_eq, heq, if_pos rfl, List.map_map]
  rfl

lemma acknowledge_of_backlog (h : Dated v) (hid : id ∈ v.touch.unacknowledged) :
    ∃ older newer, v.touch.unacknowledged = older ++ id :: newer ∧ v.acknowledge id =
      { view := { v with touch := { v.touch with unacknowledged := newer } } } := by
  have hnone : ∀ l ∈ v.wheel.lanes, ¬ l.Awaits id := fun l hl hawaits =>
    (List.nodup_append.mp h.nodup).2.2 id (List.mem_flatMap.mpr ⟨l, hl, hawaits.mem_ids⟩) id hid rfl
  rcases Touch.Tracker.acknowledge_cases v.touch id with ⟨hnot, -⟩ | ⟨older, newer, hids, heq⟩
  · exact absurd hid hnot
  · refine ⟨older, newer, hids, ?_⟩
    rw [acknowledge_eq, Flow.acknowledge_of_not_awaits hnone, if_neg Bool.false_ne_true, heq]

/-- An id that was acknowledged is not awaited again. -/
lemma not_awaits_later (settings : Settings) (turns later : List Turn) {t : Turn}
    (hcall : t.call = .acknowledge id) (hawaits : (after settings turns).Awaits id) :
    ¬ (after settings (turns ++ t :: later)).Awaits id := by
  have hdated := dated_after settings turns
  have hstep : after settings (turns ++ [t]) = ((after settings turns).acknowledge id).view := by
    rw [after_concat, take, hcall]
    rfl
  obtain ⟨-, hnext, hids⟩ := ids_acknowledge hdated.steady id
  have hgone := nodup_of_subperm (hids.resolve_left fun h => h.1 hawaits) hdated.nodup
  intro hlater
  rw [List.append_cons] at hlater
  rcases (ids_later settings (turns ++ [t]) later).2 id hlater.mem_ids with hkept | hnew
  · rw [hstep] at hkept
    exact (List.nodup_cons.mp hgone).1 hkept
  · rw [hstep, hnext] at hnew
    exact absurd (hdated.old id hawaits.mem_ids) hnew.not_gt

/-- **An acknowledgement hits its own event**, in every run and for every id.  An id that the view
does not await changes nothing and sends nothing.  An id that the lane of a frame awaits changes
that lane alone, and sends only what waits in it.  An id of a motion event takes it and the older
ones from those that wait.  And an id that was acknowledged means nothing from then on. -/
theorem acknowledge_hits_own (settings : Settings) (turns : List Turn) (id : EventId) :
    let v := after settings turns
    (¬ v.Awaits id → v.acknowledge id = { view := v }) ∧
    (∀ l ∈ v.wheel.lanes, l.Awaits id → ∃ before after l' sent,
      v.wheel.lanes = before ++ l :: after ∧ l'.target = l.target ∧
      l.waiting = sent ++ l'.waiting ∧ v.acknowledge id =
        { view := { v with wheel := { lanes := before ++ l' :: after } }
          effects := sent.map fun event => .route l.target (.wheel event) }) ∧
    (id ∈ v.touch.unacknowledged → ∃ older newer,
      v.touch.unacknowledged = older ++ id :: newer ∧ v.acknowledge id =
        { view := { v with touch := { v.touch with unacknowledged := newer } } }) ∧
    ∀ (t : Turn) (later : List Turn), t.call = .acknowledge id → v.Awaits id ∨ later = [] →
      let w := after settings (turns ++ t :: later)
      w.acknowledge id = { view := w } := by
  have hdated := dated_after settings turns
  refine ⟨acknowledge_of_not_awaits, fun l hl hawaits => acknowledge_of_lane hdated hl hawaits,
    acknowledge_of_backlog hdated, fun t later hcall hagain => ?_⟩
  refine acknowledge_of_not_awaits ?_
  by_cases hawaits : (after settings turns).Awaits id
  · exact not_awaits_later settings turns later hcall hawaits
  · -- The first acknowledgement meant nothing, and the second comes right after it.
    obtain rfl := hagain.resolve_left hawaits
    rw [after_concat, take, hcall, step, acknowledge_of_not_awaits hawaits]
    exact hawaits

/-- A turn of the wheel over a frame. -/
def wheels (slot : Nat) : Turn :=
  { call := .device (.wheel { angleDelta := .zero, position := .zero, globalPosition := .zero })
    surroundings := { quietScene with target := .frame slot 1 } }

/-- Two frames scroll, the first of them with more to come, and a finger goes down. -/
def scrollsAndTouch : List Turn :=
  [wheels 1, wheels 2, wheels 1, touches .began [Touch.pointAt 1 .pressed] false]

theorem acknowledge_hits_own_scrollsAndTouch :
    let v := after {} scrollsAndTouch
    (v.Awaits 1 ∧ v.Awaits 2 ∧ v.Awaits 5) ∧
    v.acknowledge 3 = { view := v } ∧
    (∃ older newer, v.touch.unacknowledged = older ++ 5 :: newer ∧ v.acknowledge 5 =
      { view := { v with touch := { v.touch with unacknowledged := newer } } }) ∧
    let w := after {} (scrollsAndTouch ++ [quietly (.acknowledge 1), wheels 1])
    w.acknowledge 1 = { view := w } := by
  refine ⟨by decide, (acknowledge_hits_own {} scrollsAndTouch 3).1 (by decide),
    (acknowledge_hits_own {} scrollsAndTouch 5).2.2.1 (by decide), ?_⟩
  exact (acknowledge_hits_own {} scrollsAndTouch 1).2.2.2 (quietly (.acknowledge 1)) [wheels 1] rfl
    (Or.inl (by decide))

end ViewInput.View
