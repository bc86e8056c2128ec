import ViewInput.Proofs.Touch.Allocation
import ViewInput.Proofs.Touch.Closing

/-!
# The grouping and the tracker agree on who is down

The grouping remembers the fingers that are down by their points, and the tracker by their slots.
Nobody compares the two.  **They are the same after every batch** that the tracker answers, whatever
the fingers report and whatever the selection controller claims (`same_fingers`): a batch lists every
finger that was down, so that what it does not release is all that is down.

With no finger down every slot is free.
-/

namespace ViewInput.Touch

open Device (TouchBatch TouchPoint)
open Grouping (Dated Drops batchOf closeEach remaining)
open Slots (fingersOf releasedFingers)

namespace Tracker

variable {t : Tracker} {offer : Offer} {live : List TouchPoint}

/-- The tracker after each batch of a stream. -/
def states : Tracker → List Offer → List Tracker
  | _, [] => []
  | t, offer :: rest => t.after offer :: (t.after offer).states rest

/-- **The slots hold just the fingers of some points.** -/
structure Agrees (t : Tracker) (live : List TouchPoint) : Prop where
  valid : t.slots.Valid
  fingers : t.slots.fingers.Perm (fingersOf live)

lemma agrees_empty : ({} : Tracker).Agrees [] := ⟨Slots.valid_empty, .refl _⟩

/-- With no finger down every slot is free. -/
lemma Agrees.slots_eq_empty (h : t.Agrees []) : t.slots = .empty :=
  Slots.eq_of_bindings_eq h.valid Slots.valid_empty (List.map_eq_nil_iff.mp h.fingers.eq_nil)

/-! ## One batch -/

lemma settle_slots_eq (t : Tracker) (kind : Device.TouchKind) (contacts : List Contact) :
    (t.settle kind contacts).slots = if kind = .cancelled
      then t.slots.releaseAll (contacts.map (·.point.finger)) else t.slots := by
  cases kind <;> rfl

/-- What the controller answers makes no difference to the slots, and a cancellation frees those of
every finger that it lists. -/
lemma slots_of_answer {s : Sequenced} (hans : t.answer offer = .ok s)
    {contacts : List Contact} {slots : Slots}
    (hbind : t.slots.bindBatch offer.batch.points = .ok (contacts, slots)) (hne : contacts ≠ []) :
    s.tracker.slots = if offer.batch.kind = .cancelled
      then slots.releaseAll ((deliveryOrder contacts).map (·.point.finger)) else slots := by
  obtain ⟨action, hprobe⟩ := probe?_of_contacts offer.batch.kind t.previous hne
  simp only [answer, sequence, hbind, hprobe] at hans
  split at hans
  · rw [← Except.ok.inj hans]
    exact settle_slots_eq _ _ _
  · split at hans
    · rw [← Except.ok.inj hans]
      exact settle_slots_eq _ _ _
    · rw [← Except.ok.inj hans]
      exact settle_slots_eq _ _ _

/-- **The fingers that are bound after a batch** are those that were and those that it lists, without
those that it releases or cancels. -/
lemma fingers_of_answer (h : t.slots.Valid) {s : Sequenced} (hans : t.answer offer = .ok s)
    (hne : offer.batch.points ≠ []) :
    s.tracker.slots.Valid ∧ ∀ f, f ∈ s.tracker.slots.fingers ↔
      (f ∈ t.slots.fingers ∨ f ∈ fingersOf offer.batch.points) ∧
        f ∉ releasedFingers offer.batch.points ∧
        (offer.batch.kind = .cancelled → f ∉ fingersOf offer.batch.points) := by
  cases hall : t.slots.bindAll offer.batch.points with
  | error e => simp [answer, sequence, Slots.bindBatch, hall] at hans
  | ok bound =>
      obtain ⟨contacts, mid⟩ := bound
      have hb := Slots.bindAll_bound h hall
      have hcontacts : contacts ≠ [] := by
        rintro rfl
        exact hne hb.points_eq.symm
      have hbind : t.slots.bindBatch offer.batch.points
          = .ok (contacts, mid.releaseAll (releasedFingers offer.batch.points)) := by
        rw [Slots.bindBatch, hall]
      have hmid := Slots.valid_releaseAll hb.valid (releasedFingers offer.batch.points)
      have hlisted : ∀ f, f ∈ (deliveryOrder contacts).map (·.point.finger)
          ↔ f ∈ fingersOf offer.batch.points := by
        intro f
        rw [((deliveryOrder_perm contacts).map _).mem_iff, ← hb.points_eq, fingersOf, List.map_map]
        rfl
      rw [slots_of_answer hans hbind hcontacts]
      split
      · rename_i hkind
        refine ⟨Slots.valid_releaseAll hmid _, fun f => ?_⟩
        rw [Slots.mem_fingers_releaseAll hmid, Slots.mem_fingers_releaseAll hb.valid,
          hb.mem_fingers_iff, hlisted, and_assoc]
        simp only [hkind, true_implies]
      · rename_i hkind
        refine ⟨hmid, fun f => ?_⟩
        rw [Slots.mem_fingers_releaseAll hb.valid, hb.mem_fingers_iff]
        simp only [hkind, false_implies, and_true]

/-- **The batch of a group** leaves the slots to the fingers that it leaves down: it lists every
finger that was down before. -/
theorem Agrees.answer (h : t.Agrees live) (hlive : (fingersOf live).Nodup) {group : Group}
    (hgroup : (fingersOf group.points).Nodup) (hkept : ¬ Drops live group) {timestamp : Nat}
    (hbatch : offer.batch = batchOf live group timestamp) {s : Sequenced}
    (hans : t.answer offer = .ok s) : s.tracker.Agrees (remaining offer.batch) := by
  have hdistinct : (fingersOf offer.batch.points).Nodup := by
    rw [hbatch]
    exact nodup_append_carried hlive hgroup
  have hne : offer.batch.points ≠ [] := by
    rw [hbatch]
    exact fun hnil => hkept (Or.inl (List.append_eq_nil_iff.mp hnil).1)
  obtain ⟨hvalid, hfingers⟩ := fingers_of_answer h.valid hans hne
  refine ⟨hvalid, (List.perm_ext_iff_of_nodup hvalid.fingers_nodup
    (Grouping.nodup_remaining hdistinct)).mpr fun f => ?_⟩
  have hlisted : f ∈ fingersOf live → f ∈ fingersOf offer.batch.points := by
    rw [hbatch]
    exact fun hf => (mem_append_carried_iff f).mpr (Or.inr hf)
  have hreleased : f ∈ releasedFingers offer.batch.points
      ↔ stateOf? f offer.batch.points = some .released := mem_pointsIn_iff hdistinct
  rw [hfingers, Grouping.mem_remaining_iff hdistinct, h.fingers.mem_iff, hreleased]
  tauto

/-! ## A whole run -/

/-- **Groups of any reports**, closed one after another: the tracker agrees after each batch. -/
theorem Agrees.states (h : t.Agrees live) (hlive : (fingersOf live).Nodup) {groups : List Dated}
    (hgroups : ∀ dated ∈ groups, (fingersOf dated.1.points).Nodup) {offers : List Offer}
    (hoffers : offers.map (·.batch) = (closeEach live groups).map Prod.fst)
    (hanswered : ∀ a ∈ t.answers offers, ∃ outcome, a = .ok outcome) :
    List.Forall₂ Agrees (t.states offers) ((closeEach live groups).map Prod.snd) := by
  induction groups generalizing t live offers with
  | nil =>
      obtain rfl : offers = [] := List.map_eq_nil_iff.mp hoffers
      exact .nil
  | cons dated rest ih =>
      obtain ⟨group, timestamp⟩ := dated
      obtain ⟨hgroup, hrest⟩ := List.forall_mem_cons.mp hgroups
      by_cases hdrops : Drops live group
      · rw [Grouping.closeEach_of_drops hdrops] at hoffers ⊢
        exact ih h hlive hrest hoffers hanswered
      · rw [Grouping.closeEach_of_not_drops hdrops] at hoffers ⊢
        obtain ⟨offer, more, rfl, hbatch, hmore⟩ := List.map_eq_cons_iff.mp hoffers
        obtain ⟨hfirst, hanswered⟩ := List.forall_mem_cons.mp hanswered
        obtain ⟨outcome, hok⟩ := hfirst
        cases hans : t.answer offer with
        | error e => simp [hans, Except.map] at hok
        | ok s =>
            have hafter : t.after offer = s.tracker := by simp only [after, hans]
            have hagrees := h.answer hlive hgroup hdrops hbatch hans
            rw [hbatch] at hagrees
            rw [hafter] at hanswered
            rw [Tracker.states, hafter]
            exact .cons hagrees (ih hagrees
              (Grouping.nodup_remaining (nodup_append_carried hlive hgroup)) hrest hmore hanswered)

end Tracker

/-- **The grouping and the tracker agree on who is down.**  Whatever the fingers report, and whatever
the controller claims: if a fresh tracker answers every batch of the run, then after each of them the
slots are bound to just the fingers that the grouping has down, once each, and with no finger down
every slot is free. -/
theorem same_fingers (inputs : List Input) {offers : List Offer}
    (hoffers : offers.map (·.batch) = Grouping.batches {} inputs)
    (hanswered : ∀ a ∈ Tracker.answers {} offers, ∃ outcome, a = .ok outcome) :
    (closeEach [] (Grouping.groups {} inputs)).map Prod.fst = Grouping.batches {} inputs ∧
      List.Forall₂
        (fun t live => t.slots.fingers.Perm (fingersOf live) ∧ (live = [] → t.slots = .empty))
        (Tracker.states {} offers) ((closeEach [] (Grouping.groups {} inputs)).map Prod.snd) := by
  have hbatches := Grouping.batches_eq {} inputs
  rw [hbatches] at hoffers
  have hagrees := Tracker.agrees_empty.states List.nodup_nil
    (Grouping.nodup_of_mem_groups inputs) hoffers hanswered
  refine ⟨hbatches.symm, hagrees.imp fun t live h => ⟨h.fingers, ?_⟩⟩
  rintro rfl
  exact h.slots_eq_empty

/-- Fingers that report as they should not: one moves before it goes down and then goes down twice,
another goes up without having come, and a cancellation comes between. -/
def unruly : List Input :=
  [reportOf 1 .moved, .deliver 0, reportOf 1 .started, reportOf 2 .ended, reportOf 1 .started,
   .deliver 1, reportOf 3 .started, reportOf 3 .started, reportOf 3 .ended, .deliver 2,
   reportOf 4 .moved, reportOf 1 .cancelled, .deliver 3, reportOf 4 .moved, .deliver 4,
   reportOf 5 .started, reportOf 4 .moved, .deliver 5]

/-- The batches of `unruly`.  The controller claims those that begin a touch. -/
def unrulyOffers : List Offer :=
  (Grouping.batches {} unruly).map fun batch =>
    { batch := batch, claimed := decide (batch.kind = .began) }

theorem same_fingers_unruly :
    unrulyOffers.map (·.batch) = Grouping.batches {} unruly ∧
      (∀ a ∈ Tracker.answers {} unrulyOffers, ∃ outcome, a = .ok outcome) ∧
      List.Forall₂
        (fun t live => t.slots.fingers.Perm (fingersOf live) ∧ (live = [] → t.slots = .empty))
        (Tracker.states {} unrulyOffers)
        ((closeEach [] (Grouping.groups {} unruly)).map Prod.snd) ∧
      (Tracker.states {} unrulyOffers).map (·.slots.fingers)
        = [[1], [1, 3], [1], [], [5, 4]] := by
  have hoffers : unrulyOffers.map (·.batch) = Grouping.batches {} unruly := by
    simp [unrulyOffers, Function.comp_def]
  have hok : ∀ a ∈ Tracker.answers {} unrulyOffers, a.isOk = true := by decide
  have hanswered : ∀ a ∈ Tracker.answers {} unrulyOffers, ∃ outcome, a = .ok outcome := by
    intro a ha
    cases a with
    | ok outcome => exact ⟨outcome, rfl⟩
    | error e => exact absurd (hok _ ha) Bool.false_ne_true
  exact ⟨hoffers, hanswered, (same_fingers unruly hoffers hanswered).2, by decide⟩

end ViewInput.Touch
