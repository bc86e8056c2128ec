import Mathlib.Data.List.Infix
import ViewInput.Proofs.Touch.Allocation
import ViewInput.Proofs.Touch.Stream

/-!
# What the page hears, and what it has not acknowledged

The page hears of a batch unless the selection controller claims it, unless there is nothing to
show, and unless it cancels a touch in which the page has no part (`Tracker.Hears`).

Each motion event gets an id of its own and waits for its acknowledgement.  **The ids that wait are
in the order in which they were given out**: an answer adds later ones at the end
(`Tracker.Leaves.suffix`), and what is dropped or acknowledged goes from the front.
-/

namespace ViewInput

/-- Whether a batch of this kind ends a touch. -/
def Device.TouchKind.ends : Device.TouchKind → Bool
  | .ended | .cancelled => true
  | .began | .updated => false

namespace Touch

open Device (TouchKind)
open Page (EventId)

/-- Whether a batch became motion events. -/
def Outcome.heard : Outcome → Bool
  | .motion _ => true
  | .ignored | .consumed => false

lemma Outcome.events_of_not_heard {outcome : Outcome} (h : outcome.heard = false) :
    outcome.events = [] := by
  cases outcome with
  | motion events => cases h
  | ignored | consumed => rfl

/-- Ids count up from event to event. -/
lemma map_id_events (modifiers : Page.Modifiers) (time : Nat) (drafts : List Draft) (id : EventId) :
    (events modifiers time drafts id).map (·.id) = List.range' id drafts.length := by
  induction drafts generalizing id with
  | nil => rfl
  | cons d rest ih => simp [events, Draft.event, ih, List.range'_succ]

lemma length_events (modifiers : Page.Modifiers) (time : Nat) (drafts : List Draft)
    (id : EventId) : (events modifiers time drafts id).length = drafts.length := by
  simpa using congrArg List.length (map_id_events modifiers time drafts id)

namespace Tracker

/-! ## What an answer leaves -/

/-- **The page hears of a batch.** -/
structure Hears (t : Tracker) (offer : Offer) : Prop where
  unclaimed : offer.claimed = false
  /-- A cancellation without fingers means those of the batch before. -/
  shown : offer.batch.points ≠ [] ∨ offer.batch.kind = .cancelled ∧ t.previous ≠ []
  taking : offer.batch.kind = .cancelled → t.started = true

/-- What an answer leaves behind, besides slots and fingers. -/
structure Leaves (t : Tracker) (offer : Offer) (q : Sequenced) : Prop where
  heard : q.outcome.heard = true ↔ t.Hears offer
  started : q.tracker.started = (!offer.batch.kind.ends && (q.outcome.heard || t.started))
  waiting : q.tracker.unacknowledged = if q.outcome.heard
    then keepNewest (t.unacknowledged ++ q.outcome.events.map (·.id)) else t.unacknowledged
  ids : ∃ first, offer.id ≤ first ∧ q.nextId = first + q.outcome.events.length ∧
    q.outcome.events.map (·.id) = List.range' first q.outcome.events.length

variable {t : Tracker} {offer : Offer} {q : Sequenced}

lemma settle_started (t : Tracker) (kind : TouchKind) (contacts : List Contact) :
    (t.settle kind contacts).started = (!kind.ends && t.started) := by
  cases kind <;> rfl

lemma settle_unacknowledged (t : Tracker) (kind : TouchKind) (contacts : List Contact) :
    (t.settle kind contacts).unacknowledged = t.unacknowledged := by
  cases kind <;> rfl

/-- Something is shown if there are fingers, or if a cancellation means those of the batch
before. -/
lemma probe?_eq_none_iff {kind : TouchKind} {contacts previous : List Contact} :
    probe? kind (deliveryOrder contacts) previous = none ↔
      contacts = [] ∧ ¬ (kind = .cancelled ∧ previous ≠ []) := by
  cases contacts with
  | nil =>
      have hnil : deliveryOrder [] = [] := rfl
      simp [hnil, probe?]
  | cons c rest =>
      obtain ⟨action, hprobe⟩ := probe?_of_contacts kind previous (List.cons_ne_nil c rest)
      simp [hprobe]

/-- **Every finger of a batch is bound**, in the order of the batch. -/
lemma map_point_of_bindBatch {s slots : Slots} {points : List Device.TouchPoint}
    {bound : List Contact} (hbind : s.bindBatch points = .ok (bound, slots)) :
    bound.map (·.point) = points := by
  cases hall : s.bindAll points with
  | error e => simp [Slots.bindBatch, hall] at hbind
  | ok both =>
      simp only [Slots.bindBatch, hall, Except.ok.injEq, Prod.mk.injEq] at hbind
      rw [← hbind.1]
      exact Slots.map_point_of_bindAll hall

lemma bound_eq_nil_iff {s slots : Slots} {points : List Device.TouchPoint} {bound : List Contact}
    (hbind : s.bindBatch points = .ok (bound, slots)) : bound = [] ↔ points = [] := by
  rw [← map_point_of_bindBatch hbind, List.map_eq_nil_iff]

/-- What is left of a batch of which the page does not hear. -/
lemma leaves_of_not_hears (hdeaf : ¬ t.Hears offer) (slots : Slots) (contacts : List Contact)
    (probe : Option Page.MotionEvent) {outcome : Outcome} {next : EventId}
    (hheard : outcome.heard = false) (hnext : offer.id ≤ next) : Leaves t offer
      ⟨Tracker.settle { t with slots := slots } offer.batch.kind contacts, probe, outcome, next⟩ where
  heard := iff_of_false (by simp [hheard]) hdeaf
  started := by rw [settle_started, hheard, Bool.false_or]
  waiting := by rw [settle_unacknowledged, hheard, if_neg Bool.false_ne_true]
  ids := ⟨next, hnext, by simp [outcome.events_of_not_heard hheard],
    by simp [outcome.events_of_not_heard hheard]⟩

/-- **What an answer leaves.** -/
theorem leaves_of_answer (hans : t.answer offer = .ok q) : Leaves t offer q := by
  cases hbind : t.slots.bindBatch offer.batch.points with
  | error e => simp [answer, sequence, hbind] at hans
  | ok bound =>
      obtain ⟨contacts, slots⟩ := bound
      have hpoints := bound_eq_nil_iff hbind
      cases hprobe : probe? offer.batch.kind (deliveryOrder contacts) t.previous with
      | none =>
          obtain ⟨hnil, hcancel⟩ := probe?_eq_none_iff.mp hprobe
          have hdeaf : ¬ t.Hears offer := fun h => h.shown.elim (· (hpoints.mp hnil)) hcancel
          simp only [answer, sequence, hbind, hprobe] at hans
          rw [← Except.ok.inj hans]
          exact leaves_of_not_hears hdeaf slots _ none rfl le_rfl
      | some shown =>
          have hshown : offer.batch.points ≠ [] ∨
              offer.batch.kind = .cancelled ∧ t.previous ≠ [] := by
            by_contra hnot
            rw [not_or, not_not] at hnot
            have hnone := probe?_eq_none_iff.mpr ⟨hpoints.mpr hnot.1, hnot.2⟩
            exact Option.some_ne_none shown (hprobe.symm.trans hnone)
          simp only [answer, sequence, hbind, hprobe] at hans
          split at hans
          · rename_i hclaimed
            have hdeaf : ¬ t.Hears offer := fun h => by simpa [hclaimed] using h.unclaimed
            rw [← Except.ok.inj hans]
            exact leaves_of_not_hears hdeaf slots _ _ rfl (Nat.le_succ _)
          · rename_i hopen
            split at hans
            · rename_i hout
              have hdeaf : ¬ t.Hears offer := fun h => by simpa [hout.2] using h.taking hout.1
              rw [← Except.ok.inj hans]
              exact leaves_of_not_hears hdeaf slots _ _ rfl (Nat.le_succ _)
            · rename_i hout
              have hhears : t.Hears offer := ⟨by simpa using hopen, hshown, fun hkind => by
                simpa using fun hstarted => hout ⟨hkind, hstarted⟩⟩
              rw [← Except.ok.inj hans]
              refine ⟨iff_of_true rfl hhears, ?_, ?_, offer.id + 1, Nat.le_succ _, rfl, ?_⟩
              · rw [settle_started]
                cases offer.batch.kind <;> simp [Device.TouchKind.ends, Outcome.heard]
              · simp only [settle_unacknowledged, Outcome.heard, Outcome.events, if_true]
              · rw [Outcome.events, map_id_events, length_events]

/-! ## The ids that wait -/

/-- Of the ids that wait after an answer, the new ones come last. -/
lemma Leaves.suffix (h : Leaves t offer q) : ∃ first count, offer.id ≤ first ∧
    q.nextId = first + count ∧
    q.tracker.unacknowledged <:+ t.unacknowledged ++ List.range' first count := by
  obtain ⟨first, hfirst, hnext, hids⟩ := h.ids
  refine ⟨first, _, hfirst, hnext, ?_⟩
  rw [h.waiting, ← hids]
  cases hheard : q.outcome.heard with
  | true =>
      rw [if_pos rfl, keepNewest]
      exact List.drop_suffix _ _
  | false => simp [q.outcome.events_of_not_heard hheard]

/-- **An acknowledgement** takes its id and the older ones, and nothing else. -/
lemma acknowledge_cases (t : Tracker) (id : EventId) :
    (id ∉ t.unacknowledged ∧ (t.acknowledge id).1 = t) ∨
    ∃ older newer, t.unacknowledged = older ++ id :: newer ∧
      (t.acknowledge id).1 = { t with unacknowledged := newer } := by
  by_cases hid : id ∈ t.unacknowledged
  · obtain ⟨older, newer, heq, hnot⟩ := List.eq_append_cons_of_mem hid
    have hpast : ∀ a ∈ older, (a != id) = true := fun a ha =>
      bne_iff_ne.mpr fun h => hnot (h ▸ ha)
    refine Or.inr ⟨older, newer, heq, ?_⟩
    rw [acknowledge, if_pos (List.contains_iff_mem.mpr hid), heq,
      List.dropWhile_append_of_pos hpast, List.dropWhile_cons_of_neg (by simp), List.drop_one,
      List.tail_cons]
  · exact Or.inl ⟨hid, by simp [acknowledge, hid]⟩

end Tracker

end Touch

end ViewInput
