import ViewInput.Proofs.Touch.Hands

/-!
# Streams of touch batches

A toolkit that keeps to the touch protocol sends batches that say one by one which fingers are down
(`WellFormed`).  **The motion events of such a stream are a story**: every event names exactly the
fingers that are down, and no finger goes down or up twice (`motion_story`).

The invariant behind it is `Tracker.Knows`: what the tracker remembers between two batches is which
fingers are down, by their slots and by the fingers of the last batch.  One batch keeps it
(`Knows.answer`), and so does a whole stream (`Knows.run`).
-/

namespace ViewInput.Touch

open Device (TouchBatch TouchKind TouchPoint TouchState)
open Page (EventId MotionEvent)
open Slots (fingersOf)

/-! ## Streams -/

/-- The fingers that are down after a batch. -/
def downAfter (batch : TouchBatch) : Finset Int :=
  if batch.kind = .cancelled then ∅
  else ((batch.points.filter fun p => decide (p.state ≠ .released)).map (·.finger)).toFinset

/-- **A batch that keeps to the protocol**, given the fingers that are down before it. -/
structure Fits (down : Finset Int) (batch : TouchBatch) : Prop where
  distinct : (fingersOf batch.points).Nodup
  few : batch.points.length ≤ maxFingers
  /-- A cancellation names no finger, or those that are down. -/
  cancelled : batch.kind = .cancelled →
    batch.points = [] ∨ (fingersOf batch.points).toFinset = down
  /-- Every other batch names at least the fingers that are down. -/
  complete : batch.kind ≠ .cancelled → ∀ finger ∈ down, finger ∈ fingersOf batch.points
  pressed : batch.kind ≠ .cancelled → ∀ p ∈ batch.points, p.state = .pressed ↔ p.finger ∉ down
  began : batch.kind ≠ .cancelled → (batch.kind = .began ↔ down = ∅)
  some : batch.kind = .began → batch.points ≠ []
  ended : batch.kind ≠ .cancelled →
    (batch.kind = .ended ↔ ∀ p ∈ batch.points, p.state = .released)

/-- A batch that is no cancellation, and that ends the touch if no finger stays down. -/
lemma Fits.downAfter_eq_empty_iff {down : Finset Int} {batch : TouchBatch}
    (hfit : Fits down batch)
    (hkind : batch.kind ≠ .cancelled) : downAfter batch = ∅ ↔ batch.kind = .ended := by
  rw [hfit.ended hkind, downAfter, if_neg hkind, List.toFinset_eq_empty_iff, List.map_eq_nil_iff,
    List.filter_eq_nil_iff]
  simp

/-- A batch that is no cancellation names some finger. -/
lemma Fits.points_ne_nil {down : Finset Int} {batch : TouchBatch}
    (hfit : Fits down batch)
    (hkind : batch.kind ≠ .cancelled) : batch.points ≠ [] := by
  by_cases hdown : down = ∅
  · exact hfit.some ((hfit.began hkind).mpr hdown)
  · obtain ⟨finger, hf⟩ := Finset.nonempty_iff_ne_empty.mpr hdown
    intro hnil
    simpa [hnil] using hfit.complete hkind finger hf

instance (down : Finset Int) (batch : TouchBatch) : Decidable (Fits down batch) :=
  decidable_of_iff
    ((fingersOf batch.points).Nodup ∧ batch.points.length ≤ maxFingers ∧
      (batch.kind = .cancelled →
        batch.points = [] ∨ (fingersOf batch.points).toFinset = down) ∧
      (batch.kind ≠ .cancelled → ∀ finger ∈ down, finger ∈ fingersOf batch.points) ∧
      (batch.kind ≠ .cancelled →
        ∀ p ∈ batch.points, p.state = .pressed ↔ p.finger ∉ down) ∧
      (batch.kind ≠ .cancelled → (batch.kind = .began ↔ down = ∅)) ∧
      (batch.kind = .began → batch.points ≠ []) ∧
      (batch.kind ≠ .cancelled →
        (batch.kind = .ended ↔ ∀ p ∈ batch.points, p.state = .released)))
    ⟨fun ⟨h₁, h₂, h₃, h₄, h₅, h₆, h₇, h₈⟩ => ⟨h₁, h₂, h₃, h₄, h₅, h₆, h₇, h₈⟩,
     fun ⟨h₁, h₂, h₃, h₄, h₅, h₆, h₇, h₈⟩ => ⟨h₁, h₂, h₃, h₄, h₅, h₆, h₇, h₈⟩⟩

/-- **A stream that keeps to the protocol**, from some fingers that are down on. -/
def WellFormed : Finset Int → List TouchBatch → Prop
  | _, [] => True
  | down, batch :: rest => Fits down batch ∧ WellFormed (downAfter batch) rest

instance : ∀ (down : Finset Int) (batches : List TouchBatch), Decidable (WellFormed down batches)
  | _, [] => .isTrue trivial
  | down, batch :: rest =>
    have := instDecidableWellFormed (downAfter batch) rest
    inferInstanceAs (Decidable (Fits down batch ∧ WellFormed (downAfter batch) rest))

/-- The fingers that are down after a stream. -/
def downAfterAll : Finset Int → List TouchBatch → Finset Int
  | down, [] => down
  | _, batch :: rest => downAfterAll (downAfter batch) rest

/-- What the fingers of a batch do.  A cancellation is heard of only if a finger is down. -/
def batchDeeds (down : Finset Int) (batch : TouchBatch) : List Deed :=
  if batch.kind = .cancelled then (if down = ∅ then [] else [.cancel]) else deedsOf batch.points

/-- What the fingers of a stream do. -/
def streamDeeds : Finset Int → List TouchBatch → List Deed
  | _, [] => []
  | down, batch :: rest => batchDeeds down batch ++ streamDeeds (downAfter batch) rest

section Append

variable (down : Finset Int) (first second : List TouchBatch)

lemma wellFormed_append : WellFormed down (first ++ second) ↔
    WellFormed down first ∧ WellFormed (downAfterAll down first) second := by
  induction first generalizing down with
  | nil => simp [WellFormed, downAfterAll]
  | cons batch rest ih => simp [WellFormed, downAfterAll, ih, and_assoc]

lemma downAfterAll_append :
    downAfterAll down (first ++ second) = downAfterAll (downAfterAll down first) second := by
  induction first generalizing down with
  | nil => rfl
  | cons batch rest ih => exact ih _

lemma streamDeeds_append : streamDeeds down (first ++ second)
    = streamDeeds down first ++ streamDeeds (downAfterAll down first) second := by
  induction first generalizing down with
  | nil => rfl
  | cons batch rest ih => simp [streamDeeds, downAfterAll, ih]

end Append

/-! ## Runs of the tracker -/

/-- A batch with everything that comes with it: what its events share, the answer of the selection
controller, and the next id that is free. -/
structure Offer where
  batch : TouchBatch
  modifiers : Page.Modifiers := {}
  time : Nat := 0
  claimed : Bool := false
  id : EventId := 1

/-- The motion events of an outcome. -/
def Outcome.events : Outcome → List MotionEvent
  | .motion events => events
  | .ignored | .consumed => []

namespace Tracker

/-- The tracker's answer to a batch. -/
def answer (t : Tracker) (offer : Offer) : Except InputError Sequenced :=
  t.sequence offer.batch offer.modifiers offer.time offer.claimed offer.id

/-- The tracker after a batch; a failure changes nothing. -/
def after (t : Tracker) (offer : Offer) : Tracker :=
  match t.answer offer with
  | .ok sequenced => sequenced.tracker
  | .error _ => t

/-- The tracker after a stream. -/
def afterAll (t : Tracker) (offers : List Offer) : Tracker := offers.foldl after t

lemma afterAll_cons (t : Tracker) (offer : Offer) (rest : List Offer) :
    t.afterAll (offer :: rest) = (t.after offer).afterAll rest := rfl

lemma afterAll_concat (t : Tracker) (offers : List Offer) (offer : Offer) :
    t.afterAll (offers ++ [offer]) = (t.afterAll offers).after offer := by
  rw [afterAll, List.foldl_concat, ← afterAll]

/-- The tracker's answers to a stream, batch by batch. -/
def answers : Tracker → List Offer → List (Except InputError Outcome)
  | _, [] => []
  | t, offer :: rest =>
    ((t.answer offer).map fun sequenced => sequenced.outcome) :: (t.after offer).answers rest

/-! ## What the tracker knows -/

/-- **What the tracker knows between two batches**: the fingers that are down hold the slots, the
page takes part if there are any, and each of them is remembered from the last batch. -/
structure Knows (t : Tracker) (down : Finset Int) : Prop where
  valid : t.slots.Valid
  fingers : ∀ finger, finger ∈ t.slots.fingers ↔ finger ∈ down
  started : down ≠ ∅ → t.started = true
  remembered : ∀ hand ∈ t.slots.bindings, hand ∈ handsOf t.previous
  forgotten : down = ∅ → t.previous = []

variable {t : Tracker} {down : Finset Int}

lemma Knows.bindings_eq_nil (h : t.Knows ∅) : t.slots.bindings = [] :=
  List.eq_nil_iff_forall_not_mem.mpr fun b hb =>
    absurd ((h.fingers b.1).mp (List.mem_map.mpr ⟨b, hb, rfl⟩)) (Finset.notMem_empty _)

lemma Knows.bindings_ne_nil (h : t.Knows down) (hdown : down ≠ ∅) : t.slots.bindings ≠ [] := by
  obtain ⟨finger, hf⟩ := Finset.nonempty_iff_ne_empty.mpr hdown
  intro hnil
  have := (h.fingers finger).mpr hf
  simp [Slots.fingers, hnil] at this

/-- A batch that is shown and not claimed becomes motion events, unless it cancels a touch in which
the page takes no part. -/
lemma answer_eq {offer : Offer} {bound : List Contact} {slots : Slots} {shown : Draft}
    (hbind : t.slots.bindBatch offer.batch.points = .ok (bound, slots))
    (hprobe : probe? offer.batch.kind (deliveryOrder bound) t.previous = some shown)
    (hopen : offer.claimed = false)
    (hstarted : offer.batch.kind = .cancelled → t.started = true) :
    ∃ waiting probe next, t.answer offer = .ok
      { tracker := Tracker.settle
          { t with
            slots := slots
            started := t.started
              || decide (offer.batch.kind = .began ∨ offer.batch.kind = .updated)
            unacknowledged := waiting }
          offer.batch.kind shown.contacts
        probe := probe
        outcome := .motion (Touch.events offer.modifiers offer.time
          (if offer.batch.kind = .cancelled then [⟨.cancel, none, shown.contacts⟩]
            else drafts offer.batch.kind shown.contacts) (offer.id + 1))
        nextId := next } := by
  have hgo : ¬ (offer.batch.kind = .cancelled ∧ t.started = false) := by
    rintro ⟨hkind, hs⟩
    rw [hstarted hkind] at hs
    exact Bool.noConfusion hs
  simp only [answer, sequence, hbind, hprobe, hopen, Bool.false_eq_true, if_false, if_neg hgo]
  exact ⟨_, _, _, rfl⟩

/-- A touch that goes on is remembered by its last batch. -/
lemma knows_going (hvalid : t.slots.Valid)
    (hfingers : ∀ finger, finger ∈ t.slots.fingers ↔ finger ∈ down) (hstarted : t.started = true)
    (hall : ∀ hand ∈ t.slots.bindings, hand ∈ handsOf t.previous) (hdown : down ≠ ∅) :
    t.Knows down :=
  ⟨hvalid, hfingers, fun _ => hstarted, hall, fun h => absurd h hdown⟩

/-- A touch that is over leaves nothing behind. -/
lemma knows_over (hvalid : t.slots.Valid) (hnone : t.slots.bindings = [])
    (hprevious : t.previous = []) : t.Knows ∅ where
  valid := hvalid
  fingers := by simp [Slots.fingers, hnone]
  started := fun h => absurd rfl h
  remembered := by simp [hnone]
  forgotten := fun _ => hprevious

/-- Only a cancellation frees slots that its batch does not release. -/
lemma slots_settle {kind : TouchKind} (hkind : kind ≠ .cancelled) (contacts : List Contact) :
    (t.settle kind contacts).slots = t.slots := by
  cases kind with
  | cancelled => exact absurd rfl hkind
  | _ => rfl

/-- A batch with fingers is shown with all of them. -/
lemma probe?_of_contacts (kind : TouchKind) {contacts : List Contact} (previous : List Contact)
    (hne : contacts ≠ []) : ∃ action, probe? kind (deliveryOrder contacts) previous
      = some ⟨action, none, deliveryOrder contacts⟩ := by
  have hordered : deliveryOrder contacts ≠ [] := by
    intro hnil
    exact hne (hnil ▸ deliveryOrder_perm contacts).nil_eq.symm
  obtain ⟨first, rest, hcons⟩ := List.exists_cons_of_ne_nil hordered
  exact ⟨_, by rw [hcons]; rfl⟩

lemma knows_empty : ({} : Tracker).Knows ∅ := knows_over Slots.valid_empty rfl rfl

/-! ## One batch -/

/-- Before a batch that is no cancellation, the bindings are its fingers that are not pressed. -/
lemma Knows.bindings_perm (h : t.Knows down) {batch : TouchBatch} (hfit : Fits down batch)
    (hkind : batch.kind ≠ .cancelled) {contacts : List Contact}
    (hpoints : contacts.map (·.point) = batch.points)
    (hold : t.slots.bindings.Perm
      ((contacts.filter fun c => decide (c.point.finger ∈ t.slots.fingers)).map Contact.hand)) :
    t.slots.bindings.Perm (handsOf (notInState .pressed contacts)) := by
  refine hold.trans (.of_eq (congrArg _ (List.filter_congr fun c hc => ?_)))
  have hp : c.point ∈ batch.points := hpoints ▸ List.mem_map.mpr ⟨c, hc, rfl⟩
  have hpressed := hfit.pressed hkind c.point hp
  rw [decide_eq_decide, h.fingers, ne_eq, hpressed, not_not]

/-- The fingers that stay bound after a batch are those that are down. -/
lemma mem_fingers_iff {slots : Slots} {batch : TouchBatch} (hkind : batch.kind ≠ .cancelled)
    {contacts : List Contact} (hpoints : contacts.map (·.point) = batch.points)
    (hnew : slots.bindings.Perm (handsOf (notInState .released contacts))) (finger : Int) :
    finger ∈ slots.fingers ↔ finger ∈ downAfter batch := by
  have hfingers : slots.fingers.Perm ((notInState .released contacts).map (·.point.finger)) := by
    have hmap := hnew.map Prod.fst
    rwa [List.map_map] at hmap
  have hlist : (notInState .released contacts).map (·.point.finger)
      = (batch.points.filter fun p => decide (p.state ≠ .released)).map (·.finger) := by
    rw [← hpoints, List.filter_map, List.map_map]
    rfl
  rw [hfingers.mem_iff, hlist, downAfter, if_neg hkind, List.mem_toFinset]

/-- **The contacts of a batch** that is no cancellation: the fingers bound before it are those that
are not pressed, and the fingers bound after it are those that are not released. -/
lemma Knows.exists_contacts (h : t.Knows down) {batch : TouchBatch} (hfit : Fits down batch)
    (hkind : batch.kind ≠ .cancelled) :
    ∃ contacts slots, t.slots.bindBatch batch.points = .ok (contacts, slots) ∧ slots.Valid ∧
      contacts ≠ [] ∧ contacts.map (·.point) = batch.points ∧ (contacts.map (·.slot)).Nodup ∧
      t.slots.bindings.Perm (handsOf (notInState .pressed contacts)) ∧
      slots.bindings.Perm (handsOf (notInState .released contacts)) := by
  have hall : ∀ finger ∈ t.slots.fingers, finger ∈ fingersOf batch.points := fun f hf =>
    hfit.complete hkind f ((h.fingers f).mp hf)
  obtain ⟨contacts, slots, hbind, hvalid, hpoints, hslots, hold, hnew⟩ :=
    Slots.bindBatch_spec h.valid hfit.distinct hall hfit.few
  have hne : contacts ≠ [] := by
    rintro rfl
    exact hfit.points_ne_nil hkind (by rw [← hpoints]; rfl)
  exact ⟨contacts, slots, hbind, hvalid, hne, hpoints, hslots,
    h.bindings_perm hfit hkind hpoints hold, hnew⟩

/-- **A batch that presses, moves or releases fingers** is answered by its story. -/
theorem Knows.answer_touch (h : t.Knows down) {offer : Offer} (hfit : Fits down offer.batch)
    (hkind : offer.batch.kind ≠ .cancelled) (hopen : offer.claimed = false) :
    ∃ s, t.answer offer = .ok s ∧ s.tracker.Knows (downAfter offer.batch) ∧
      Story t.slots.bindings s.outcome.events (batchDeeds down offer.batch)
        s.tracker.slots.bindings := by
  obtain ⟨contacts, slots, hbind, hvalid, hne, hpoints, hslots, hbefore, hnew⟩ :=
    h.exists_contacts hfit hkind
  have hmem := mem_fingers_iff hkind hpoints hnew
  obtain ⟨action, hprobe⟩ := probe?_of_contacts offer.batch.kind t.previous hne
  obtain ⟨waiting, probe, next, hans⟩ := answer_eq hbind hprobe hopen (absurd · hkind)
  have hstory : Story t.slots.bindings
      (Touch.events offer.modifiers offer.time
        (drafts offer.batch.kind (deliveryOrder contacts)) (offer.id + 1))
      (deedsOf offer.batch.points) slots.bindings := by
    have hf : (contacts.map (·.point.finger)).Nodup := by
      have hdistinct := hfit.distinct
      rwa [← hpoints, fingersOf, List.map_map] at hdistinct
    have hbegan : offer.batch.kind = .began ↔ notInState .pressed contacts = [] := by
      rw [hfit.began hkind]
      constructor
      · rintro rfl
        have := h.bindings_eq_nil ▸ hbefore
        simpa [handsOf] using this.nil_eq
      · intro hnil
        by_contra hdown
        exact h.bindings_ne_nil hdown (by simpa [hnil, handsOf] using hbefore)
    have hended : offer.batch.kind = .ended → ∀ c ∈ contacts, c.point.state = .released := by
      intro hend c hc
      exact (hfit.ended hkind).mp hend c.point (hpoints ▸ List.mem_map.mpr ⟨c, hc, rfl⟩)
    have htold := story_drafts hbegan hended hf hslots offer.modifiers offer.time (offer.id + 1)
    rw [hpoints] at htold
    exact (htold.perm_left hbefore).perm_right hnew.symm
  rw [if_neg hkind] at hans
  refine ⟨_, hans, ?_, ?_⟩
  · by_cases hend : downAfter offer.batch = ∅
    · rw [hend, (hfit.downAfter_eq_empty_iff hkind).mp hend]
      refine knows_over hvalid (List.eq_nil_iff_forall_not_mem.mpr fun b hb => ?_) rfl
      have := (hmem b.1).mp (List.mem_map.mpr ⟨b, hb, rfl⟩)
      simp [hend] at this
    · have hremembered := mem_handsOf_deliveryOrder hnew
      have hgoing := (hfit.downAfter_eq_empty_iff hkind).not.mp hend
      cases hk : offer.batch.kind with
      | began | updated => exact knows_going hvalid hmem (by simp [settle]) hremembered hend
      | ended => exact absurd hk hgoing
      | cancelled => exact absurd hk hkind
  · rw [batchDeeds, if_neg hkind]
    rw [slots_settle hkind]
    exact hstory

/-- A cancellation without fingers is shown with those of the batch before. -/
lemma Knows.probe?_of_empty_cancel (h : t.Knows down) (hdown : down ≠ ∅)
    {kind : TouchKind} (hkind : kind = .cancelled) :
    probe? kind (deliveryOrder []) t.previous = some ⟨.cancel, none, t.previous⟩ := by
  have hprevious : t.previous ≠ [] := by
    obtain ⟨b, rest, hcons⟩ := List.exists_cons_of_ne_nil (h.bindings_ne_nil hdown)
    intro hprev
    simpa [hprev, handsOf] using h.remembered b (by simp [hcons])
  simp [deliveryOrder, inState, probe?, hkind, hprevious]

/-- A cancellation that is shown some fingers, all that are down among them, ends the touch. -/
lemma Knows.answer_cancel_of_probe (h : t.Knows down) (hdown : down ≠ ∅) {offer : Offer}
    (hkind : offer.batch.kind = .cancelled) (hopen : offer.claimed = false)
    {bound : List Contact} {slots : Slots} {shown : Draft} (hvalid : slots.Valid)
    (hbind : t.slots.bindBatch offer.batch.points = .ok (bound, slots))
    (hprobe : probe? offer.batch.kind (deliveryOrder bound) t.previous = some shown)
    (hwas : ∀ hand ∈ t.slots.bindings, hand ∈ handsOf shown.contacts)
    (hnow : ∀ hand ∈ slots.bindings, hand ∈ handsOf shown.contacts) :
    ∃ s, t.answer offer = .ok s ∧ s.tracker.Knows ∅ ∧
      Story t.slots.bindings s.outcome.events [.cancel] s.tracker.slots.bindings := by
  obtain ⟨waiting, probe, next, hans⟩ :=
    answer_eq hbind hprobe hopen fun _ => h.started hdown
  have hnone : (slots.releaseAll (shown.contacts.map (·.point.finger))).bindings = [] := by
    refine ((Slots.bindings_releaseAll hvalid _).trans (.of_eq ?_)).eq_nil
    refine List.filter_eq_nil_iff.mpr fun b hb => ?_
    obtain ⟨c, hc, rfl⟩ := List.mem_map.mp (hnow b hb)
    simpa using ⟨c, hc, rfl⟩
  rw [if_pos hkind, hkind] at hans
  refine ⟨_, hans, knows_over (Slots.valid_releaseAll hvalid _) hnone rfl, ?_⟩
  refine .cons (.cancel rfl (h.bindings_ne_nil hdown) fun hand hm => ?_) (.nil (.of_eq hnone.symm))
  obtain ⟨c, hc, rfl⟩ := List.mem_map.mp (hwas hand hm)
  rw [listed_event]
  exact List.mem_map.mpr ⟨c, hc, rfl⟩

/-- A batch without fingers binds none. -/
lemma bindBatch_nil (slots : Slots) : slots.bindBatch [] = .ok ([], slots) := by
  simp [Slots.bindBatch, Slots.bindAll, Slots.releasedFingers, Slots.releaseAll]

/-- With no finger down a cancellation means none, whatever the controller would say of it. -/
lemma Knows.answer_cancel_of_idle (h : t.Knows ∅) {offer : Offer}
    (hkind : offer.batch.kind = .cancelled) (hnil : offer.batch.points = []) :
    t.answer offer = .ok ⟨t.settle .cancelled [], none, .ignored, offer.id⟩ ∧
      (t.settle .cancelled []).Knows ∅ := by
  have hprobe : probe? .cancelled (deliveryOrder []) t.previous = none := by
    rw [h.forgotten rfl]
    rfl
  refine ⟨?_, knows_over h.valid h.bindings_eq_nil rfl⟩
  simp only [answer, sequence, hnil, bindBatch_nil, hkind, hprobe]
  rfl

/-- **A cancellation** names the fingers that are down, itself or through the batch before. -/
theorem Knows.answer_cancel (h : t.Knows down) {offer : Offer} (hfit : Fits down offer.batch)
    (hkind : offer.batch.kind = .cancelled) (hopen : offer.claimed = false) :
    ∃ s, t.answer offer = .ok s ∧ s.tracker.Knows (downAfter offer.batch) ∧
      Story t.slots.bindings s.outcome.events (batchDeeds down offer.batch)
        s.tracker.slots.bindings := by
  rw [downAfter, if_pos hkind, batchDeeds, if_pos hkind]
  by_cases hdown : down = ∅
  · subst hdown
    have hnil : offer.batch.points = [] := by
      rcases hfit.cancelled hkind with hnil | hset
      · exact hnil
      · simpa using (List.toFinset_eq_empty_iff _).mp hset
    obtain ⟨hans, hknows⟩ := h.answer_cancel_of_idle hkind hnil
    refine ⟨_, hans, hknows, ?_⟩
    rw [if_pos rfl]
    exact .nil (.refl _)
  · rw [if_neg hdown]
    rcases hfit.cancelled hkind with hnil | hset
    · have hbind : t.slots.bindBatch offer.batch.points = .ok ([], t.slots) := by
        rw [hnil, bindBatch_nil]
      exact h.answer_cancel_of_probe hdown hkind hopen h.valid hbind
        (h.probe?_of_empty_cancel hdown hkind) h.remembered h.remembered
    · have hall : ∀ f ∈ t.slots.fingers, f ∈ fingersOf offer.batch.points := by
        intro f hf
        have := (h.fingers f).mp hf
        rwa [← hset, List.mem_toFinset] at this
      obtain ⟨contacts, slots, hbind, hvalid, hpoints, -, hold, hnew⟩ :=
        Slots.bindBatch_spec h.valid hfit.distinct hall hfit.few
      have hne : contacts ≠ [] := by
        rintro rfl
        simp [← hpoints] at hset
        exact hdown hset.symm
      obtain ⟨action, hprobe⟩ := probe?_of_contacts offer.batch.kind t.previous hne
      exact h.answer_cancel_of_probe hdown hkind hopen hvalid hbind hprobe
        (mem_handsOf_deliveryOrder hold) (mem_handsOf_deliveryOrder hnew)

/-- **One batch** is answered by its story, and the tracker knows the fingers that are down after
it. -/
theorem Knows.answer (h : t.Knows down) {offer : Offer} (hfit : Fits down offer.batch)
    (hopen : offer.claimed = false) :
    ∃ s, t.answer offer = .ok s ∧ s.tracker.Knows (downAfter offer.batch) ∧
      Story t.slots.bindings s.outcome.events (batchDeeds down offer.batch)
        s.tracker.slots.bindings := by
  by_cases hkind : offer.batch.kind = .cancelled
  · exact h.answer_cancel hfit hkind hopen
  · exact h.answer_touch hfit hkind hopen

/-! ## A whole stream -/

/-- **A stream** is answered by the stories of its batches, one after another, and the tracker knows
the fingers that are down after it. -/
theorem Knows.run (h : t.Knows down) (offers : List Offer)
    (hfit : WellFormed down (offers.map (·.batch))) (hopen : ∀ o ∈ offers, o.claimed = false) :
    ∃ outcomes : List Outcome, t.answers offers = outcomes.map Except.ok ∧
      Story t.slots.bindings (outcomes.flatMap Outcome.events)
        (streamDeeds down (offers.map (·.batch))) (t.afterAll offers).slots.bindings ∧
      (t.afterAll offers).Knows (downAfterAll down (offers.map (·.batch))) := by
  induction offers generalizing t down with
  | nil => exact ⟨[], rfl, .nil (.refl _), h⟩
  | cons offer rest ih =>
      obtain ⟨s, hans, hknows, hstory⟩ := h.answer hfit.1 (hopen offer (by simp))
      have hafter : t.after offer = s.tracker := by simp only [after, hans]
      obtain ⟨outcomes, hrest, hmore, hlast⟩ :=
        ih hknows hfit.2 fun o ho => hopen o (by simp [ho])
      refine ⟨s.outcome :: outcomes, ?_, ?_, ?_⟩
      · simp only [Tracker.answers, hafter, hans, hrest, List.map_cons]
        rfl
      · rw [afterAll_cons, hafter]
        exact hstory.append hmore
      · rw [afterAll_cons, hafter]
        exact hlast

/-- The fingers of the hands that a stream leaves are those that are down. -/
theorem Knows.answers (h : t.Knows down) (offers : List Offer)
    (hfit : WellFormed down (offers.map (·.batch))) (hopen : ∀ o ∈ offers, o.claimed = false) :
    ∃ (outcomes : List Outcome) (hands : Hands), t.answers offers = outcomes.map Except.ok ∧
      Story t.slots.bindings (outcomes.flatMap Outcome.events)
        (streamDeeds down (offers.map (·.batch))) hands ∧
      (hands.map Prod.fst).toFinset = downAfterAll down (offers.map (·.batch)) := by
  obtain ⟨outcomes, hanswers, hstory, hknows⟩ := h.run offers hfit hopen
  refine ⟨outcomes, _, hanswers, hstory, ?_⟩
  ext finger
  rw [List.mem_toFinset]
  exact hknows.fingers finger

end Tracker

/-- **The motion events of a touch stream.**  From a fresh tracker, every batch of a stream that
keeps to the protocol is answered, and the events together are a story: each names exactly the
fingers that are down, and they do what the fingers of the stream do.  In the end the fingers down
are those of the stream. -/
theorem motion_story (offers : List Offer) (hfit : WellFormed ∅ (offers.map (·.batch)))
    (hopen : ∀ offer ∈ offers, offer.claimed = false) :
    ∃ (outcomes : List Outcome) (hands : Hands),
      Tracker.answers {} offers = outcomes.map Except.ok ∧
      Story [] (outcomes.flatMap Outcome.events) (streamDeeds ∅ (offers.map (·.batch))) hands ∧
      (hands.map Prod.fst).toFinset = downAfterAll ∅ (offers.map (·.batch)) :=
  Tracker.knows_empty.answers offers hfit hopen

/-- A point of a finger, at a place that says nothing. -/
def pointAt (finger : Int) (state : TouchState) : TouchPoint :=
  { finger := finger, state := state, position := .zero, globalPosition := .zero }

/-- Two fingers go down, one goes up while another comes, and the rest is cancelled; then a finger
taps. -/
def busyStream : List Offer :=
  [{ batch := { kind := .began, points := [pointAt 7 .pressed, pointAt 3 .pressed] } },
   { batch :=
      { kind := .updated
        points := [pointAt 3 .released, pointAt 9 .pressed, pointAt 7 .updated] } },
   { batch := { kind := .updated, points := [pointAt 9 .stationary, pointAt 7 .released] } },
   { batch := { kind := .cancelled, points := [] } },
   { batch := { kind := .began, points := [pointAt 3 .pressed] } },
   { batch := { kind := .ended, points := [pointAt 3 .released] } }]

theorem motion_story_busyStream :
    WellFormed ∅ (busyStream.map (·.batch)) ∧ (∀ offer ∈ busyStream, offer.claimed = false) ∧
      ∃ (outcomes : List Outcome) (hands : Hands),
        Tracker.answers {} busyStream = outcomes.map Except.ok ∧
        Story [] (outcomes.flatMap Outcome.events)
          [.press 7, .press 3, .press 9, .move, .lift 3, .lift 7, .cancel, .press 3, .lift 3]
          hands ∧
        (hands.map Prod.fst).toFinset = ∅ := by
  have hfit : WellFormed ∅ (busyStream.map (·.batch)) := by decide
  have hopen : ∀ offer ∈ busyStream, offer.claimed = false := by simp [busyStream]
  exact ⟨hfit, hopen, motion_story busyStream hfit hopen⟩

end ViewInput.Touch
