import ViewInput.Proofs.Touch.Hidden
import ViewInput.Proofs.Touch.Identities

/-!
# A cancellation that names no finger

A toolkit may cancel a touch without saying which fingers it cancels.  The tracker then answers with
the fingers of the batch before, each under the slot with which it went down (`pressSlot?`,
`Recalls`), and afterwards every slot is free.

The batch before may have released some of its fingers, and the page was told that they went up.
**They are named all the same**: the cancellation names just the fingers that are down exactly if the
batch before released none (`empty_cancel_names_just_down_iff`).
-/

namespace ViewInput.Touch

open Device (TouchBatch TouchPoint TouchState)
open Page (MotionEvent)
open Slots (fingersOf)

/-! ## The slot with which a finger went down -/

/-- The slots with which a finger goes down, time after time. -/
def pressSlots (finger : Int) (run : List (MotionEvent × Deed)) : List Nat :=
  run.flatMap fun (e, d) => if d = .press finger then turning e else []

/-- **The slot with which a finger last went down.** -/
def pressSlot? (events : List MotionEvent) (deeds : List Deed) (finger : Int) : Option Nat :=
  (pressSlots finger (events.zip deeds)).getLast?

lemma pressSlots_cons (finger : Int) (e : MotionEvent) (d : Deed)
    (rest : List (MotionEvent × Deed)) : pressSlots finger ((e, d) :: rest)
      = (if d = .press finger then turning e else []) ++ pressSlots finger rest := rfl

lemma pressSlots_eq_nil {finger : Int} {events : List MotionEvent} {deeds : List Deed}
    (h : .press finger ∉ deeds) : pressSlots finger (events.zip deeds) = [] := by
  refine List.flatMap_eq_nil_iff.mpr fun (e, d) hmem => if_neg ?_
  rintro rfl
  exact h (List.of_mem_zip hmem).2

/-- A hand after an event was there before it, or the event is that of its finger going down. -/
lemma Tells.press_or_mem {a b : Hands} {e : MotionEvent} {d : Deed} (h : Tells a e d b)
    {hand : Int × Nat} (hmem : hand ∈ b) :
    (d = .press hand.1 ∧ turning e = [hand.2]) ∨ (d ≠ .press hand.1 ∧ hand ∈ a) := by
  cases h with
  | down action lists =>
      obtain rfl := List.mem_singleton.mp hmem
      exact Or.inl ⟨rfl, by simp [turning, action, lists]⟩
  | pointerDown action others acts newFinger newSlot lists now =>
      rcases List.mem_cons.mp (now.mem_iff.mp hmem) with rfl | hold
      · exact Or.inl ⟨rfl, by simp [turning, action, acts]⟩
      · refine Or.inr ⟨fun heq => newFinger ?_, hold⟩
        rw [Deed.press.inj heq]
        exact List.mem_map_of_mem hold
  | move action lists now => exact Or.inr ⟨Deed.noConfusion, now.mem_iff.mp hmem⟩
  | pointerUp action others acts was lists =>
      exact Or.inr ⟨Deed.noConfusion, was.mem_iff.mpr (List.mem_cons_of_mem _ hmem)⟩
  | up action lists => cases hmem
  | cancel action others lists => cases hmem

/-- **A finger that is down holds the slot with which it went down**, if it went down in the run. -/
lemma Story.pressSlots {a b : Hands} {events : List MotionEvent} {deeds : List Deed}
    (h : Story a events deeds b) {hand : Int × Nat} (hmem : hand ∈ b) :
    (pressSlots hand.1 (events.zip deeds) = [] ∧ hand ∈ a) ∨
      pressSlot? events deeds hand.1 = some hand.2 := by
  induction h with
  | nil same => exact Or.inl ⟨rfl, same.mem_iff.mpr hmem⟩
  | cons first rest ih =>
      rw [pressSlot?, List.zip_cons_cons, pressSlots_cons]
      rcases ih hmem with ⟨hnone, hmid⟩ | hsome
      · rw [hnone, List.append_nil]
        rcases first.press_or_mem hmid with ⟨hpress, hturning⟩ | ⟨hpress, hbefore⟩
        · exact Or.inr (by rw [if_pos hpress, hturning]; rfl)
        · exact Or.inl ⟨if_neg hpress, hbefore⟩
      · rw [pressSlot?] at hsome
        exact Or.inr (by rw [List.getLast?_append, hsome, Option.some_or])

lemma Story.length_eq {a b : Hands} {events : List MotionEvent} {deeds : List Deed}
    (h : Story a events deeds b) : events.length = deeds.length := by
  induction h with
  | nil => rfl
  | cons first rest ih => rw [List.length_cons, List.length_cons, ih]

/-- A run in which a finger does not go down leaves it the slot that it has. -/
lemma Story.pressSlot?_append {a b : Hands} {events more : List MotionEvent}
    {deeds further : List Deed} (h : Story a events deeds b) {finger : Int}
    (hpress : .press finger ∉ further) :
    pressSlot? (events ++ more) (deeds ++ further) finger = pressSlot? events deeds finger := by
  rw [pressSlot?, List.zip_append h.length_eq, Touch.pressSlots, List.flatMap_append]
  rw [← Touch.pressSlots, ← Touch.pressSlots, pressSlots_eq_nil hpress, List.append_nil, pressSlot?]

/-- From no finger down on, every finger that is down went down in the run. -/
lemma Story.pressSlot?_eq {b : Hands} {events : List MotionEvent} {deeds : List Deed}
    (h : Story [] events deeds b) {hand : Int × Nat} (hmem : hand ∈ b) :
    pressSlot? events deeds hand.1 = some hand.2 :=
  (h.pressSlots hmem).resolve_left fun hold => List.not_mem_nil hold.2

/-! ## What a cancellation names -/

/-- **An event recalls some points**, each finger with its slot. -/
def Recalls (points : List TouchPoint) (slotOf : Int → Option Nat) (e : MotionEvent) : Prop :=
  ∃ contacts : List Contact, (contacts.map (·.point)).Perm points ∧
    e.pointers = contacts.map pointer ∧ ∀ c ∈ contacts, slotOf c.point.finger = some c.slot

/-- **An event names just some fingers**, each with its slot. -/
def NamesJust (down : Finset Int) (slotOf : Int → Option Nat) (e : MotionEvent) : Prop :=
  ∃ fingers : List Int, fingers.Nodup ∧ fingers.toFinset = down ∧
    (listed e).map some = fingers.map slotOf

lemma NamesJust.length_listed {down : Finset Int} {slotOf : Int → Option Nat} {e : MotionEvent}
    (h : NamesJust down slotOf e) : (listed e).length = down.card := by
  obtain ⟨fingers, hnodup, rfl, hslots⟩ := h
  rw [List.toFinset_card_of_nodup hnodup]
  simpa using congrArg List.length hslots

/-- The points of a batch are just the fingers that it leaves down if it releases none. -/
lemma Recalls.namesJust_iff {batch : TouchBatch} {slotOf : Int → Option Nat} {e : MotionEvent}
    (h : Recalls batch.points slotOf e) (hdistinct : (fingersOf batch.points).Nodup)
    (hkind : batch.kind ≠ .cancelled) :
    NamesJust (downAfter batch) slotOf e ↔ ∀ p ∈ batch.points, p.state ≠ .released := by
  obtain ⟨contacts, hpoints, hpointers, hslots⟩ := h
  have hlisted : listed e = contacts.map (·.slot) := by
    rw [listed, hpointers, List.map_map]
    rfl
  have hdown : downAfter batch
      = (fingersOf (batch.points.filter fun p => decide (p.state ≠ .released))).toFinset := by
    rw [downAfter, if_neg hkind]
  constructor
  · intro hjust
    have hlength := hjust.length_listed
    rw [hdown, List.toFinset_card_of_nodup (hdistinct.sublist (List.filter_sublist.map _)),
      hlisted, List.length_map, List.length_map, ← List.length_map (·.point),
      hpoints.length_eq, eq_comm, List.length_filter_eq_length_iff] at hlength
    simpa using hlength
  · intro hnone
    have hall : (batch.points.filter fun p => decide (p.state ≠ .released)) = batch.points :=
      List.filter_eq_self.mpr fun p hp => decide_eq_true (hnone p hp)
    have hfingers := hpoints.map TouchPoint.finger
    rw [List.map_map] at hfingers
    refine ⟨_, hfingers.nodup_iff.mpr hdistinct, ?_, ?_⟩
    · rw [hdown, hall]
      exact List.toFinset_eq_of_perm _ _ hfingers
    · rw [hlisted, List.map_map, List.map_map]
      exact List.map_congr_left fun c hc => (hslots c hc).symm

/-! ## After a stream -/

/-- A finger that a batch does not press does not go down in it. -/
lemma Fits.press_notMem_batchDeeds {down : Finset Int} {batch : TouchBatch} (hfit : Fits down batch)
    {p : TouchPoint} (hp : p ∈ batch.points) (hstate : p.state ≠ .pressed) :
    .press p.finger ∉ batchDeeds down batch := by
  intro hpress
  obtain ⟨hkind, q, hq, hpressed, hfinger⟩ := press_mem_batchDeeds hpress
  have hnew := (hfit.pressed hkind q hq).mp hpressed
  rw [hfinger] at hnew
  exact hstate ((hfit.pressed hkind p hp).mpr hnew)

namespace Tracker

variable {t : Tracker} {down : Finset Int}

/-- With no finger down every slot is free. -/
lemma Knows.slots_eq_empty (h : t.Knows ∅) : t.slots = .empty :=
  Slots.eq_of_bindings_eq h.valid Slots.valid_empty h.bindings_eq_nil

/-- **A batch that leaves a finger down is remembered**: its points, each finger with the slot that it
has, be it still bound to it or released by the batch. -/
lemma Knows.previous_after (h : t.Knows down) {offer : Offer} (hfit : Fits down offer.batch)
    (hkind : offer.batch.kind ≠ .cancelled) (hdown : downAfter offer.batch ≠ ∅) :
    ((t.after offer).previous.map (·.point)).Perm offer.batch.points ∧
      ∀ c ∈ (t.after offer).previous,
        (c.point.state ≠ .released → c.hand ∈ (t.after offer).slots.bindings) ∧
        (c.point.state = .released → c.hand ∈ t.slots.bindings) := by
  obtain ⟨contacts, slots, hbind, -, hne, hpoints, -, hbefore, hnew⟩ :=
    h.exists_contacts hfit hkind
  obtain ⟨action, hprobe⟩ := probe?_of_contacts offer.batch.kind t.previous hne
  obtain ⟨w, outcome, next, rfl, hans⟩ := answer_of_shown hbind hprobe
  have hends : offer.batch.kind.ends = false := by
    have hended := (hfit.downAfter_eq_empty_iff hkind).not.mp hdown
    cases hk : offer.batch.kind with
    | began | updated => rfl
    | ended => exact absurd hk hended
    | cancelled => exact absurd hk hkind
  have hroster : (t.after offer).roster = ⟨w.slots, deliveryOrder contacts⟩ := by
    simp only [after, hans, settle_roster, if_neg hkind, hends, Bool.false_eq_true, if_false]
  have hslots : (t.after offer).slots = w.slots := congrArg Roster.slots hroster
  have hprevious : (t.after offer).previous = deliveryOrder contacts :=
    congrArg Roster.previous hroster
  rw [hslots, hprevious]
  refine ⟨((deliveryOrder_perm contacts).map _).trans (.of_eq hpoints), fun c hc => ?_⟩
  have hmem := (deliveryOrder_perm contacts).mem_iff.mp hc
  constructor
  · intro hstays
    refine hnew.mem_iff.mpr (List.mem_map_of_mem (List.mem_filter.mpr ⟨hmem, ?_⟩))
    exact decide_eq_true hstays
  · intro hreleased
    refine hbefore.mem_iff.mpr (List.mem_map_of_mem (List.mem_filter.mpr ⟨hmem, ?_⟩))
    simp [hreleased]

lemma fits_empty_cancel (down : Finset Int) {batch : TouchBatch} (hkind : batch.kind = .cancelled)
    (hnil : batch.points = []) : Fits down batch where
  distinct := by simp [hnil]
  few := by simp [hnil]
  cancelled := fun _ => Or.inl hnil
  complete := fun h => absurd hkind h
  pressed := fun h => absurd hkind h
  began := fun h => absurd hkind h
  some := fun h => absurd (hkind.symm.trans h) (by decide)
  ended := fun h => absurd hkind h

/-- A cancellation without fingers cancels those of the batch before. -/
lemma Knows.answer_empty_cancel (h : t.Knows down) (hdown : down ≠ ∅) {offer : Offer}
    (hkind : offer.batch.kind = .cancelled) (hnil : offer.batch.points = [])
    (hopen : offer.claimed = false) :
    ∃ q e, t.answer offer = .ok q ∧ q.outcome = .motion [e] ∧ e.action = .cancel ∧
      e.pointers = t.previous.map pointer ∧ q.tracker.Knows ∅ := by
  obtain ⟨q, hans, hknows, -⟩ := h.answer_cancel (fits_empty_cancel down hkind hnil) hkind hopen
  have hbind : t.slots.bindBatch offer.batch.points = .ok ([], t.slots) := by
    rw [hnil, bindBatch_nil]
  obtain ⟨waiting, probe, next, hexact⟩ :=
    answer_eq hbind (h.probe?_of_empty_cancel hdown hkind) hopen fun _ => h.started hdown
  rw [if_pos hkind] at hexact
  obtain rfl := Except.ok.inj (hans.symm.trans hexact)
  rw [downAfter, if_pos hkind] at hknows
  exact ⟨_, _, hans, rfl, rfl, rfl, hknows⟩

lemma answers_concat (t : Tracker) (offers : List Offer) (offer : Offer) :
    t.answers (offers ++ [offer]) =
      t.answers offers ++ [((t.afterAll offers).answer offer).map fun s => s.outcome] := by
  induction offers generalizing t with
  | nil => rfl
  | cons first rest ih =>
      rw [List.cons_append, answers, ih, answers, List.cons_append, afterAll_cons]

/-- **After a stream that leaves a finger down**, the points of its last batch are remembered, each
finger with the slot with which it went down. -/
lemma exists_run_remembering {init : List Offer} {last : Offer}
    (hfit : WellFormed ∅ ((init ++ [last]).map (·.batch)))
    (hopen : ∀ offer ∈ init ++ [last], offer.claimed = false)
    (hkind : last.batch.kind ≠ .cancelled) (hdown : downAfter last.batch ≠ ∅) :
    ∃ outcomes : List Outcome,
      answers {} (init ++ [last]) = outcomes.map Except.ok ∧
      Story [] (outcomes.flatMap Outcome.events) (streamDeeds ∅ ((init ++ [last]).map (·.batch)))
        (afterAll {} (init ++ [last])).slots.bindings ∧
      (afterAll {} (init ++ [last])).Knows (downAfter last.batch) ∧
      ((afterAll {} (init ++ [last])).previous.map (·.point)).Perm last.batch.points ∧
      ∀ c ∈ (afterAll {} (init ++ [last])).previous,
        pressSlot? (outcomes.flatMap Outcome.events)
          (streamDeeds ∅ ((init ++ [last]).map (·.batch))) c.point.finger = some c.slot := by
  rw [List.map_append, List.map_singleton] at hfit ⊢
  obtain ⟨hinit, hlast, -⟩ := (wellFormed_append _ _ _).mp hfit
  obtain ⟨outcomes, hanswers, hstory, hknows⟩ :=
    knows_empty.run init hinit fun o ho => hopen o (List.mem_append_left _ ho)
  obtain ⟨s, hans, hafter, htouch⟩ := hknows.answer hlast (hopen last (by simp))
  obtain ⟨hpoints, hslots⟩ := hknows.previous_after hlast hkind hdown
  have hstate : (afterAll {} init).after last = s.tracker := by simp only [after, hans]
  have hwhole := hstory.append htouch
  rw [hstate] at hpoints hslots
  rw [afterAll_concat, hstate, streamDeeds_append, streamDeeds, streamDeeds, List.append_nil]
  refine ⟨outcomes ++ [s.outcome], ?_, ?_, hafter, hpoints, fun c hc => ?_⟩
  · rw [answers_concat, hanswers, hans, List.map_append]
    rfl
  · rw [List.flatMap_append, List.flatMap_singleton]
    exact hwhole
  · rw [List.flatMap_append, List.flatMap_singleton]
    by_cases hreleased : c.point.state = .released
    · -- The batch says nothing of where a finger that it releases went down.
      have hpress := hlast.press_notMem_batchDeeds (hpoints.mem_iff.mp (List.mem_map_of_mem hc))
        (by simp [hreleased])
      rw [hstory.pressSlot?_append hpress]
      exact hstory.pressSlot?_eq ((hslots c hc).2 hreleased)
    · exact hwhole.pressSlot?_eq ((hslots c hc).1 hreleased)

end Tracker

/-- The last batch of a stream that leaves a finger down. -/
lemma exists_last_batch {offers : List Offer}
    (hdown : downAfterAll ∅ (offers.map (·.batch)) ≠ ∅) :
    ∃ init last, offers = init ++ [last] ∧ last.batch.kind ≠ .cancelled ∧
      downAfterAll ∅ (offers.map (·.batch)) = downAfter last.batch := by
  rcases List.eq_nil_or_concat' offers with rfl | ⟨init, last, rfl⟩
  · exact absurd rfl hdown
  · have hlast : downAfterAll ∅ ((init ++ [last]).map (·.batch)) = downAfter last.batch := by
      rw [List.map_append, downAfterAll_append]
      rfl
    refine ⟨init, last, rfl, fun hkind => hdown ?_, hlast⟩
    rw [hlast, downAfter, if_pos hkind]

/-- **A cancellation that names no finger**, after any stream that keeps to the protocol and of which
the controller claims nothing.  With no finger down it is ignored.  Otherwise it is one event that
names the points of the last batch, each finger with the slot with which it went down, and these are
just the fingers that are down exactly if the last batch released none.  Either way every slot is free
afterwards, and another cancellation that names no finger is ignored. -/
theorem empty_cancel_names_just_down_iff {offers : List Offer}
    (hfit : WellFormed ∅ (offers.map (·.batch))) (hopen : ∀ offer ∈ offers, offer.claimed = false)
    {cancel : Offer} (hkind : cancel.batch.kind = .cancelled) (hnil : cancel.batch.points = [])
    (hcancel : cancel.claimed = false) :
    ∃ (outcomes : List Outcome) (q : Sequenced),
      Tracker.answers {} offers = outcomes.map Except.ok ∧
      Story [] (outcomes.flatMap Outcome.events) (streamDeeds ∅ (offers.map (·.batch)))
        (Tracker.afterAll {} offers).slots.bindings ∧
      (Tracker.afterAll {} offers).answer cancel = .ok q ∧
      (downAfterAll ∅ (offers.map (·.batch)) = ∅ → q.outcome = .ignored) ∧
      (downAfterAll ∅ (offers.map (·.batch)) ≠ ∅ →
        ∃ last e, offers.getLast? = some last ∧ q.outcome = .motion [e] ∧ e.action = .cancel ∧
          Recalls last.batch.points
            (pressSlot? (outcomes.flatMap Outcome.events)
              (streamDeeds ∅ (offers.map (·.batch)))) e ∧
          (NamesJust (downAfterAll ∅ (offers.map (·.batch)))
              (pressSlot? (outcomes.flatMap Outcome.events)
                (streamDeeds ∅ (offers.map (·.batch)))) e
            ↔ ∀ p ∈ last.batch.points, p.state ≠ .released)) ∧
      q.tracker.slots = .empty ∧
      ∀ again : Offer, again.batch.kind = .cancelled → again.batch.points = [] →
        ∃ r, q.tracker.answer again = .ok r ∧ r.outcome = .ignored := by
  by_cases hdown : downAfterAll ∅ (offers.map (·.batch)) = ∅
  · obtain ⟨outcomes, hanswers, hstory, hknows⟩ := Tracker.knows_empty.run offers hfit hopen
    rw [hdown] at hknows
    obtain ⟨hans, hidle⟩ := hknows.answer_cancel_of_idle hkind hnil
    exact ⟨outcomes, _, hanswers, hstory, hans, fun _ => rfl, fun h => absurd hdown h,
      hidle.slots_eq_empty, fun again hk hn => ⟨_, (hidle.answer_cancel_of_idle hk hn).1, rfl⟩⟩
  · obtain ⟨init, last, rfl, hlast, hafter⟩ := exists_last_batch hdown
    have hstays : downAfter last.batch ≠ ∅ := hafter ▸ hdown
    obtain ⟨outcomes, hanswers, hstory, hknows, hpoints, hslots⟩ :=
      Tracker.exists_run_remembering hfit hopen hlast hstays
    obtain ⟨q, e, hans, houtcome, haction, hpointers, hidle⟩ :=
      hknows.answer_empty_cancel hstays hkind hnil hcancel
    have hdistinct : (fingersOf last.batch.points).Nodup := by
      rw [List.map_append] at hfit
      exact ((wellFormed_append _ _ _).mp hfit).2.1.distinct
    have hrecalls : Recalls last.batch.points _ e := ⟨_, hpoints, hpointers, hslots⟩
    refine ⟨outcomes, q, hanswers, hstory, hans, fun h => absurd h hdown,
      fun _ => ⟨last, e, List.getLast?_concat, houtcome, haction, hrecalls, ?_⟩,
      hidle.slots_eq_empty, fun again hk hn => ⟨_, (hidle.answer_cancel_of_idle hk hn).1, rfl⟩⟩
    rw [hafter]
    exact hrecalls.namesJust_iff hdistinct hlast

/-- A cancellation that names no finger. -/
def emptyCancel : Offer where
  batch := { kind := .cancelled, points := [] }

/-- A finger goes up, and another one comes in the batch after. -/
def replaced : List Offer :=
  [{ batch := { kind := .began, points := [pointAt 7 .pressed, pointAt 3 .pressed] } },
   { batch := { kind := .updated, points := [pointAt 3 .released, pointAt 7 .stationary] } },
   { batch := { kind := .updated, points := [pointAt 7 .updated, pointAt 9 .pressed] } }]

theorem empty_cancel_names_just_down_iff_replaced :
    WellFormed ∅ (replaced.map (·.batch)) ∧ (∀ offer ∈ replaced, offer.claimed = false) ∧
      emptyCancel.batch.kind = .cancelled ∧ emptyCancel.batch.points = [] ∧
      emptyCancel.claimed = false ∧
      ∃ (outcomes : List Outcome) (q : Sequenced) (e : MotionEvent),
        Tracker.answers {} replaced = outcomes.map Except.ok ∧
        (Tracker.afterAll {} replaced).answer emptyCancel = .ok q ∧ q.outcome = .motion [e] ∧
        e.action = .cancel ∧
        NamesJust {7, 9}
          (pressSlot? (outcomes.flatMap Outcome.events)
            [.press 7, .press 3, .lift 3, .press 9, .move]) e ∧
        q.tracker.slots = .empty := by
  have hfit : WellFormed ∅ (replaced.map (·.batch)) := by decide
  have hopen : ∀ offer ∈ replaced, offer.claimed = false := by simp [replaced]
  have hdown : downAfterAll ∅ (replaced.map (·.batch)) = {7, 9} := by decide
  obtain ⟨outcomes, q, hanswers, -, hans, -, hnamed, hfree, -⟩ :=
    @empty_cancel_names_just_down_iff replaced hfit hopen emptyCancel rfl rfl rfl
  rw [hdown] at hnamed
  obtain ⟨last, e, hlast, houtcome, haction, -, hjust⟩ := hnamed (by decide)
  obtain rfl := Option.some.inj hlast
  exact ⟨hfit, hopen, rfl, rfl, rfl, outcomes, q, e, hanswers, hans, houtcome, haction,
    hjust.mpr (by decide), hfree⟩

/-- Two fingers go down, and one of them goes up. -/
def oneLifts : List Offer :=
  [{ batch := { kind := .began, points := [pointAt 1 .pressed, pointAt 2 .pressed] } },
   { batch := { kind := .updated, points := [pointAt 1 .stationary, pointAt 2 .released] } }]

/-- **A finger that went up is cancelled once more.**  One finger is down, and the cancellation names
two. -/
theorem cancel_names_lifted_finger :
    WellFormed ∅ (oneLifts.map (·.batch)) ∧ (∀ offer ∈ oneLifts, offer.claimed = false) ∧
      downAfterAll ∅ (oneLifts.map (·.batch)) = {1} ∧
      ∃ q e, (Tracker.afterAll {} oneLifts).answer emptyCancel = .ok q ∧
        q.outcome = .motion [e] ∧ e.action = .cancel ∧ listed e = [0, 1] ∧
        ∀ slotOf, ¬ NamesJust {1} slotOf e := by
  refine ⟨by decide, by decide, by decide, _, _, rfl, rfl, rfl, rfl, fun slotOf hjust => ?_⟩
  exact absurd hjust.length_listed (by decide)

end ViewInput.Touch
