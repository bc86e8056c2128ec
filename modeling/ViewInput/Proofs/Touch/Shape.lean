import Mathlib.Data.List.DropRight
import ViewInput.Proofs.Touch.Backlog

/-!
# The events of one batch

What the page hears of a batch can be read off its fingers, sorted by their states (`byState`, which
is the order of delivery): **the pressed ones at the front go down one by one, then all of them move,
and the released ones at the back go up one by one** (`Shape`, `batch_shape`).

This holds of every tracker, also of one that no run leads to.
-/

namespace ViewInput.Touch

open Device (TouchKind TouchPoint TouchState)
open Page (EventId MotionAction MotionEvent)

/-! ## The order of delivery is a sort -/

/-- The place of a state in the order of delivery. -/
def rank : TouchState → Nat
  | .pressed => 0
  | .updated => 1
  | .stationary => 2
  | .released => 3

/-- One contact may stand before another. -/
def rankLE (a b : Contact) : Bool := decide (rank a.point.state ≤ rank b.point.state)

/-- **Contacts sorted by their states**, those in one state as they came. -/
def byState (contacts : List Contact) : List Contact := contacts.mergeSort rankLE

lemma rankLE_trans (a b c : Contact) (hab : rankLE a b = true) (hbc : rankLE b c = true) :
    rankLE a c = true := by
  simp only [rankLE, decide_eq_true_eq] at *
  exact hab.trans hbc

lemma rankLE_total (a b : Contact) : (rankLE a b || rankLE b a) = true := by
  simp only [rankLE, Bool.or_eq_true, decide_eq_true_eq]
  exact le_total _ _

/-- The sort keeps the contacts in one state as they came. -/
lemma inState_byState (state : TouchState) (contacts : List Contact) :
    inState state (byState contacts) = inState state contacts := by
  have hequal : (inState state contacts).Pairwise fun a b => rankLE a b = true := by
    refine List.pairwise_of_forall_mem_list fun a ha b hb => ?_
    have hstate : a.point.state = b.point.state := by
      simp only [inState, List.mem_filter, decide_eq_true_eq] at ha hb
      exact ha.2.trans hb.2.symm
    simp [rankLE, hstate]
  have hsub : (inState state contacts).Sublist (byState contacts) :=
    List.sublist_mergeSort rankLE_trans rankLE_total hequal List.filter_sublist
  have hin := hsub.filter fun c => decide (c.point.state = state)
  have hlength := ((List.mergeSort_perm contacts rankLE).filter
    fun c => decide (c.point.state = state)).length_eq
  rw [← inState, inState_inState, if_pos rfl] at hin
  exact (hin.eq_of_length hlength.symm).symm

/-- Contacts in order of their states are in the order of delivery. -/
lemma deliveryOrder_of_pairwise {contacts : List Contact}
    (h : contacts.Pairwise fun a b => rankLE a b = true) : deliveryOrder contacts = contacts := by
  induction contacts with
  | nil => rfl
  | cons c rest ih =>
      obtain ⟨hfirst, hrest⟩ := List.pairwise_cons.mp h
      -- No state that comes before that of the first contact is left.
      have hnone : ∀ state, rank state < rank c.point.state → inState state rest = [] := by
        intro state hlt
        refine List.filter_eq_nil_iff.mpr fun d hd hstate => ?_
        have hle := hfirst d hd
        rw [rankLE, decide_eq_true_eq, of_decide_eq_true hstate] at hle
        exact absurd hlt (Nat.not_lt.mpr hle)
      have hcons : ∀ state, inState state (c :: rest)
          = if c.point.state = state then c :: inState state rest else inState state rest := by
        intro state
        simp [inState, List.filter_cons]
      have hdelivered := ih hrest
      rw [deliveryOrder] at hdelivered
      rw [deliveryOrder, hcons, hcons, hcons, hcons]
      cases hstate : c.point.state with
      | pressed => simpa using hdelivered
      | updated =>
          have hpressed := hnone .pressed (by simp [hstate, rank])
          simpa [hpressed] using hdelivered
      | stationary =>
          have hpressed := hnone .pressed (by simp [hstate, rank])
          have hupdated := hnone .updated (by simp [hstate, rank])
          simpa [hpressed, hupdated] using hdelivered
      | released =>
          have hpressed := hnone .pressed (by simp [hstate, rank])
          have hupdated := hnone .updated (by simp [hstate, rank])
          have hstationary := hnone .stationary (by simp [hstate, rank])
          simpa [hpressed, hupdated, hstationary] using hdelivered

/-- **The order of delivery** is a stable sort. -/
theorem deliveryOrder_eq_byState (contacts : List Contact) :
    deliveryOrder contacts = byState contacts :=
  calc deliveryOrder contacts = deliveryOrder (byState contacts) := by
        simp only [deliveryOrder, inState_byState]
    _ = byState contacts :=
        deliveryOrder_of_pairwise (List.pairwise_mergeSort rankLE_trans rankLE_total contacts)

/-! ## The shape of a batch -/

/-- The pressed contacts at the front. -/
def front (contacts : List Contact) : List Contact :=
  contacts.takeWhile fun c => decide (c.point.state = .pressed)

/-- **The pressed finger at a place goes down.**  The event lists it with those before it and
everything that is not pressed. -/
structure GoesDown (kind : TouchKind) (contacts : List Contact) (i : Nat) (e : MotionEvent) :
    Prop where
  pointers :
    e.pointers = ((front contacts).take (i + 1) ++ notInState .pressed contacts).map pointer
  first : kind = .began ∧ i = 0 → e.action = .down ∧ e.actionIndex = none
  further : ¬ (kind = .began ∧ i = 0) → e.action = .pointerDown ∧ e.actionIndex = some i ∧
    ∃ c, (front contacts)[i]? = some c ∧ e.actionPointer = some (pointer c)

/-- **All fingers move.** -/
structure AllMove (contacts : List Contact) (e : MotionEvent) : Prop where
  action : e.action = .move
  actionIndex : e.actionIndex = none
  pointers : e.pointers = contacts.map pointer

/-- **A finger goes up** when some behind it are up already.  The event lists it with those before
it. -/
structure GoesUp (contacts : List Contact) (j : Nat) (e : MotionEvent) : Prop where
  pointers : e.pointers = (contacts.rdrop j).map pointer
  alone : (contacts.rdrop j).length = 1 → e.action = .up ∧ e.actionIndex = none
  further : (contacts.rdrop j).length ≠ 1 → e.action = .pointerUp ∧
    e.actionIndex = some ((contacts.rdrop j).length - 1) ∧
    ∃ c, (contacts.rdrop j).getLast? = some c ∧ c.point.state = .released ∧
      e.actionPointer = some (pointer c)

/-- **The events of a batch**, given its sorted contacts.  Of a batch that ends a touch the page
hears only which fingers go up. -/
structure Shape (kind : TouchKind) (contacts : List Contact)
    (pressing moving lifting : List MotionEvent) : Prop where
  length_pressing : pressing.length = if kind = .ended then 0 else (front contacts).length
  goesDown : ∀ i e, pressing[i]? = some e → GoesDown kind contacts i e
  length_moving : moving.length =
    if kind ≠ .ended ∧ ∃ c ∈ contacts, c.point.state = .updated then 1 else 0
  allMove : ∀ e ∈ moving, AllMove contacts e
  length_lifting : lifting.length = contacts.countP fun c => decide (c.point.state = .released)
  goesUp : ∀ j e, lifting[j]? = some e → GoesUp contacts j e

/-! ## What the shape says of a batch as a whole -/

section Whole

variable {kind : TouchKind} {contacts : List Contact} {pressing moving lifting : List MotionEvent}

lemma GoesDown.action {i : Nat} {e : MotionEvent} (h : GoesDown kind contacts i e) :
    e.action = .down ∨ e.action = .pointerDown := by
  by_cases hfirst : kind = .began ∧ i = 0
  · exact Or.inl (h.first hfirst).1
  · exact Or.inr (h.further hfirst).1

lemma GoesUp.action {j : Nat} {e : MotionEvent} (h : GoesUp contacts j e) :
    e.action = .up ∨ e.action = .pointerUp := by
  by_cases halone : (contacts.rdrop j).length = 1
  · exact Or.inl (h.alone halone).1
  · exact Or.inr (h.further halone).1

lemma lt_length_of_actionPointer {e : MotionEvent} {i : Nat} (hi : e.actionIndex = some i)
    {p : Page.MotionPointer} (hp : e.actionPointer = some p) : i < e.pointers.length := by
  rw [MotionEvent.actionPointer, hi, Option.bind_some] at hp
  exact (List.getElem?_eq_some_iff.mp hp).1

/-- Every index names a finger of its event. -/
lemma Shape.index_lt (h : Shape kind contacts pressing moving lifting) :
    ∀ e ∈ pressing ++ moving ++ lifting, ∀ i, e.actionIndex = some i → i < e.pointers.length := by
  intro e he i hi
  rcases List.mem_append.mp he with he | he
  · rcases List.mem_append.mp he with he | he
    · obtain ⟨k, hk⟩ := List.mem_iff_getElem?.mp he
      have hdown := h.goesDown k e hk
      by_cases hfirst : kind = .began ∧ k = 0
      · simp [(hdown.first hfirst).2] at hi
      · obtain ⟨-, -, c, -, hc⟩ := hdown.further hfirst
        exact lt_length_of_actionPointer hi hc
    · simp [(h.allMove e he).actionIndex] at hi
  · obtain ⟨k, hk⟩ := List.mem_iff_getElem?.mp he
    have hup := h.goesUp k e hk
    by_cases halone : (contacts.rdrop k).length = 1
    · simp [(hup.alone halone).2] at hi
    · obtain ⟨-, -, c, -, -, hc⟩ := hup.further halone
      exact lt_length_of_actionPointer hi hc

/-- Of elements that are all at one place there is at most one. -/
lemma countP_le_one {α : Type*} {p : α → Bool} {l : List α} {n : Nat}
    (h : ∀ i a, l[i]? = some a → p a = true → i = n) : l.countP p ≤ 1 := by
  induction l generalizing n with
  | nil => simp
  | cons a rest ih =>
      by_cases ha : p a = true
      · have hn : 0 = n := h 0 a rfl ha
        have hrest : rest.countP p = 0 := by
          refine List.countP_eq_zero.mpr fun b hb hpb => ?_
          obtain ⟨i, hi⟩ := List.mem_iff_getElem?.mp hb
          have := h (i + 1) b hi hpb
          omega
        simp [ha, hrest]
      · rw [List.countP_cons_of_neg ha]
        exact ih (n := n - 1) fun i b hi hb => by
          have := h (i + 1) b hi hb
          omega

/-- At most one finger goes down as the first. -/
lemma Shape.countP_down_le (h : Shape kind contacts pressing moving lifting) :
    (pressing ++ moving ++ lifting).countP (fun e => decide (e.action = .down)) ≤ 1 := by
  have hmoving : moving.countP (fun e => decide (e.action = .down)) = 0 :=
    List.countP_eq_zero.mpr fun e he => by simp [(h.allMove e he).action]
  have hlifting : lifting.countP (fun e => decide (e.action = .down)) = 0 := by
    refine List.countP_eq_zero.mpr fun e he => ?_
    obtain ⟨k, hk⟩ := List.mem_iff_getElem?.mp he
    rcases (h.goesUp k e hk).action with haction | haction <;> simp [haction]
  rw [List.countP_append, List.countP_append, hmoving, hlifting]
  refine countP_le_one (n := 0) fun i e hi hdown => ?_
  by_contra hne
  simp [((h.goesDown i e hi).further fun hfirst => hne hfirst.2).1] at hdown

/-- At most one finger goes up as the last. -/
lemma Shape.countP_up_le (h : Shape kind contacts pressing moving lifting) :
    (pressing ++ moving ++ lifting).countP (fun e => decide (e.action = .up)) ≤ 1 := by
  have hmoving : moving.countP (fun e => decide (e.action = .up)) = 0 :=
    List.countP_eq_zero.mpr fun e he => by simp [(h.allMove e he).action]
  have hpressing : pressing.countP (fun e => decide (e.action = .up)) = 0 := by
    refine List.countP_eq_zero.mpr fun e he => ?_
    obtain ⟨k, hk⟩ := List.mem_iff_getElem?.mp he
    rcases (h.goesDown k e hk).action with haction | haction <;> simp [haction]
  rw [List.countP_append, List.countP_append, hmoving, hpressing, Nat.zero_add]
  refine countP_le_one (n := contacts.length - 1) fun j e hj hup => ?_
  have halone : (contacts.rdrop j).length = 1 := by
    by_contra hmore
    simp [((h.goesUp j e hj).further hmore).1] at hup
  rw [List.rdrop, List.length_take] at halone
  omega

end Whole

/-! ## The drafts of a batch -/

section Drafts

variable {contacts : List Contact} (modifiers : Page.Modifiers) (time : Nat) (id : EventId)

lemma notInState_pressed_deliveryOrder (contacts : List Contact) :
    notInState .pressed (deliveryOrder contacts)
      = between contacts ++ inState .released contacts := by
  have hkept : ∀ state, state ≠ .pressed →
      notInState .pressed (inState state contacts) = inState state contacts := by
    intro state hne
    refine List.filter_eq_self.mpr fun c hc => ?_
    simp only [inState, List.mem_filter, decide_eq_true_eq] at hc
    simpa [hc.2] using hne
  have hnone : notInState .pressed (inState .pressed contacts) = [] := by
    refine List.filter_eq_nil_iff.mpr fun c hc => ?_
    simp only [inState, List.mem_filter, decide_eq_true_eq] at hc
    simp [hc.2]
  have happ : ∀ a b, notInState .pressed (a ++ b) = notInState .pressed a ++ notInState .pressed b :=
    fun a b => List.filter_append a b
  rw [deliveryOrder_eq, between, happ, happ, happ, hnone, hkept _ (by decide), hkept _ (by decide),
    hkept _ (by decide), List.nil_append]

lemma front_deliveryOrder (contacts : List Contact) :
    front (deliveryOrder contacts) = inState .pressed contacts := by
  have hall : ∀ c ∈ inState .pressed contacts, decide (c.point.state = .pressed) = true :=
    fun c hc => (List.mem_filter.mp hc).2
  have hrest : (between contacts ++ inState .released contacts).takeWhile
      (fun c => decide (c.point.state = .pressed)) = [] := by
    rw [← notInState_pressed_deliveryOrder, List.takeWhile_eq_nil_iff]
    intro hlt hpressed
    have hmem := List.getElem_mem hlt
    simp only [notInState, List.mem_filter, decide_eq_true_eq] at hmem
    exact hmem.2 (of_decide_eq_true hpressed)
  rw [front, deliveryOrder_eq, List.takeWhile_append_of_pos hall, hrest, List.append_nil]

lemma downs_deliveryOrder (kind : TouchKind) (contacts : List Contact) :
    downs kind (deliveryOrder contacts) = downRun kind (front (deliveryOrder contacts))
      (notInState .pressed (deliveryOrder contacts)) := by
  have hpressed := inState_deliveryOrder .pressed contacts
  rw [front_deliveryOrder, notInState_pressed_deliveryOrder]
  rw [deliveryOrder_eq] at hpressed ⊢
  exact downs_eq_downRun hpressed

/-- What all events of a batch share. -/
lemma shared_events (drafts : List Draft) :
    ∀ e ∈ events modifiers time drafts id, e.modifiers = modifiers ∧ e.time = time := by
  intro e he
  obtain ⟨i, hi⟩ := List.mem_iff_getElem?.mp he
  rw [getElem?_events, Option.map_eq_some_iff] at hi
  obtain ⟨d, -, rfl⟩ := hi
  exact ⟨rfl, rfl⟩

/-- A place in a range. -/
lemma eq_of_getElem?_map_range {α : Type*} {f : Nat → α} {n i : Nat} {a : α}
    (h : ((List.range n).map f)[i]? = some a) : i < n ∧ f i = a := by
  obtain ⟨hlt, ha⟩ := List.getElem?_eq_some_iff.mp h
  rw [List.getElem_map, List.getElem_range] at ha
  exact ⟨by simpa using hlt, ha⟩

lemma goesDown_of_downs {kind : TouchKind} {i : Nat} {d : Draft}
    (h : (downs kind (deliveryOrder contacts))[i]? = some d) :
    GoesDown kind (deliveryOrder contacts) i (d.event modifiers time id) := by
  rw [downs_deliveryOrder] at h
  obtain ⟨hlt, rfl⟩ := eq_of_getElem?_map_range h
  by_cases hfirst : kind = .began ∧ i = 0
  · rw [if_pos hfirst]
    exact ⟨rfl, fun _ => ⟨rfl, rfl⟩, fun hnot => absurd hfirst hnot⟩
  · rw [if_neg hfirst]
    refine ⟨rfl, fun h => absurd h hfirst, fun _ => ⟨rfl, rfl, ?_⟩⟩
    refine ⟨_, List.getElem?_eq_getElem hlt, actionPointer_event modifiers time id rfl ?_⟩
    rw [List.getElem?_append_left (by rw [List.length_take]; omega),
      List.getElem?_take_of_lt (Nat.lt_succ_self i), List.getElem?_eq_getElem hlt]

lemma allMove_of_moves {d : Draft} (h : d ∈ moves contacts) :
    AllMove contacts (d.event modifiers time id) := by
  rw [moves] at h
  split at h
  · rw [List.mem_singleton.mp h]
    exact ⟨rfl, rfl, rfl⟩
  · cases h

/-- While released fingers are left, the last is one of them. -/
lemma getLast?_rdrop_deliveryOrder {j : Nat} (hj : j < (inState .released contacts).length) :
    ∃ c, ((deliveryOrder contacts).rdrop j).getLast? = some c ∧ c.point.state = .released := by
  have hsplit : (deliveryOrder contacts).rdrop j = (inState .pressed contacts ++ between contacts)
      ++ (inState .released contacts).rdrop j := by
    rw [deliveryOrder_eq, ← List.append_assoc, List.rdrop, List.length_append,
      Nat.add_sub_assoc hj.le, List.take_length_add_append, List.rdrop]
  have hne : (inState .released contacts).rdrop j ≠ [] := by
    rw [List.rdrop, ne_eq, List.take_eq_nil_iff, not_or]
    exact ⟨by omega, List.ne_nil_of_length_pos (by omega)⟩
  refine ⟨((inState .released contacts).rdrop j).getLast hne, ?_, ?_⟩
  · rw [hsplit, List.getLast?_append, List.getLast?_eq_some_getLast hne, Option.some_or]
  · have hmem := List.mem_of_mem_take (List.getLast_mem hne)
    exact of_decide_eq_true (List.mem_filter.mp hmem).2

lemma goesUp_of_ups {j : Nat} {d : Draft} (h : (ups (deliveryOrder contacts))[j]? = some d) :
    GoesUp (deliveryOrder contacts) j (d.event modifiers time id) := by
  obtain ⟨hlt, rfl⟩ := eq_of_getElem?_map_range h
  rw [inState_deliveryOrder] at hlt
  rw [← List.rdrop]
  by_cases halone : ((deliveryOrder contacts).rdrop j).length = 1
  · rw [if_pos halone]
    exact ⟨rfl, fun _ => ⟨rfl, rfl⟩, fun hnot => absurd halone hnot⟩
  · rw [if_neg halone]
    obtain ⟨c, hc, hstate⟩ := getLast?_rdrop_deliveryOrder hlt
    refine ⟨rfl, fun h => absurd h halone, fun _ => ⟨rfl, rfl, c, hc, hstate, ?_⟩⟩
    exact actionPointer_event modifiers time id rfl (by rw [← List.getLast?_eq_getElem?, hc])

/-- A batch that ends a touch tells of no finger that goes down or moves. -/
lemma drafts_eq_ite {kind : TouchKind} (hkind : kind ≠ .cancelled) (contacts : List Contact) :
    drafts kind contacts = (if kind = .ended then [] else downs kind contacts)
      ++ (if kind = .ended then [] else moves contacts) ++ ups contacts := by
  cases kind with
  | cancelled => exact absurd rfl hkind
  | began | updated | ended => rfl

/-- **The events of the drafts** have the shape of a batch. -/
theorem shape_drafts {kind : TouchKind} (hkind : kind ≠ .cancelled) (contacts : List Contact) :
    ∃ pressing moving lifting,
      events modifiers time (drafts kind (deliveryOrder contacts)) id
        = pressing ++ moving ++ lifting ∧
      Shape kind (deliveryOrder contacts) pressing moving lifting := by
  rw [drafts_eq_ite hkind, events_append, events_append]
  refine ⟨_, _, _, rfl, ?_, fun i e he => ?_, ?_, fun e he => ?_, ?_, fun j e he => ?_⟩
  · rw [length_events, downs_deliveryOrder]
    split <;> simp [downRun]
  · rw [getElem?_events, Option.map_eq_some_iff] at he
    obtain ⟨d, hd, rfl⟩ := he
    split at hd
    · cases hd
    · exact goesDown_of_downs modifiers time _ hd
  · rw [length_events]
    by_cases hend : kind = .ended <;> simp [hend, moves]
    split <;> rfl
  · obtain ⟨i, hi⟩ := List.mem_iff_getElem?.mp he
    rw [getElem?_events, Option.map_eq_some_iff] at hi
    obtain ⟨d, hd, rfl⟩ := hi
    split at hd
    · cases hd
    · exact allMove_of_moves modifiers time _ (List.mem_of_getElem? hd)
  · rw [length_events, ups, List.length_map, List.length_range, List.countP_eq_length_filter,
      inState]
  · rw [getElem?_events, Option.map_eq_some_iff] at he
    obtain ⟨d, hd, rfl⟩ := he
    exact goesUp_of_ups modifiers time _ hd

end Drafts

/-! ## One batch -/

/-- **The events of one batch.**  Whatever the tracker holds: if the fingers of a batch that presses,
moves or releases some can be bound, and the selection controller leaves it to the page, then the
page hears of it as its fingers say, sorted by their states.  No index is out of range, at most one
finger goes down as the first and at most one goes up as the last, and the ids count up. -/
theorem batch_shape {t : Tracker} {offer : Offer} {contacts : List Contact} {slots : Slots}
    (hbind : t.slots.bindBatch offer.batch.points = .ok (contacts, slots))
    (hkind : offer.batch.kind ≠ .cancelled) (hne : offer.batch.points ≠ [])
    (hopen : offer.claimed = false) :
    contacts.map (·.point) = offer.batch.points ∧
      ∃ (q : Sequenced) (pressing moving lifting : List MotionEvent),
        t.answer offer = .ok q ∧ q.outcome = .motion (pressing ++ moving ++ lifting) ∧
        Shape offer.batch.kind (byState contacts) pressing moving lifting ∧
        (∀ e ∈ pressing ++ moving ++ lifting,
          e.modifiers = offer.modifiers ∧ e.time = offer.time ∧
          ∀ i, e.actionIndex = some i → i < e.pointers.length) ∧
        (pressing ++ moving ++ lifting).countP (fun e => decide (e.action = .down)) ≤ 1 ∧
        (pressing ++ moving ++ lifting).countP (fun e => decide (e.action = .up)) ≤ 1 ∧
        ((pressing ++ moving ++ lifting).map (·.id)).Pairwise (· < ·) := by
  have hcontacts : contacts ≠ [] := (Tracker.bound_eq_nil_iff hbind).not.mpr hne
  obtain ⟨action, hprobe⟩ :=
    Tracker.probe?_of_contacts offer.batch.kind t.previous hcontacts
  obtain ⟨waiting, probe, next, hans⟩ :=
    Tracker.answer_eq hbind hprobe hopen fun h => absurd h hkind
  rw [if_neg hkind] at hans
  obtain ⟨pressing, moving, lifting, hevents, hshape⟩ :=
    shape_drafts offer.modifiers offer.time (offer.id + 1) hkind contacts
  have hids := map_id_events offer.modifiers offer.time
    (drafts offer.batch.kind (deliveryOrder contacts)) (offer.id + 1)
  have hshared := shared_events offer.modifiers offer.time (offer.id + 1)
    (drafts offer.batch.kind (deliveryOrder contacts))
  rw [hevents] at hids hans hshared
  rw [deliveryOrder_eq_byState] at hshape
  refine ⟨Tracker.map_point_of_bindBatch hbind, _, pressing, moving, lifting, hans, rfl, hshape,
    fun e he => ⟨(hshared e he).1, (hshared e he).2, hshape.index_lt e he⟩,
    hshape.countP_down_le, hshape.countP_up_le, ?_⟩
  rw [hids]
  exact List.pairwise_lt_range'

/-- Three fingers are down. -/
def threeDown : Tracker :=
  Tracker.after {}
    { batch :=
        { kind := .began, points := [pointAt 7 .pressed, pointAt 3 .pressed, pointAt 4 .pressed] } }

/-- Two of three fingers go up while two others come. -/
def relief : Offer where
  batch :=
    { kind := .updated
      points := [pointAt 3 .released, pointAt 9 .pressed, pointAt 7 .updated, pointAt 5 .pressed,
        pointAt 4 .released] }

/-- The fingers of `relief` with their slots. -/
def reliefContacts : List Contact :=
  [⟨1, pointAt 3 .released⟩, ⟨3, pointAt 9 .pressed⟩, ⟨0, pointAt 7 .updated⟩,
   ⟨4, pointAt 5 .pressed⟩, ⟨2, pointAt 4 .released⟩]

theorem batch_shape_relief :
    ∃ slots, threeDown.slots.bindBatch relief.batch.points = .ok (reliefContacts, slots) ∧
      relief.batch.kind ≠ .cancelled ∧ relief.batch.points ≠ [] ∧ relief.claimed = false ∧
      (byState reliefContacts).map (·.slot) = [3, 4, 0, 1, 2] ∧
      ∃ (q : Sequenced) (pressing moving lifting : List MotionEvent),
        threeDown.answer relief = .ok q ∧ q.outcome = .motion (pressing ++ moving ++ lifting) ∧
        Shape .updated (byState reliefContacts) pressing moving lifting ∧
        pressing.length = 2 ∧ moving.length = 1 ∧ lifting.length = 2 ∧
        ((pressing ++ moving ++ lifting).map (·.id)).Pairwise (· < ·) := by
  have hbind : threeDown.slots.bindBatch relief.batch.points
      = .ok (reliefContacts, { used := 25, bindings := [(7, 0), (5, 4), (9, 3)] }) := rfl
  obtain ⟨-, q, pressing, moving, lifting, hans, hmotion, hshape, -, -, -, hids⟩ :=
    batch_shape hbind (by decide) (by decide) rfl
  refine ⟨_, hbind, by decide, by decide, rfl, ?_, q, pressing, moving, lifting, hans, hmotion,
    hshape, hshape.length_pressing.trans ?_, hshape.length_moving.trans ?_,
    hshape.length_lifting.trans ?_, hids⟩
  all_goals rw [← deliveryOrder_eq_byState]; decide

end ViewInput.Touch
