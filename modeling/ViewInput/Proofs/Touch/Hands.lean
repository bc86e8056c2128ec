import Mathlib.Data.List.Nodup
import ViewInput.Proofs.Touch.Slots
import ViewInput.Touch.Motion

/-!
# What motion events tell of the fingers

A page that reads motion events one by one knows which fingers are down.  `Tells` is what one event
may say to it: **a finger goes down that was up, or up that was down, and the event lists exactly
the fingers that are down**, the one going down or up among them.  `Story` is a run of such events.

The events of a batch are built in three runs, and each is a story of its own: the fingers that go
down (`story_downRun`), the movement (`story_moves`), and the fingers that go up (`story_upRun`).
`story_drafts` is the three of them together.
-/

namespace ViewInput.Touch

open Device (TouchKind TouchPoint TouchState)
open Page (EventId MotionAction MotionEvent)

/-- The fingers that are down, each with its slot.  Their order says nothing. -/
abbrev Hands := List (Int × Nat)

/-- What a finger does in a motion event. -/
inductive Deed where
  | press (finger : Int)
  | move
  | lift (finger : Int)
  | cancel
deriving DecidableEq

def Deed.isPress : Deed → Bool
  | .press _ => true
  | _ => false

def Deed.isLift : Deed → Bool
  | .lift _ => true
  | _ => false

/-- The event says that a finger goes down. -/
def goesDown (e : MotionEvent) : Bool := decide (e.action = .down ∨ e.action = .pointerDown)

/-- The event says that a finger goes up. -/
def goesUp (e : MotionEvent) : Bool := decide (e.action = .up ∨ e.action = .pointerUp)

/-- The slots that an event lists. -/
def listed (e : MotionEvent) : List Nat := e.pointers.map (·.slot)

/-- The slot that an event says goes down or up. -/
def acting? (e : MotionEvent) : Option Nat := e.actionPointer.map (·.slot)

/-! ## One event -/

/-- **What one event may tell**, given the fingers that are down before it, and those that are down
after it. -/
inductive Tells : Hands → MotionEvent → Deed → Hands → Prop
  /-- The first finger: nothing else is down. -/
  | down {e : MotionEvent} {finger : Int} {slot : Nat} (action : e.action = .down)
      (lists : listed e = [slot]) : Tells [] e (.press finger) [(finger, slot)]
  /-- A further finger, with a slot that no other has. -/
  | pointerDown {hands after : Hands} {e : MotionEvent} {finger : Int} {slot : Nat}
      (action : e.action = .pointerDown) (others : hands ≠ []) (acts : acting? e = some slot)
      (newFinger : finger ∉ hands.map Prod.fst) (newSlot : slot ∉ hands.map Prod.snd)
      (lists : (listed e).Perm (slot :: hands.map Prod.snd))
      (now : after.Perm ((finger, slot) :: hands)) : Tells hands e (.press finger) after
  | move {hands after : Hands} {e : MotionEvent} (action : e.action = .move)
      (lists : (listed e).Perm (hands.map Prod.snd)) (now : after.Perm hands) :
      Tells hands e .move after
  /-- A finger goes up while others stay. -/
  | pointerUp {hands after : Hands} {e : MotionEvent} {finger : Int} {slot : Nat}
      (action : e.action = .pointerUp) (others : after ≠ []) (acts : acting? e = some slot)
      (was : hands.Perm ((finger, slot) :: after))
      (lists : (listed e).Perm (hands.map Prod.snd)) : Tells hands e (.lift finger) after
  /-- The last finger goes up. -/
  | up {e : MotionEvent} {finger : Int} {slot : Nat} (action : e.action = .up)
      (lists : listed e = [slot]) : Tells [(finger, slot)] e (.lift finger) []
  /-- The touch is over for all fingers that are down. -/
  | cancel {hands : Hands} {e : MotionEvent} (action : e.action = .cancel) (others : hands ≠ [])
      (lists : ∀ hand ∈ hands, hand.2 ∈ listed e) : Tells hands e .cancel []

/-- What an event tells does not depend on the order of the fingers before it. -/
lemma Tells.perm_left {a b c : Hands} {e : MotionEvent} {d : Deed} (h : Tells b e d c)
    (hp : a.Perm b) : Tells a e d c := by
  cases h with
  | down action lists => rw [List.perm_nil.mp hp]; exact .down action lists
  | pointerDown action others acts newFinger newSlot lists now =>
      refine .pointerDown action ?_ acts ?_ ?_ (lists.trans ((hp.map _).symm.cons _))
        (now.trans (hp.symm.cons _))
      · rintro rfl
        exact others (List.nil_perm.mp hp)
      · exact fun hm => newFinger ((hp.map _).mem_iff.mp hm)
      · exact fun hm => newSlot ((hp.map _).mem_iff.mp hm)
  | move action lists now => exact .move action (lists.trans (hp.map _).symm) (now.trans hp.symm)
  | pointerUp action others acts was lists =>
      exact .pointerUp action others acts (hp.trans was) (lists.trans (hp.map _).symm)
  | up action lists => rw [List.perm_singleton.mp hp]; exact .up action lists
  | cancel action others lists =>
      refine .cancel action ?_ fun hand hm => lists hand (hp.mem_iff.mp hm)
      rintro rfl
      exact others (List.nil_perm.mp hp)

lemma Tells.goesDown_eq {a b : Hands} {e : MotionEvent} {d : Deed} (h : Tells a e d b) :
    goesDown e = d.isPress := by
  cases h <;> simp [goesDown, Deed.isPress, *]

lemma Tells.goesUp_eq {a b : Hands} {e : MotionEvent} {d : Deed} (h : Tells a e d b) :
    goesUp e = d.isLift := by
  cases h <;> simp [goesUp, Deed.isLift, *]

/-! ## Runs of events -/

/-- **A run of events**, with what the fingers do in it. -/
inductive Story : Hands → List MotionEvent → List Deed → Hands → Prop
  | nil {hands after : Hands} (same : hands.Perm after) : Story hands [] [] after
  | cons {hands mid after : Hands} {e : MotionEvent} {events : List MotionEvent} {d : Deed}
      {deeds : List Deed} (first : Tells hands e d mid) (rest : Story mid events deeds after) :
      Story hands (e :: events) (d :: deeds) after

namespace Story

variable {a b c : Hands} {events more : List MotionEvent} {deeds further : List Deed}

lemma perm_left (h : Story b events deeds c) (hp : a.Perm b) : Story a events deeds c := by
  cases h with
  | nil same => exact .nil (hp.trans same)
  | cons first rest => exact .cons (first.perm_left hp) rest

lemma single {e : MotionEvent} {d : Deed} (h : Tells a e d b) : Story a [e] [d] b :=
  .cons h (.nil (.refl b))

/-- One run after another. -/
lemma append (h : Story a events deeds b) (h' : Story b more further c) :
    Story a (events ++ more) (deeds ++ further) c := by
  induction h with
  | nil same => exact h'.perm_left same
  | cons first _ ih => exact .cons first (ih h')

lemma perm_right (h : Story a events deeds b) (hp : b.Perm c) : Story a events deeds c := by
  simpa using h.append (.nil hp)

/-- One event for each finger that goes down. -/
lemma countP_goesDown (h : Story a events deeds b) :
    events.countP goesDown = deeds.countP Deed.isPress := by
  induction h with
  | nil => rfl
  | cons first _ ih => rw [List.countP_cons, List.countP_cons, first.goesDown_eq, ih]

/-- One event for each finger that goes up. -/
lemma countP_goesUp (h : Story a events deeds b) :
    events.countP goesUp = deeds.countP Deed.isLift := by
  induction h with
  | nil => rfl
  | cons first _ ih => rw [List.countP_cons, List.countP_cons, first.goesUp_eq, ih]

end Story

/-! ## Drafts

Everything that `Tells` asks of an event is settled before the event has an id.
-/

section Drafts

variable (modifiers : Page.Modifiers) (time : Nat) (id : EventId)

lemma listed_event (d : Draft) :
    listed (d.event modifiers time id) = d.contacts.map (·.slot) := by
  simp only [listed, Draft.event, List.map_map]
  rfl

lemma actionPointer_event {d : Draft} {i : Nat} {c : Contact} (hi : d.index = some i)
    (hc : d.contacts[i]? = some c) :
    (d.event modifiers time id).actionPointer = some (pointer c) := by
  simp [Page.MotionEvent.actionPointer, Draft.event, hi, hc]

lemma acting?_event {d : Draft} {i : Nat} {c : Contact} (hi : d.index = some i)
    (hc : d.contacts[i]? = some c) : acting? (d.event modifiers time id) = some c.slot := by
  rw [acting?, actionPointer_event modifiers time id hi hc]
  rfl

/-- The event at a place is that of the draft there. -/
lemma getElem?_events (drafts : List Draft) (i : Nat) : (events modifiers time drafts id)[i]?
    = drafts[i]?.map fun d => d.event modifiers time (id + i) := by
  induction drafts generalizing id i with
  | nil => rfl
  | cons d rest ih =>
      cases i with
      | zero => rfl
      | succ i =>
          rw [events, List.getElem?_cons_succ, List.getElem?_cons_succ, ih, Nat.add_assoc,
            Nat.add_comm 1]

lemma events_append (first second : List Draft) :
    events modifiers time (first ++ second) id
      = events modifiers time first id ++ events modifiers time second (id + first.length) := by
  induction first generalizing id with
  | nil => rfl
  | cons d rest ih =>
      simp only [List.cons_append, events, ih, List.length_cons]
      rw [Nat.add_assoc, Nat.add_comm 1]

end Drafts

/-- A run of drafts that is a story whatever the events share. -/
def Told (hands : Hands) (drafts : List Draft) (deeds : List Deed) (after : Hands) : Prop :=
  ∀ (modifiers : Page.Modifiers) (time : Nat) (id : EventId),
    Story hands (events modifiers time drafts id) deeds after

namespace Told

variable {a b c : Hands} {drafts more : List Draft} {deeds further : List Deed}

lemma nil (hp : a.Perm b) : Told a [] [] b := fun _ _ _ => .nil hp

lemma single {d : Draft} {deed : Deed}
    (h : ∀ modifiers time id, Tells a (d.event modifiers time id) deed b) : Told a [d] [deed] b :=
  fun modifiers time id => .single (h modifiers time id)

lemma append (h : Told a drafts deeds b) (h' : Told b more further c) :
    Told a (drafts ++ more) (deeds ++ further) c := by
  intro modifiers time id
  rw [events_append]
  exact (h modifiers time id).append (h' modifiers time _)

lemma perm_left (h : Told b drafts deeds c) (hp : a.Perm b) : Told a drafts deeds c :=
  fun modifiers time id => (h modifiers time id).perm_left hp

lemma perm_right (h : Told a drafts deeds b) (hp : b.Perm c) : Told a drafts deeds c :=
  fun modifiers time id => (h modifiers time id).perm_right hp

end Told

/-! ## Fingers that go down -/

/-- The fingers of some contacts, with their slots. -/
abbrev handsOf (contacts : List Contact) : Hands := contacts.map Contact.hand

/-- The events of some pressed fingers, given everything that is not pressed. -/
def downRun (kind : TouchKind) (pressed others : List Contact) : List Draft :=
  (List.range pressed.length).map fun i =>
    if kind = .began ∧ i = 0 then ⟨.down, none, pressed.take (i + 1) ++ others⟩
    else ⟨.pointerDown, some i, pressed.take (i + 1) ++ others⟩

/-- The events of pressed fingers depend on the pressed fingers at the front only. -/
lemma downs_eq_downRun {kind : TouchKind} {pressed others : List Contact}
    (h : inState .pressed (pressed ++ others) = pressed) :
    downs kind (pressed ++ others) = downRun kind pressed others := by
  simp [downs, downRun, h]

/-- One finger more goes down last. -/
lemma downRun_concat (kind : TouchKind) (pressed others : List Contact) (c : Contact) :
    downRun kind (pressed ++ [c]) others = downRun kind pressed others ++
      [if kind = .began ∧ pressed.length = 0 then ⟨.down, none, pressed ++ c :: others⟩
        else ⟨.pointerDown, some pressed.length, pressed ++ c :: others⟩] := by
  have hlast : (pressed ++ [c]).take (pressed.length + 1) = pressed ++ [c] :=
    List.take_of_length_le (by simp)
  simp only [downRun, List.length_append, List.length_singleton, List.range_succ, List.map_append,
    List.map_cons, List.map_nil, hlast, List.append_assoc, List.singleton_append]
  congr 1
  refine List.map_congr_left fun i hi => ?_
  have hlt := List.mem_range.mp hi
  rw [List.take_append_of_le_length (by omega)]

/-- **Fingers go down one by one.**  Only a fresh touch begins with nothing down. -/
lemma story_downRun {kind : TouchKind} {pressed others : List Contact}
    (hkind : kind = .began ↔ others = [])
    (hf : ((pressed ++ others).map (·.point.finger)).Nodup)
    (hs : ((pressed ++ others).map (·.slot)).Nodup) :
    Told (handsOf others) (downRun kind pressed others)
      (pressed.map fun c => .press c.point.finger) (handsOf (pressed ++ others)) := by
  induction pressed using List.reverseRecOn with
  | nil => exact .nil (.refl _)
  | append_singleton pressed c ih =>
      have hperm : (pressed ++ [c] ++ others).Perm (c :: (pressed ++ others)) := by simp
      have hf' := (hperm.map (·.point.finger)).nodup_iff.mp hf
      have hs' := (hperm.map (·.slot)).nodup_iff.mp hs
      simp only [List.map_cons, List.nodup_cons] at hf' hs'
      rw [downRun_concat, List.map_append, List.map_singleton]
      refine (ih hf'.2 hs'.2).append (.single fun modifiers time id => ?_)
      split
      · rename_i hfirst
        have hothers := hkind.mp hfirst.1
        have hpressed := List.length_eq_zero_iff.mp hfirst.2
        subst hothers hpressed
        exact .down rfl (by simp [listed_event])
      · rename_i hfirst
        refine .pointerDown rfl ?_ (acting?_event (c := c) _ _ _ rfl (by simp)) ?_ ?_ ?_ ?_
        · intro hnil
          simp only [handsOf, List.map_eq_nil_iff, List.append_eq_nil_iff] at hnil
          exact hfirst ⟨hkind.mpr hnil.2, by simp [hnil.1]⟩
        · simpa [handsOf, Contact.hand, Function.comp_def] using hf'.1
        · simpa [handsOf, Contact.hand, Function.comp_def] using hs'.1
        · simp [listed_event, handsOf, Contact.hand, Function.comp_def]
        · exact hperm.map Contact.hand

/-! ## The movement -/

/-- A movement lists every finger that is down. -/
lemma story_moves (contacts : List Contact) :
    Told (handsOf contacts) (moves contacts)
      (if contacts.any fun c => decide (c.point.state = .updated) then [.move] else [])
      (handsOf contacts) := by
  unfold moves
  split
  · refine .single fun modifiers time id => .move rfl ?_ (.refl _)
    simp [listed_event, handsOf, Contact.hand, Function.comp_def]
  · exact .nil (.refl _)

/-! ## Fingers that go up -/

/-- The events of the last `n` contacts, which go up from the last on. -/
def upRun (contacts : List Contact) (n : Nat) : List Draft :=
  (List.range n).map fun i =>
    let remaining := contacts.take (contacts.length - i)
    if remaining.length = 1 then ⟨.up, none, remaining⟩
    else ⟨.pointerUp, some (remaining.length - 1), remaining⟩

lemma ups_eq_upRun (contacts : List Contact) :
    ups contacts = upRun contacts (inState .released contacts).length := rfl

/-- The last finger goes up first. -/
lemma upRun_concat (contacts : List Contact) (c : Contact) (n : Nat) :
    upRun (contacts ++ [c]) (n + 1) =
      (if contacts = [] then ⟨.up, none, [c]⟩
        else ⟨.pointerUp, some contacts.length, contacts ++ [c]⟩) :: upRun contacts n := by
  simp only [upRun, List.range_succ_eq_map, List.map_cons, List.map_map, List.length_append,
    List.length_singleton, Nat.sub_zero]
  congr 1
  · rw [List.take_of_length_le (by simp)]
    by_cases hnil : contacts = []
    · simp [hnil]
    · simp [hnil]
  · refine List.map_congr_left fun i hi => ?_
    have hlt := List.mem_range.mp hi
    have htake : (contacts ++ [c]).take (contacts.length + 1 - (i + 1))
        = contacts.take (contacts.length - i) := by
      rw [Nat.add_sub_add_right, List.take_append_of_le_length (Nat.sub_le _ _)]
    simp only [Function.comp_apply, Nat.succ_eq_add_one, htake]

/-- **Fingers go up one by one**, from the last. -/
lemma story_upRun (staying released : List Contact) :
    Told (handsOf (staying ++ released)) (upRun (staying ++ released) released.length)
      (released.reverse.map fun c => .lift c.point.finger) (handsOf staying) := by
  induction released using List.reverseRecOn with
  | nil => simpa [upRun] using Told.nil (.refl _)
  | append_singleton released c ih =>
      have hperm : (staying ++ (released ++ [c])).Perm (c :: (staying ++ released)) := by
        rw [← List.append_assoc]
        exact List.perm_append_singleton c _
      rw [← List.append_assoc, List.length_append, List.length_singleton,
        upRun_concat, List.reverse_append, List.reverse_singleton,
        List.singleton_append, List.map_cons, ← List.singleton_append, ← List.singleton_append]
      refine Told.append (.single fun modifiers time id => ?_) ih
      split
      · rename_i hnil
        simpa [hnil, handsOf, Contact.hand] using
          Tells.up (e := Draft.event _ modifiers time id) rfl (by simp [listed_event])
      · rename_i hne
        refine .pointerUp rfl ?_ (acting?_event (c := c) _ _ _ rfl (by simp)) ?_ ?_
        · simpa [handsOf] using hne
        · simpa [handsOf, Contact.hand] using hperm.map Contact.hand
        · simp [listed_event, handsOf, Contact.hand, Function.comp_def]

/-! ## A whole batch -/

/-- The points in one state. -/
def pointsIn (state : TouchState) (points : List TouchPoint) : List TouchPoint :=
  points.filter fun p => decide (p.state = state)

/-- What the fingers of some points do: they go down, they move, and they go up from the last on. -/
def deedsOf (points : List TouchPoint) : List Deed :=
  (pointsIn .pressed points).map (fun p => .press p.finger)
    ++ (if points.any fun p => decide (p.state = .updated) then [.move] else [])
    ++ (pointsIn .released points).reverse.map fun p => .lift p.finger

lemma map_point_inState (state : TouchState) (contacts : List Contact) :
    (inState state contacts).map (·.point) = pointsIn state (contacts.map (·.point)) := by
  simp only [inState, pointsIn, List.filter_map, Function.comp_def]

/-- Contacts that are not in a state. -/
def notInState (state : TouchState) (contacts : List Contact) : List Contact :=
  contacts.filter fun c => decide (c.point.state ≠ state)

lemma inState_inState (state other : TouchState) (contacts : List Contact) :
    inState state (inState other contacts) = if state = other then inState other contacts else [] := by
  unfold inState
  rw [List.filter_filter]
  split
  · rename_i h
    subst h
    simp
  · rename_i h
    simp only [List.filter_eq_nil_iff, Bool.and_eq_true, decide_eq_true_eq, not_and]
    exact fun c _ hs ho => h (hs.symm.trans ho)

lemma count_inState (state : TouchState) (contacts : List Contact) (c : Contact) :
    (inState state contacts).count c = if c.point.state = state then contacts.count c else 0 := by
  unfold inState
  split
  · rename_i h
    exact List.count_filter (by simpa using h)
  · rename_i h
    exact List.count_eq_zero.mpr fun hm => h (by simpa using (List.mem_filter.mp hm).2)

lemma count_notInState (state : TouchState) (contacts : List Contact) (c : Contact) :
    (notInState state contacts).count c = if c.point.state = state then 0 else contacts.count c := by
  unfold notInState
  split
  · rename_i h
    exact List.count_eq_zero.mpr fun hm => absurd h (by simpa using (List.mem_filter.mp hm).2)
  · rename_i h
    exact List.count_filter (by simpa using h)

/-- The order of delivery is an order of the contacts. -/
lemma deliveryOrder_perm (contacts : List Contact) : (deliveryOrder contacts).Perm contacts := by
  refine List.perm_iff_count.mpr fun c => ?_
  simp only [deliveryOrder, List.count_append, count_inState]
  cases c.point.state <;> simp

/-- Hands of some of the contacts are among the hands of the delivery. -/
lemma mem_handsOf_deliveryOrder {contacts : List Contact} {keep : Contact → Bool} {hands : Hands}
    (hperm : hands.Perm (handsOf (contacts.filter keep))) :
    ∀ hand ∈ hands, hand ∈ handsOf (deliveryOrder contacts) := by
  intro hand hm
  obtain ⟨c, hc, rfl⟩ := List.mem_map.mp (hperm.mem_iff.mp hm)
  exact List.mem_map.mpr
    ⟨c, (deliveryOrder_perm contacts).mem_iff.mpr (List.mem_of_mem_filter hc), rfl⟩

/-- The contacts between those that go down and those that go up. -/
def between (contacts : List Contact) : List Contact :=
  inState .updated contacts ++ inState .stationary contacts

lemma deliveryOrder_eq (contacts : List Contact) : deliveryOrder contacts =
    inState .pressed contacts ++ (between contacts ++ inState .released contacts) := by
  simp [deliveryOrder, between]

lemma before_perm (contacts : List Contact) :
    (between contacts ++ inState .released contacts).Perm (notInState .pressed contacts) := by
  refine List.perm_iff_count.mpr fun c => ?_
  simp only [between, List.count_append, count_inState, count_notInState]
  cases c.point.state <;> simp

lemma after_perm (contacts : List Contact) :
    (inState .pressed contacts ++ between contacts).Perm (notInState .released contacts) := by
  refine List.perm_iff_count.mpr fun c => ?_
  simp only [between, List.count_append, count_inState, count_notInState]
  cases c.point.state <;> simp

lemma inState_deliveryOrder (state : TouchState) (contacts : List Contact) :
    inState state (deliveryOrder contacts) = inState state contacts := by
  have happ : ∀ a b : List Contact, inState state (a ++ b) = inState state a ++ inState state b :=
    fun a b => List.filter_append a b
  simp only [deliveryOrder, happ, inState_inState]
  cases state <;> simp

/-- A batch that ends a touch has nothing to say but which fingers go up. -/
lemma drafts_eq {kind : TouchKind} {contacts : List Contact}
    (hended : kind = .ended → ∀ c ∈ contacts, c.point.state = .released) :
    drafts kind (deliveryOrder contacts) = downs kind (deliveryOrder contacts)
      ++ moves (deliveryOrder contacts) ++ ups (deliveryOrder contacts) := by
  cases kind with
  | ended =>
      have hall := hended rfl
      have hpressed : inState .pressed (deliveryOrder contacts) = [] := by
        rw [inState_deliveryOrder]
        exact List.filter_eq_nil_iff.mpr fun c hc => by simp [hall c hc]
      have hmoved : moves (deliveryOrder contacts) = [] := by
        refine if_neg fun hany => ?_
        obtain ⟨c, hc, hstate⟩ := List.any_eq_true.mp hany
        have := hall c ((deliveryOrder_perm contacts).mem_iff.mp hc)
        simp [this] at hstate
      simp [drafts, downs, hpressed, hmoved]
  | began => rfl
  | updated => rfl
  | cancelled => rfl

/-- **The story of a batch**: its fingers that were down before, then everything that happens, then
those that are down after it. -/
theorem story_drafts {kind : TouchKind} {contacts : List Contact}
    (hbegan : kind = .began ↔ notInState .pressed contacts = [])
    (hended : kind = .ended → ∀ c ∈ contacts, c.point.state = .released)
    (hf : (contacts.map (·.point.finger)).Nodup) (hs : (contacts.map (·.slot)).Nodup) :
    Told (handsOf (notInState .pressed contacts)) (drafts kind (deliveryOrder contacts))
      (deedsOf (contacts.map (·.point))) (handsOf (notInState .released contacts)) := by
  have hperm := deliveryOrder_perm contacts
  have hbefore := before_perm contacts
  have hdowns : Told (handsOf (notInState .pressed contacts)) (downs kind (deliveryOrder contacts))
      ((pointsIn .pressed (contacts.map (·.point))).map fun p => .press p.finger)
      (handsOf (deliveryOrder contacts)) := by
    have hpressed := inState_deliveryOrder .pressed contacts
    rw [← map_point_inState, List.map_map]
    rw [deliveryOrder_eq] at hperm hpressed ⊢
    rw [downs_eq_downRun hpressed]
    refine (story_downRun ?_ ?_ ?_).perm_left (hbefore.map _).symm
    · rw [hbegan]
      exact ⟨fun h => (h ▸ hbefore).eq_nil, fun h => (h ▸ hbefore.symm).eq_nil⟩
    · exact (hperm.map _).nodup_iff.mpr hf
    · exact (hperm.map _).nodup_iff.mpr hs
  have hmove := story_moves (deliveryOrder contacts)
  rw [hperm.any_eq] at hmove
  have hups : Told (handsOf (deliveryOrder contacts)) (ups (deliveryOrder contacts))
      ((pointsIn .released (contacts.map (·.point))).reverse.map fun p => .lift p.finger)
      (handsOf (notInState .released contacts)) := by
    rw [← map_point_inState, ← List.map_reverse, List.map_map, ups_eq_upRun,
      inState_deliveryOrder, deliveryOrder_eq, ← List.append_assoc]
    exact (story_upRun _ _).perm_right ((after_perm contacts).map _)
  rw [drafts_eq hended, deedsOf, List.any_map]
  exact (hdowns.append hmove).append hups

end ViewInput.Touch
