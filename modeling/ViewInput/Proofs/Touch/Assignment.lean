import ViewInput.Proofs.Touch.Allocation

/-!
# The slots of a batch

A batch may name any fingers, in any states and several times.  **It fails exactly if the fingers
that it names and those that are bound are more than sixteen**, and then the slots are as they were
(`batch_all_or_nothing`).

Otherwise its fingers get their slots in order.  Those that are bound already keep theirs, and the
`newcomers` take the least of the free slots, one after another, each when it is first named
(`bindings_bindAll`).  The fingers that the batch releases leave when all have their slots, so that
no slot serves two fingers of one batch.
-/

namespace ViewInput.Touch.Slots

open Device (TouchPoint)

variable {s s' : Slots} {points : List TouchPoint} {contacts : List Contact}

/-! ## Who is new, and what is free -/

/-- The slots that no finger has, from the least on. -/
def freeSlots (s : Slots) : List Nat :=
  (List.range maxFingers).filter fun slot => decide (slot ∉ s.bindings.map Prod.snd)

/-- The fingers of some points that are not bound, each where it is first named. -/
def newcomers (s : Slots) (points : List TouchPoint) : List Int :=
  ((fingersOf points).filter fun finger => decide (finger ∉ s.fingers)).eraseDups

lemma head?_freeSlots (h : s.Valid) : s.freeSlots.head? = s.leastFree? := by
  rw [freeSlots, List.head?_filter, leastFree?]
  congr 1
  funext slot
  rw [Bool.eq_iff_iff, decide_eq_true_eq, Bool.not_eq_true', ← Bool.not_eq_true, h.used_iff]

/-- The free slots are the least one and those that are free once it is taken. -/
lemma freeSlots_add (h : s.Valid) {slot : Nat} (hfree : s.leastFree? = some slot) (finger : Int) :
    s.freeSlots = slot :: (s.add finger slot).freeSlots := by
  have hrest : (s.add finger slot).freeSlots = s.freeSlots.filter fun n => decide (n ≠ slot) := by
    rw [freeSlots, freeSlots, List.filter_filter]
    refine List.filter_congr fun n _ => ?_
    rw [Bool.eq_iff_iff]
    simp only [add, List.map_append, List.map_singleton, List.mem_append, List.mem_singleton,
      not_or, Bool.and_eq_true, decide_eq_true_eq, ne_eq]
    exact and_comm
  rw [← head?_freeSlots h] at hfree
  obtain ⟨others, hcons⟩ := List.head?_eq_some_iff.mp hfree
  have hnodup : s.freeSlots.Nodup := List.nodup_range.filter _
  rw [hcons, List.nodup_cons] at hnodup
  rw [hrest, hcons, List.filter_cons_of_neg (by simp), List.filter_eq_self.mpr]
  rintro n hn
  simpa using fun heq : n = slot => hnodup.1 (heq ▸ hn)

lemma newcomers_of_bound {p : TouchPoint} (hf : p.finger ∈ s.fingers) :
    s.newcomers (p :: points) = s.newcomers points := by
  rw [newcomers, fingersOf, List.map_cons, List.filter_cons_of_neg (by simpa using hf)]
  rfl

lemma newcomers_of_unbound {p : TouchPoint} (hf : p.finger ∉ s.fingers) (slot : Nat) :
    s.newcomers (p :: points) = p.finger :: (s.add p.finger slot).newcomers points := by
  rw [newcomers, fingersOf, List.map_cons, List.filter_cons_of_pos (by simpa using hf),
    List.eraseDups_cons, List.filter_filter, newcomers]
  congr 2
  refine List.filter_congr fun f _ => ?_
  rw [Bool.eq_iff_iff, Bool.and_eq_true, decide_eq_true_eq, decide_eq_true_eq]
  simp only [fingers, add, List.map_append, List.map_singleton, List.mem_append,
    List.mem_singleton, not_or, Bool.not_eq_true', beq_eq_false_iff_ne, ne_eq]
  exact and_comm

/-! ## Binding a batch -/

/-- **The bindings that a batch adds** stand last: the newcomers in order, with the least free slots
in order. -/
lemma bindings_bindAll (h : s.Valid) (hall : s.bindAll points = .ok (contacts, s')) :
    ∃ new, s'.bindings = s.bindings ++ new ∧ new.map Prod.fst = s.newcomers points ∧
      new.map Prod.snd <+: s.freeSlots := by
  induction points generalizing s contacts with
  | nil =>
      simp only [bindAll, Except.ok.injEq, Prod.mk.injEq] at hall
      obtain ⟨-, rfl⟩ := hall
      exact ⟨[], (List.append_nil _).symm, rfl, List.nil_prefix⟩
  | cons p rest ih =>
      obtain ⟨slot, mid, more, hbind, hrest, rfl⟩ := bindAll_cons_eq_ok hall
      rcases bind_cases h p.finger with
        ⟨n, hslot, hbind'⟩ | ⟨hf, -, n, hfree, hbind'⟩ | ⟨-, -, hbind'⟩
      · rw [hbind, Except.ok.injEq, Prod.mk.injEq] at hbind'
        obtain ⟨rfl, rfl⟩ := hbind'
        have hf : p.finger ∈ mid.fingers := by
          by_contra hf
          simp [slot?_eq_none_iff.mpr hf] at hslot
        rw [newcomers_of_bound hf]
        exact ih h hrest
      · rw [hbind, Except.ok.injEq, Prod.mk.injEq] at hbind'
        obtain ⟨rfl, rfl⟩ := hbind'
        obtain ⟨new, hbindings, hfingers, hslots⟩ := ih (valid_add h hf hfree) hrest
        refine ⟨(p.finger, slot) :: new, ?_, ?_, ?_⟩
        · rw [hbindings, add, List.append_assoc, List.singleton_append]
        · rw [List.map_cons, hfingers, newcomers_of_unbound hf]
        · rw [List.map_cons, freeSlots_add h hfree p.finger]
          exact (List.prefix_cons_inj slot).mpr hslots
      · simp [hbind] at hbind'

/-- A batch that is not bound found all slots taken. -/
lemma eq_of_bindAll_eq_error (h : s.Valid) {e : InputError} (hall : s.bindAll points = .error e) :
    e = .tooManyTouches maxFingers := by
  induction points generalizing s with
  | nil => simp [bindAll] at hall
  | cons p rest ih =>
      have hnext : ∀ {slot mid}, mid.Valid → s.bind p.finger = .ok (slot, mid) →
          e = .tooManyTouches maxFingers := by
        intro slot mid hmid hbind
        refine ih hmid ?_
        simp only [bindAll, hbind] at hall
        cases hrest : mid.bindAll rest with
        | error e' => simpa [hrest] using hall
        | ok bound => simp [hrest] at hall
      rcases bind_cases h p.finger with
        ⟨slot, -, hbind⟩ | ⟨hf, -, slot, hfree, hbind⟩ | ⟨-, -, hbind⟩
      · exact hnext h hbind
      · exact hnext (valid_add h hf hfree) hbind
      · simpa [bindAll, hbind] using hall.symm

/-- Slots with many fingers are not valid, so that a batch of too many is not bound. -/
lemma bindAll_of_lt (h : s.Valid)
    (hmany : maxFingers < (s.fingers ++ fingersOf points).toFinset.card) :
    s.bindAll points = .error (.tooManyTouches maxFingers) := by
  cases hall : s.bindAll points with
  | error e => rw [eq_of_bindAll_eq_error h hall]
  | ok bound =>
      have hb := bindAll_bound h hall
      have hsub : (s.fingers ++ fingersOf points).toFinset ⊆ bound.2.fingers.toFinset := by
        intro f hf
        rw [List.mem_toFinset, List.mem_append] at hf
        rw [List.mem_toFinset, hb.mem_fingers_iff]
        exact hf
      have hfew : (s.fingers ++ fingersOf points).toFinset.card ≤ maxFingers :=
        calc (s.fingers ++ fingersOf points).toFinset.card
            ≤ bound.2.fingers.toFinset.card := Finset.card_le_card hsub
          _ ≤ bound.2.fingers.length := List.toFinset_card_le _
          _ = bound.2.liveCount := List.length_map _
          _ ≤ maxFingers := liveCount_le hb.valid
      exact absurd hfew (Nat.not_le.mpr hmany)

/-! ## What a batch gets -/

/-- **What a batch gets**: its points in order, each with the slot of its finger. -/
structure Assigned (s : Slots) (points : List TouchPoint) (contacts : List Contact) (s' : Slots) :
    Prop where
  points_eq : contacts.map (·.point) = points
  /-- One finger has one slot, and two fingers have two. -/
  slot_eq_iff : ∀ c ∈ contacts, ∀ d ∈ contacts, c.slot = d.slot ↔ c.point.finger = d.point.finger
  /-- A finger that was bound has the slot that it had. -/
  old : ∀ c ∈ contacts, ∀ slot, s.slot? c.point.finger = some slot → c.slot = slot
  /-- The newcomers have the least free slots in order. -/
  new : ∀ c ∈ contacts, ∀ i : Nat, (s.newcomers points)[i]? = some c.point.finger →
    s.freeSlots[i]? = some c.slot
  /-- The fingers bound afterwards are the old ones and those named, without those released. -/
  fingers_iff : ∀ f, f ∈ s'.fingers ↔
    (f ∈ s.fingers ∨ f ∈ fingersOf points) ∧ f ∉ releasedFingers points
  /-- They have the slots that they had, or that the batch got. -/
  binding_iff : ∀ b, b ∈ s'.bindings ↔
    (b ∈ s.bindings ∨ ∃ c ∈ contacts, c.hand = b) ∧ b.1 ∉ releasedFingers points

lemma Bound.mem_iff (hb : Bound s points contacts s') (b : Int × Nat) :
    b ∈ s'.bindings ↔ b ∈ s.bindings ∨ ∃ c ∈ contacts, c.hand = b := by
  constructor
  · intro hmem
    rcases hb.fingers_sub b.1 (List.mem_map.mpr ⟨b, hmem, rfl⟩) with hf | hf
    · obtain ⟨b', hmem', hbb⟩ := List.mem_map.mp hf
      have heq := List.inj_on_of_nodup_map hb.valid.fingers_nodup (hb.old_mem b' hmem') hmem hbb
      exact Or.inl (heq ▸ hmem')
    · rw [← hb.points_eq, fingersOf, List.map_map] at hf
      obtain ⟨c, hc, hcb⟩ := List.mem_map.mp hf
      exact Or.inr ⟨c, hc,
        List.inj_on_of_nodup_map hb.valid.fingers_nodup (hb.hand_mem c hc) hmem hcb⟩
  · rintro (hmem | ⟨c, hc, rfl⟩)
    · exact hb.old_mem b hmem
    · exact hb.hand_mem c hc

lemma assigned_of_bindAll (h : s.Valid) (hall : s.bindAll points = .ok (contacts, s')) :
    Assigned s points contacts (s'.releaseAll (releasedFingers points)) := by
  have hb := bindAll_bound h hall
  obtain ⟨new, hbindings, hfingers, hslots⟩ := bindings_bindAll h hall
  have hafter : ∀ b, b ∈ (s'.releaseAll (releasedFingers points)).bindings ↔
      (b ∈ s.bindings ∨ ∃ c ∈ contacts, c.hand = b) ∧ b.1 ∉ releasedFingers points := by
    intro b
    rw [(bindings_releaseAll hb.valid _).mem_iff, List.mem_filter, decide_eq_true_eq, hb.mem_iff]
  refine ⟨hb.points_eq, fun c hc d hd => ?_, fun c hc slot hslot => ?_, fun c hc i hi => ?_,
    fun f => ?_, hafter⟩
  · exact (finger_eq_iff_slot_eq hb.valid (hb.hand_mem c hc) (hb.hand_mem d hd)).symm
  · have hold := hb.old_mem _ ((slot?_eq_some_iff h).mp hslot)
    exact congrArg Prod.snd
      (List.inj_on_of_nodup_map hb.valid.fingers_nodup (hb.hand_mem c hc) hold rfl)
  · rw [← hfingers, List.getElem?_map, Option.map_eq_some_iff] at hi
    obtain ⟨b, hi, hf⟩ := hi
    have hmem : b ∈ s'.bindings := by
      rw [hbindings]
      exact List.mem_append_right _ (List.mem_of_getElem? hi)
    obtain rfl : c.hand = b :=
      List.inj_on_of_nodup_map hb.valid.fingers_nodup (hb.hand_mem c hc) hmem hf.symm
    have hslot : (new.map Prod.snd)[i]? = some c.slot := by
      rw [List.getElem?_map, hi]
      rfl
    obtain ⟨others, hslots⟩ := hslots
    rw [← hslots, List.getElem?_append_left (List.getElem?_eq_some_iff.mp hslot).1, hslot]
  · rw [mem_fingers_releaseAll hb.valid, hb.mem_fingers_iff]

/-- **A batch gets all or nothing**, after any run of the slots.  It fails exactly if the fingers
that are bound and those that it names are more than sixteen, and then the slots are as they were,
bits and bindings.  Otherwise every point is answered by what the batch gets. -/
theorem batch_all_or_nothing (calls : List Call) (points : List TouchPoint) :
    let s := empty.after calls
    let named := (s.fingers ++ fingersOf points).toFinset
    (maxFingers < named.card →
      s.takeBatch points = (.error (.tooManyTouches maxFingers), s)) ∧
    (named.card ≤ maxFingers → ∃ contacts s', s.takeBatch points = (.ok contacts, s') ∧
      Assigned s points contacts s') := by
  intro s named
  have h : s.Valid := valid_after valid_empty calls
  refine ⟨fun hmany => ?_, fun hfew => ?_⟩
  · rw [takeBatch_eq h, bindBatch, bindAll_of_lt h hmany]
  · obtain ⟨contacts, s', hall, -⟩ := bindAll_spec h points hfew
    refine ⟨contacts, _, ?_, assigned_of_bindAll h hall⟩
    rw [takeBatch_eq h, bindBatch, hall]

/-- Three fingers go down and the second leaves. -/
def threeFingers : List Call := [.batch (pointsOf .pressed [7, 8, 9]), .release 8]

/-- Two new fingers.  One of them is named twice and goes up at once, and an old one goes up too. -/
def mixedBatch : List TouchPoint :=
  pointsOf .pressed [4] ++ pointsOf .updated [9] ++ pointsOf .released [4] ++ pointsOf .pressed [5]
    ++ pointsOf .released [7]

/-- After `crowd` one slot is free.  The batch gives it to finger 30 before it fails at finger 31,
and finger 0, which it would release, keeps its own. -/
theorem batch_all_or_nothing_mixedBatch :
    (maxFingers < ((empty.after crowd).fingers
        ++ fingersOf (pointsOf .pressed [21, 30] ++ pointsOf .released [0, 31])).toFinset.card ∧
      (empty.after crowd).takeBatch (pointsOf .pressed [21, 30] ++ pointsOf .released [0, 31])
        = (.error (.tooManyTouches maxFingers), empty.after crowd)) ∧
    (((empty.after threeFingers).fingers ++ fingersOf mixedBatch).toFinset.card ≤ maxFingers ∧
      ∃ contacts s', (empty.after threeFingers).takeBatch mixedBatch = (.ok contacts, s') ∧
        Assigned (empty.after threeFingers) mixedBatch contacts s' ∧
        contacts.map (·.slot) = [1, 2, 1, 3, 0] ∧ s'.fingers = [5, 9]) := by
  have hmany : maxFingers < ((empty.after crowd).fingers
      ++ fingersOf (pointsOf .pressed [21, 30] ++ pointsOf .released [0, 31])).toFinset.card := by
    decide
  have hfew : ((empty.after threeFingers).fingers ++ fingersOf mixedBatch).toFinset.card
      ≤ maxFingers := by
    decide
  obtain ⟨contacts, s', htake, hassigned⟩ :=
    (batch_all_or_nothing threeFingers mixedBatch).2 hfew
  have hslots : ((empty.after threeFingers).takeBatch mixedBatch).1.toOption.map
      (·.map (·.slot)) = some [1, 2, 1, 3, 0] := by
    decide
  have hfingers : ((empty.after threeFingers).takeBatch mixedBatch).2.fingers = [5, 9] := by
    decide
  rw [htake] at hslots hfingers
  exact ⟨⟨hmany, (batch_all_or_nothing crowd _).1 hmany⟩, hfew, contacts, s', htake, hassigned,
    Option.some.inj hslots, hfingers⟩

end ViewInput.Touch.Slots
