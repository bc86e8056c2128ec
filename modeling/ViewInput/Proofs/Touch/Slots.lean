import Mathlib.Data.Finset.Card
import ViewInput.Touch.Slots

/-!
# The slots of fingers

The slots are kept twice, as a set of bits and as a list of bindings.  `Slots.Valid` says that the
two agree and that **no finger and no slot is bound twice**; every operation keeps it.

On valid slots each operation has one law.  A finger is bound whenever fewer than sixteen are
(`bind_of_unbound`), a batch is bound whenever it and the fingers already bound are no more than
sixteen (`bindAll_spec`), and releasing fingers removes their bindings and no others
(`bindings_releaseAll`).
-/

namespace ViewInput.Touch

open Device (TouchPoint)

/-- A finger with its slot, as a binding. -/
def Contact.hand (c : Contact) : Int × Nat := (c.point.finger, c.slot)

namespace Slots

/-- The fingers that are bound. -/
def fingers (s : Slots) : List Int := s.bindings.map Prod.fst

/-- **Bits and bindings agree**, and no finger and no slot is bound twice. -/
structure Valid (s : Slots) : Prop where
  fingers_nodup : s.fingers.Nodup
  slots_nodup : (s.bindings.map Prod.snd).Nodup
  slot_lt : ∀ slot ∈ s.bindings.map Prod.snd, slot < maxFingers
  used_iff : ∀ slot, s.used.getLsbD slot = true ↔ slot ∈ s.bindings.map Prod.snd

lemma valid_empty : empty.Valid where
  fingers_nodup := List.nodup_nil
  slots_nodup := List.nodup_nil
  slot_lt := by simp [empty]
  used_iff := by simp [empty]

variable {s : Slots}

/-! ## Looking up -/

/-- The slot of a finger is the one it is bound to. -/
lemma slot?_eq_some_iff (h : s.Valid) {finger : Int} {slot : Nat} :
    s.slot? finger = some slot ↔ (finger, slot) ∈ s.bindings := by
  have hnd := h.fingers_nodup
  unfold fingers at hnd
  unfold slot?
  generalize s.bindings = l at hnd ⊢
  induction l with
  | nil => simp
  | cons b rest ih =>
      obtain ⟨f, n⟩ := b
      simp only [List.map_cons, List.nodup_cons] at hnd
      by_cases hf : finger = f
      · subst hf
        have hrest : (finger, slot) ∉ rest := fun hm =>
          hnd.1 (List.mem_map.mpr ⟨_, hm, rfl⟩)
        simp [hrest, eq_comm]
      · have hbeq : (finger == f) = false := by simpa using hf
        simp [List.lookup_cons, hbeq, ih hnd.2, hf]

/-- A finger has no slot exactly when it is not bound. -/
lemma slot?_eq_none_iff {finger : Int} : s.slot? finger = none ↔ finger ∉ s.fingers := by
  simp only [slot?, fingers, List.lookup_eq_none_iff, List.mem_map, Prod.exists, not_exists,
    not_and, bne_iff_ne, Prod.forall]
  constructor
  · rintro h f n hm rfl
    exact h f n hm rfl
  · rintro h f n hm rfl
    exact h finger n hm rfl

lemma slot?_isSome_of_mem {finger : Int} (hf : finger ∈ s.fingers) :
    ∃ slot, s.slot? finger = some slot :=
  Option.ne_none_iff_exists'.mp fun hn => slot?_eq_none_iff.mp hn hf

/-- Two bindings of one finger have one slot, and the other way round. -/
lemma finger_eq_iff_slot_eq (h : s.Valid) {a b : Int × Nat} (ha : a ∈ s.bindings)
    (hb : b ∈ s.bindings) : a.1 = b.1 ↔ a.2 = b.2 := by
  constructor
  · intro hf
    rw [List.inj_on_of_nodup_map h.fingers_nodup ha hb hf]
  · intro hn
    rw [List.inj_on_of_nodup_map h.slots_nodup ha hb hn]

/-! ## Free slots -/

/-- No more fingers are bound than there are slots. -/
lemma liveCount_le (h : s.Valid) : s.liveCount ≤ maxFingers := by
  have hsub : s.bindings.map Prod.snd ⊆ List.range maxFingers := fun slot hs =>
    List.mem_range.mpr (h.slot_lt slot hs)
  simpa [liveCount] using (h.slots_nodup.subperm hsub).length_le

/-- While fewer fingers are bound than there are slots, one is free. -/
lemma leastFree?_isSome (hlive : s.liveCount < maxFingers) (h : s.Valid) :
    ∃ slot, s.leastFree? = some slot := by
  refine Option.ne_none_iff_exists'.mp fun hn => ?_
  have hall : List.range maxFingers ⊆ s.bindings.map Prod.snd := by
    intro slot hs
    have hbit := List.find?_eq_none.mp hn slot hs
    exact (h.used_iff slot).mp (by simpa using hbit)
  have hle := (List.nodup_range.subperm hall).length_le
  simp only [List.length_range, List.length_map] at hle
  exact absurd hlive (Nat.not_lt.mpr hle)

/-- A free slot is one of the sixteen, and no finger holds it. -/
lemma leastFree?_free (h : s.Valid) {slot : Nat} (hfree : s.leastFree? = some slot) :
    slot < maxFingers ∧ slot ∉ s.bindings.map Prod.snd := by
  refine ⟨List.mem_range.mp (List.mem_of_find?_eq_some hfree), fun hmem => ?_⟩
  have hbit := List.find?_some hfree
  simp [(h.used_iff slot).mpr hmem] at hbit

/-! ## Binding -/

/-- The slots with one more binding. -/
def add (s : Slots) (finger : Int) (slot : Nat) : Slots :=
  { used := s.used ||| BitVec.twoPow 16 slot
    bindings := s.bindings ++ [(finger, slot)] }

/-- Binding a new finger to a free slot keeps bits and bindings in agreement. -/
lemma valid_add (h : s.Valid) {finger : Int} {slot : Nat} (hf : finger ∉ s.fingers)
    (hfree : s.leastFree? = some slot) : (s.add finger slot).Valid := by
  obtain ⟨hlt, hslot⟩ := leastFree?_free h hfree
  have hf' : finger ∉ s.bindings.map Prod.fst := hf
  refine ⟨?_, ?_, ?_, ?_⟩
  · simpa [fingers, add, List.nodup_append] using
      ⟨h.fingers_nodup, fun a b hm ha => hf' (by subst ha; exact List.mem_map.mpr ⟨_, hm, rfl⟩)⟩
  · simpa [add, List.nodup_append] using
      ⟨h.slots_nodup, fun b a hm ha => hslot (by subst ha; exact List.mem_map.mpr ⟨_, hm, rfl⟩)⟩
  · intro n hn
    simp only [add, List.map_append, List.map_cons, List.map_nil, List.mem_append,
      List.mem_singleton] at hn
    rcases hn with hn | rfl
    · exact h.slot_lt n hn
    · exact hlt
  · intro n
    simp only [add, BitVec.getLsbD_or, BitVec.getLsbD_twoPow, Bool.or_eq_true, h.used_iff,
      List.map_append, List.map_cons, List.map_nil, List.mem_append, List.mem_singleton,
      Bool.and_eq_true, decide_eq_true_eq]
    constructor
    · rintro (hn | ⟨-, rfl⟩)
      · exact Or.inl hn
      · exact Or.inr rfl
    · rintro (hn | rfl)
      · exact Or.inl hn
      · exact Or.inr ⟨hlt, rfl⟩

/-- A finger that is bound keeps its slot. -/
lemma bind_of_bound {finger : Int} {slot : Nat} (hslot : s.slot? finger = some slot) :
    s.bind finger = .ok (slot, s) := by
  simp [bind, hslot]

/-- A new finger gets the least free slot while there is one. -/
lemma bind_of_unbound (h : s.Valid) {finger : Int} (hf : finger ∉ s.fingers)
    (hlive : s.liveCount < maxFingers) :
    ∃ slot, s.leastFree? = some slot ∧ s.bind finger = .ok (slot, s.add finger slot) := by
  obtain ⟨slot, hfree⟩ := leastFree?_isSome hlive h
  exact ⟨slot, hfree, by simp [bind, slot?_eq_none_iff.mpr hf, hfree, add]⟩

/-- **One finger is bound** if it is already, or if there is room: it gets a slot, no binding is
lost, and no other finger is bound. -/
theorem bind_spec (h : s.Valid) {finger : Int}
    (hroom : finger ∉ s.fingers → s.liveCount < maxFingers) :
    ∃ slot s', s.bind finger = .ok (slot, s') ∧ s'.Valid ∧ (finger, slot) ∈ s'.bindings ∧
      (∀ b ∈ s.bindings, b ∈ s'.bindings) ∧
      ∀ f, f ∈ s'.fingers ↔ f = finger ∨ f ∈ s.fingers := by
  by_cases hf : finger ∈ s.fingers
  · obtain ⟨slot, hslot⟩ := slot?_isSome_of_mem hf
    refine ⟨slot, s, bind_of_bound hslot, h, (slot?_eq_some_iff h).mp hslot,
      fun _ hb => hb, fun f => ⟨Or.inr, ?_⟩⟩
    rintro (rfl | hm)
    · exact hf
    · exact hm
  · obtain ⟨slot, hfree, hbind⟩ := bind_of_unbound h hf (hroom hf)
    refine ⟨slot, s.add finger slot, hbind, valid_add h hf hfree, by simp [add],
      fun _ hb => by simp [add, hb], fun f => ?_⟩
    simp [fingers, add, or_comm]

/-! ## Batches -/

/-- The fingers of some points. -/
abbrev fingersOf (points : List TouchPoint) : List Int := points.map (·.finger)

/-- What binding all fingers of a batch does: every point gets its slot, no binding is lost, and
the fingers bound are the old ones and those of the batch. -/
structure Bound (s : Slots) (points : List TouchPoint) (contacts : List Contact) (s' : Slots) :
    Prop where
  valid : s'.Valid
  points_eq : contacts.map (·.point) = points
  hand_mem : ∀ c ∈ contacts, c.hand ∈ s'.bindings
  old_mem : ∀ b ∈ s.bindings, b ∈ s'.bindings
  fingers_sub : ∀ f ∈ s'.fingers, f ∈ s.fingers ∨ f ∈ fingersOf points

/-- A batch without fingers binds nothing. -/
lemma Bound.nil (h : s.Valid) : Bound s [] [] s :=
  ⟨h, rfl, by simp, fun _ hb => hb, fun _ hf => Or.inl hf⟩

/-- One finger more at the front: the rest of the batch is bound from where it leaves the slots. -/
lemma Bound.cons {s₁ s' : Slots} {p : TouchPoint} {rest : List TouchPoint} {slot : Nat}
    {contacts : List Contact} (hmem : (p.finger, slot) ∈ s₁.bindings)
    (hold : ∀ b ∈ s.bindings, b ∈ s₁.bindings)
    (hfin : ∀ f, f ∈ s₁.fingers ↔ f = p.finger ∨ f ∈ s.fingers)
    (hb : Bound s₁ rest contacts s') : Bound s (p :: rest) (⟨slot, p⟩ :: contacts) s' where
  valid := hb.valid
  points_eq := by simp [hb.points_eq]
  hand_mem := by
    intro c hc
    rcases List.mem_cons.mp hc with rfl | hc
    · exact hb.old_mem _ hmem
    · exact hb.hand_mem c hc
  old_mem := fun b hbm => hb.old_mem b (hold b hbm)
  fingers_sub := by
    intro f hm
    rcases hb.fingers_sub f hm with hm | hm
    · rcases (hfin f).mp hm with rfl | hm
      · exact Or.inr (by simp)
      · exact Or.inl hm
    · exact Or.inr (by simp [hm])

/-- The fingers bound are the old ones and those of the batch. -/
lemma Bound.mem_fingers_iff {s' : Slots} {points : List TouchPoint} {contacts : List Contact}
    (hb : Bound s points contacts s') (f : Int) :
    f ∈ s'.fingers ↔ f ∈ s.fingers ∨ f ∈ fingersOf points := by
  refine ⟨hb.fingers_sub f, ?_⟩
  rintro (hf | hf)
  · obtain ⟨b, hmem, rfl⟩ := List.mem_map.mp hf
    exact List.mem_map.mpr ⟨b, hb.old_mem b hmem, rfl⟩
  · rw [← hb.points_eq, fingersOf, List.map_map] at hf
    obtain ⟨c, hc, rfl⟩ := List.mem_map.mp hf
    exact List.mem_map.mpr ⟨c.hand, hb.hand_mem c hc, rfl⟩

/-- **A batch is bound as a whole** if the fingers bound before and those of the batch are no more
than there are slots. -/
theorem bindAll_spec (h : s.Valid) (points : List TouchPoint)
    (hcard : (s.fingers ++ fingersOf points).toFinset.card ≤ maxFingers) :
    ∃ contacts s', s.bindAll points = .ok (contacts, s') ∧ Bound s points contacts s' := by
  induction points generalizing s with
  | nil => exact ⟨[], s, rfl, .nil h⟩
  | cons p rest ih =>
      have hroom : p.finger ∉ s.fingers → s.liveCount < maxFingers := by
        intro hf
        have hlt : s.fingers.toFinset.card
            < (s.fingers ++ fingersOf (p :: rest)).toFinset.card := by
          refine Finset.card_lt_card (Finset.ssubset_iff.mpr ⟨p.finger, by simpa using hf, ?_⟩)
          intro f hm
          simp only [Finset.mem_insert, List.mem_toFinset, List.mem_append, List.map_cons,
            List.mem_cons] at hm ⊢
          tauto
        rw [List.toFinset_card_of_nodup h.fingers_nodup, fingers, List.length_map] at hlt
        exact lt_of_lt_of_le hlt hcard
      obtain ⟨slot, s₁, hbind, hv₁, hmem₁, hold₁, hfin₁⟩ := bind_spec h hroom
      have hcard₁ : (s₁.fingers ++ fingersOf rest).toFinset.card ≤ maxFingers := by
        refine le_trans (Finset.card_le_card ?_) hcard
        intro f hm
        simp only [List.mem_toFinset, List.mem_append, List.map_cons, List.mem_cons, hfin₁] at hm ⊢
        tauto
      obtain ⟨contacts, s', hall, hb⟩ := ih hv₁ hcard₁
      exact ⟨⟨slot, p⟩ :: contacts, s', by simp [bindAll, hbind, hall],
        .cons hmem₁ hold₁ hfin₁ hb⟩

/-! ## Releasing -/

/-- Without a finger that is bound once, all other bindings remain. -/
lemma unbind_perm {l : List (Int × Nat)} (h : (l.map Prod.fst).Nodup) (finger : Int) :
    (unbind finger l).Perm (l.filter fun b => b.1 != finger) := by
  induction l with
  | nil => exact .refl _
  | cons b rest ih =>
      simp only [List.map_cons, List.nodup_cons] at h
      by_cases hb : b.1 = finger
      · subst hb
        have hrest : ∀ a ∈ rest, (a.1 != b.1) = true := by
          intro a ha
          simpa using fun heq : a.1 = b.1 => h.1 (List.mem_map.mpr ⟨a, ha, heq⟩)
        have hswap : (rest.getLast?.toList ++ rest.dropLast).Perm rest := by
          refine List.perm_append_comm.trans (.of_eq ?_)
          cases hlast : rest.getLast? with
          | none => simp [List.getLast?_eq_none_iff.mp hlast]
          | some last => simpa using List.dropLast_append_getLast? last hlast
        simpa [unbind, List.filter_eq_self.mpr hrest] using hswap
      · simpa [unbind, hb] using (ih h.2).cons b

/-- Releasing a finger removes its binding and no other. -/
lemma bindings_release (h : s.Valid) (finger : Int) :
    (s.release finger).bindings.Perm (s.bindings.filter fun b => b.1 != finger) := by
  unfold release
  split
  · exact unbind_perm h.fingers_nodup finger
  · rename_i hnone
    refine .of_eq (List.filter_eq_self.mpr fun b hb => ?_).symm
    have hnot := slot?_eq_none_iff.mp hnone
    simpa using fun heq : b.1 = finger => hnot (List.mem_map.mpr ⟨b, hb, heq⟩)

lemma valid_release (h : s.Valid) (finger : Int) : (s.release finger).Valid := by
  have hb := bindings_release h finger
  have hsub : List.Sublist (s.bindings.filter fun b => b.1 != finger) s.bindings :=
    List.filter_sublist
  refine ⟨(hb.map _).nodup_iff.mpr (h.fingers_nodup.sublist (hsub.map _)),
    (hb.map _).nodup_iff.mpr (h.slots_nodup.sublist (hsub.map _)),
    fun n hn => h.slot_lt n ((hsub.map _).subset ((hb.map _).mem_iff.mp hn)), fun n => ?_⟩
  cases hs : s.slot? finger with
  | none =>
      have hr : s.release finger = s := by simp [release, hs]
      rw [hr]
      exact h.used_iff n
  | some slot =>
      have hmem := (slot?_eq_some_iff h).mp hs
      have hused : (s.release finger).used = s.used &&& ~~~BitVec.twoPow 16 slot := by
        simp [release, hs]
      -- the only binding with this slot is the one that goes
      have hkey : ∀ b ∈ s.bindings, b.1 = finger ↔ b.2 = slot := fun b hbm =>
        finger_eq_iff_slot_eq h hbm hmem
      rw [hused, (hb.map Prod.snd).mem_iff]
      simp only [BitVec.getLsbD_and, BitVec.getLsbD_not, BitVec.getLsbD_twoPow, Bool.and_eq_true,
        h.used_iff, List.mem_map, List.mem_filter, bne_iff_ne, Bool.not_eq_true',
        Bool.and_eq_false_iff, decide_eq_true_eq, decide_eq_false_iff_not]
      constructor
      · rintro ⟨⟨b, hbm, rfl⟩, hlt, hne⟩
        refine ⟨b, ⟨hbm, fun hf => ?_⟩, rfl⟩
        have hn := (hkey b hbm).mp hf
        rcases hne with hne | hne
        · exact hne (hn ▸ hlt)
        · exact hne hn.symm
      · rintro ⟨b, ⟨hbm, hf⟩, rfl⟩
        have hlt := h.slot_lt b.2 (List.mem_map.mpr ⟨b, hbm, rfl⟩)
        refine ⟨⟨b, hbm, rfl⟩, hlt, Or.inr fun hn => hf ((hkey b hbm).mpr hn.symm)⟩

lemma valid_releaseAll (h : s.Valid) (fingers : List Int) : (s.releaseAll fingers).Valid := by
  unfold releaseAll
  induction fingers generalizing s with
  | nil => exact h
  | cons f rest ih => exact ih (valid_release h f)

/-- Releasing fingers removes their bindings and no others. -/
lemma bindings_releaseAll (h : s.Valid) (fingers : List Int) :
    (s.releaseAll fingers).bindings.Perm (s.bindings.filter fun b => decide (b.1 ∉ fingers)) := by
  unfold releaseAll
  induction fingers generalizing s with
  | nil => simp
  | cons f rest ih =>
      rw [List.foldl_cons]
      refine (ih (valid_release h f)).trans (((bindings_release h f).filter _).trans (.of_eq ?_))
      rw [List.filter_filter]
      refine List.filter_congr fun b _ => ?_
      by_cases hb : b.1 = f <;> simp [hb]

lemma mem_fingers_releaseAll (h : s.Valid) (fingers : List Int) (f : Int) :
    f ∈ (s.releaseAll fingers).fingers ↔ f ∈ s.fingers ∧ f ∉ fingers := by
  have hfingers := (bindings_releaseAll h fingers).map Prod.fst
  rw [Slots.fingers, hfingers.mem_iff, Slots.fingers]
  simp only [List.mem_map, List.mem_filter, decide_eq_true_eq]
  constructor
  · rintro ⟨b, ⟨hmem, hstays⟩, rfl⟩
    exact ⟨⟨b, hmem, rfl⟩, hstays⟩
  · rintro ⟨⟨b, hmem, rfl⟩, hstays⟩
    exact ⟨b, ⟨hmem, hstays⟩, rfl⟩

/-! ## A batch that names every bound finger -/

/-- When a batch names every finger that is bound, its contacts are the bindings. -/
lemma Bound.perm {s' : Slots} {points : List TouchPoint} {contacts : List Contact}
    (hb : Bound s points contacts s') (hnd : (fingersOf points).Nodup)
    (hall : ∀ f ∈ s.fingers, f ∈ fingersOf points) :
    s'.bindings.Perm (contacts.map Contact.hand) := by
  have hcf : contacts.map (·.point.finger) = fingersOf points := by
    rw [← hb.points_eq, fingersOf, List.map_map]
    rfl
  have hnd' : ((contacts.map Contact.hand).map Prod.fst).Nodup := by
    rw [List.map_map]
    exact hcf ▸ hnd
  refine (List.perm_ext_iff_of_nodup (.of_map _ hb.valid.fingers_nodup) (.of_map _ hnd')).mpr ?_
  intro b
  constructor
  · intro hmem
    have hf : b.1 ∈ contacts.map (·.point.finger) := by
      rw [hcf]
      rcases hb.fingers_sub b.1 (List.mem_map.mpr ⟨b, hmem, rfl⟩) with h | h
      · exact hall _ h
      · exact h
    obtain ⟨c, hc, hcb⟩ := List.mem_map.mp hf
    have heq : c.hand = b :=
      List.inj_on_of_nodup_map hb.valid.fingers_nodup (hb.hand_mem c hc) hmem hcb
    exact List.mem_map.mpr ⟨c, hc, heq⟩
  · intro hmem
    obtain ⟨c, hc, rfl⟩ := List.mem_map.mp hmem
    exact hb.hand_mem c hc

/-- The old bindings are the contacts of the fingers that were bound before. -/
lemma Bound.old_perm (h : s.Valid) {s' : Slots} {points : List TouchPoint}
    {contacts : List Contact} (hb : Bound s points contacts s') (hnd : (fingersOf points).Nodup)
    (hall : ∀ f ∈ s.fingers, f ∈ fingersOf points) :
    s.bindings.Perm
      ((contacts.filter fun c => decide (c.point.finger ∈ s.fingers)).map Contact.hand) := by
  have hfilter : (s'.bindings.filter fun b => decide (b.1 ∈ s.fingers)).Perm
      ((contacts.filter fun c => decide (c.point.finger ∈ s.fingers)).map Contact.hand) := by
    have hperm := (hb.perm hnd hall).filter fun b => decide (b.1 ∈ s.fingers)
    rwa [List.filter_map] at hperm
  refine List.Perm.trans ?_ hfilter
  have hnd₁ : s.bindings.Nodup := .of_map _ h.fingers_nodup
  have hnd₂ : s'.bindings.Nodup := .of_map _ hb.valid.fingers_nodup
  refine (List.perm_ext_iff_of_nodup hnd₁ (hnd₂.filter _)).mpr fun b => ?_
  simp only [List.mem_filter, decide_eq_true_eq]
  constructor
  · exact fun hmem => ⟨hb.old_mem b hmem, List.mem_map.mpr ⟨b, hmem, rfl⟩⟩
  · rintro ⟨hmem, hf⟩
    obtain ⟨b', hmem', hbb⟩ := List.mem_map.mp hf
    rwa [← List.inj_on_of_nodup_map hb.valid.fingers_nodup (hb.old_mem b' hmem') hmem hbb]

/-- In a batch without repetition, the fingers that stay bound are those not released. -/
lemma mem_releasedFingers_iff {points : List TouchPoint} (hnd : (fingersOf points).Nodup)
    {p : TouchPoint} (hp : p ∈ points) :
    p.finger ∈ releasedFingers points ↔ p.state = .released := by
  simp only [releasedFingers, List.mem_map, List.mem_filter, decide_eq_true_eq]
  constructor
  · rintro ⟨q, ⟨hq, hstate⟩, hf⟩
    rwa [← List.inj_on_of_nodup_map hnd hq hp hf]
  · exact fun hstate => ⟨p, ⟨hp, hstate⟩, rfl⟩

/-- **A batch that names every bound finger** succeeds if it names no more than sixteen.  Before it,
the bindings are its contacts whose fingers were bound; after it, those that are not released. -/
theorem bindBatch_spec (h : s.Valid) {points : List TouchPoint} (hnd : (fingersOf points).Nodup)
    (hall : ∀ f ∈ s.fingers, f ∈ fingersOf points) (hfew : points.length ≤ maxFingers) :
    ∃ contacts s', s.bindBatch points = .ok (contacts, s') ∧ s'.Valid ∧
      contacts.map (·.point) = points ∧ (contacts.map (·.slot)).Nodup ∧
      s.bindings.Perm
        ((contacts.filter fun c => decide (c.point.finger ∈ s.fingers)).map Contact.hand) ∧
      s'.bindings.Perm
        ((contacts.filter fun c => decide (c.point.state ≠ .released)).map Contact.hand) := by
  have hcard : (s.fingers ++ fingersOf points).toFinset.card ≤ maxFingers := by
    have hsub : (s.fingers ++ fingersOf points).toFinset ⊆ (fingersOf points).toFinset := by
      intro f hf
      simp only [List.mem_toFinset, List.mem_append] at hf ⊢
      exact hf.elim (hall f) id
    calc (s.fingers ++ fingersOf points).toFinset.card
        ≤ (fingersOf points).toFinset.card := Finset.card_le_card hsub
      _ ≤ (fingersOf points).length := List.toFinset_card_le _
      _ ≤ maxFingers := by simpa using hfew
  obtain ⟨contacts, s', hbind, hb⟩ := bindAll_spec h points hcard
  have hperm := hb.perm hnd hall
  refine ⟨contacts, s'.releaseAll (releasedFingers points), by simp [bindBatch, hbind],
    valid_releaseAll hb.valid _, hb.points_eq, ?_, hb.old_perm h hnd hall, ?_⟩
  · have hslots := (hperm.map Prod.snd).nodup_iff.mp hb.valid.slots_nodup
    rwa [List.map_map] at hslots
  · have hfilter := hperm.filter fun b => decide (b.1 ∉ releasedFingers points)
    rw [List.filter_map] at hfilter
    refine (bindings_releaseAll hb.valid _).trans (hfilter.trans (.of_eq ?_))
    refine congrArg _ (List.filter_congr fun c hc => ?_)
    have hp : c.point ∈ points := hb.points_eq ▸ List.mem_map.mpr ⟨c, hc, rfl⟩
    simp only [Function.comp_apply, Contact.hand, mem_releasedFingers_iff hnd hp, ne_eq]

end Slots

end ViewInput.Touch
