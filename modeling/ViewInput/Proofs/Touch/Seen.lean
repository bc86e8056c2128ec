import ViewInput.Proofs.Touch.Hands

/-!
# What a page sees of the fingers

A page follows the motion events by the slots that they list.  An event is `Expected` if it moves or
lifts only fingers that the page saw go down.

Some events may be kept from the page, and the fingers that go down in them are hidden.  A deed is
`Fair` if it moves or lifts no hidden finger.  **Events are expected exactly if their deeds are
fair** (`Story.expected_iff`).  The two meet in `Sees`: the page knows exactly the slots of the
fingers that are not hidden.  Runs of events that the page hears keep it, and so do runs of which it
hears nothing (`Story.sees_of_silence`).
-/

namespace ViewInput.Touch

open Page (MotionEvent)

/-! ## What the page knows -/

/-- The slot that goes down or up in an event. -/
def turning (e : MotionEvent) : List Nat :=
  if e.action = .down ∨ e.action = .up then listed e else (acting? e).toList

/-- The slots that are down as far as the page knows, after an event. -/
def hear (known : Finset Nat) (e : MotionEvent) : Finset Nat :=
  if goesDown e then known ∪ (turning e).toFinset
  else if goesUp e then known \ (turning e).toFinset
  else if e.action = .cancel then known \ (listed e).toFinset
  else known

/-- **The page saw every finger go down that it now sees move or go up.** -/
def Expected (known : Finset Nat) (e : MotionEvent) : Prop :=
  (e.action = .move → ∀ slot ∈ listed e, slot ∈ known) ∧
    (goesUp e = true → ∀ slot ∈ turning e, slot ∈ known)

def ExpectedAll : Finset Nat → List MotionEvent → Prop
  | _, [] => True
  | known, e :: rest => Expected known e ∧ ExpectedAll (hear known e) rest

/-! ## What is hidden -/

/-- The fingers that are down and hidden, after a deed. -/
def Deed.hide (claimed : Bool) (hidden : Finset Int) : Deed → Finset Int
  | .press finger => if claimed then insert finger hidden else hidden
  | .move => hidden
  | .lift finger => hidden.erase finger
  | .cancel => ∅

/-- A deed that tells the page of no hidden finger. -/
def Deed.Fair (hidden : Finset Int) : Deed → Prop
  | .move => hidden = ∅
  | .lift finger => finger ∉ hidden
  | .press _ | .cancel => True

instance (hidden : Finset Int) : ∀ d : Deed, Decidable (d.Fair hidden)
  | .move => inferInstanceAs (Decidable (hidden = ∅))
  | .lift finger => inferInstanceAs (Decidable (finger ∉ hidden))
  | .press _ | .cancel => .isTrue trivial

def hideAll (claimed : Bool) (hidden : Finset Int) (deeds : List Deed) : Finset Int :=
  deeds.foldl (Deed.hide claimed) hidden

def FairAll : Finset Int → List Deed → Prop
  | _, [] => True
  | hidden, d :: rest => d.Fair hidden ∧ FairAll (d.hide false hidden) rest

instance : ∀ (hidden : Finset Int) (deeds : List Deed), Decidable (FairAll hidden deeds)
  | _, [] => .isTrue trivial
  | hidden, d :: rest =>
    have := instDecidableFairAll (d.hide false hidden) rest
    inferInstanceAs (Decidable (d.Fair hidden ∧ FairAll (d.hide false hidden) rest))

/-- A finger is hidden only if it was before, or goes down in a claimed batch. -/
lemma mem_hideAll {claimed : Bool} {hidden : Finset Int} {deeds : List Deed} {finger : Int}
    (hf : finger ∈ hideAll claimed hidden deeds) :
    finger ∈ hidden ∨ claimed = true ∧ .press finger ∈ deeds := by
  induction deeds generalizing hidden with
  | nil => exact .inl hf
  | cons d rest ih =>
      rcases ih hf with hnow | ⟨hclaimed, hlater⟩
      · cases d with
        | press f =>
            cases claimed with
            | false => exact .inl hnow
            | true =>
                rcases Finset.mem_insert.mp hnow with rfl | hold
                · exact .inr ⟨rfl, List.mem_cons_self⟩
                · exact .inl hold
        | move => exact .inl hnow
        | lift f => exact .inl (Finset.mem_of_mem_erase hnow)
        | cancel => exact absurd hnow (Finset.notMem_empty _)
      · exact .inr ⟨hclaimed, List.mem_cons_of_mem _ hlater⟩

lemma fairAll_empty (deeds : List Deed) : FairAll ∅ deeds := by
  induction deeds with
  | nil => trivial
  | cons d rest ih => cases d <;> exact ⟨by simp [Deed.Fair], ih⟩

/-! ## One event -/

/-- No finger and no slot is there twice. -/
structure Hands.Apart (hands : Hands) : Prop where
  fingers : (hands.map Prod.fst).Nodup
  slots : (hands.map Prod.snd).Nodup

/-- The page knows exactly the slots of the fingers that are not hidden. -/
def Sees (known : Finset Nat) (hidden : Finset Int) (hands : Hands) : Prop :=
  ∀ slot, slot ∈ known ↔ ∃ finger ∉ hidden, (finger, slot) ∈ hands

/-- Only fingers that are down are hidden. -/
def Within (hidden : Finset Int) (hands : Hands) : Prop := ∀ f ∈ hidden, f ∈ hands.map Prod.fst

namespace Hands.Apart

variable {a b : Hands}

lemma perm (h : a.Apart) (hp : a.Perm b) : b.Apart :=
  ⟨(hp.map _).nodup_iff.mp h.fingers, (hp.map _).nodup_iff.mp h.slots⟩

lemma tail {hand : Int × Nat} (h : Apart (hand :: a)) : a.Apart :=
  ⟨(List.nodup_cons.mp h.fingers).2, (List.nodup_cons.mp h.slots).2⟩

lemma finger_eq (h : a.Apart) {f g : Int} {slot : Nat} (hf : (f, slot) ∈ a) (hg : (g, slot) ∈ a) :
    f = g :=
  congrArg Prod.fst (List.inj_on_of_nodup_map h.slots hf hg rfl)

lemma ne_of_mem {finger : Int} {slot : Nat} (h : Apart ((finger, slot) :: a)) {hand : Int × Nat}
    (hm : hand ∈ a) : hand.1 ≠ finger ∧ hand.2 ≠ slot := by
  constructor
  · rintro rfl
    exact (List.nodup_cons.mp h.fingers).1 (List.mem_map.mpr ⟨hand, hm, rfl⟩)
  · rintro rfl
    exact (List.nodup_cons.mp h.slots).1 (List.mem_map.mpr ⟨hand, hm, rfl⟩)

end Hands.Apart

/-- The page knows the slot of a finger unless the finger is hidden. -/
lemma Sees.mem_iff {known : Finset Nat} {hidden : Finset Int} {hands : Hands}
    (h : Sees known hidden hands) (ha : hands.Apart) {finger : Int} {slot : Nat}
    (hm : (finger, slot) ∈ hands) : slot ∈ known ↔ finger ∉ hidden := by
  rw [h slot]
  constructor
  · rintro ⟨g, hg, hgm⟩
    rwa [ha.finger_eq hm hgm]
  · exact fun hf => ⟨finger, hf, hm⟩

lemma Sees.perm {known : Finset Nat} {hidden : Finset Int} {a b : Hands} (h : Sees known hidden a)
    (hp : a.Perm b) : Sees known hidden b :=
  fun slot => (h slot).trans (by simp only [hp.mem_iff])

namespace Tells

variable {a b : Hands} {e : MotionEvent} {d : Deed} {known : Finset Nat} {hidden : Finset Int}

lemma apart (h : Tells a e d b) (ha : a.Apart) : b.Apart := by
  cases h with
  | down => exact ⟨by simp, by simp⟩
  | pointerDown action others acts newFinger newSlot lists now =>
      refine Hands.Apart.perm ⟨?_, ?_⟩ now.symm
      · exact List.nodup_cons.mpr ⟨newFinger, ha.fingers⟩
      · exact List.nodup_cons.mpr ⟨newSlot, ha.slots⟩
  | move action lists now => exact ha.perm now.symm
  | pointerUp action others acts was lists => exact (ha.perm was).tail
  | up => exact ⟨List.nodup_nil, List.nodup_nil⟩
  | cancel => exact ⟨List.nodup_nil, List.nodup_nil⟩

/-- A finger that is down was down before, or goes down. -/
lemma mem_of_mem (h : Tells a e d b) {hand : Int × Nat} (hm : hand ∈ b) :
    hand ∈ a ∨ d = .press hand.1 := by
  cases h with
  | down action lists => exact .inr (by rw [List.mem_singleton.mp hm])
  | pointerDown action others acts newFinger newSlot lists now =>
      rcases List.mem_cons.mp (now.mem_iff.mp hm) with rfl | hold
      · exact .inr rfl
      · exact .inl hold
  | move action lists now => exact .inl (now.mem_iff.mp hm)
  | pointerUp action others acts was lists =>
      exact .inl (was.mem_iff.mpr (List.mem_cons_of_mem _ hm))
  | up => exact absurd hm List.not_mem_nil
  | cancel => exact absurd hm List.not_mem_nil

/-- A finger that goes down leaves the others where they are. -/
lemma mem_of_isPress (h : Tells a e d b) (hpress : d.isPress = true) {hand : Int × Nat}
    (hm : hand ∈ a) : hand ∈ b := by
  cases h with
  | down => exact absurd hm List.not_mem_nil
  | pointerDown action others acts newFinger newSlot lists now =>
      exact now.mem_iff.mpr (List.mem_cons_of_mem _ hm)
  | move => cases hpress
  | pointerUp => cases hpress
  | up => cases hpress
  | cancel => cases hpress

lemma within (h : Tells a e d b) (claimed : Bool) (hw : Within hidden a) :
    Within (d.hide claimed hidden) b := by
  intro f hf
  cases h with
  | down action lists =>
      have hnone : f ∉ hidden := fun hm => by simpa using hw f hm
      cases claimed <;> simp_all [Deed.hide]
  | pointerDown action others acts newFinger newSlot lists now =>
      rw [(now.map Prod.fst).mem_iff, List.map_cons, List.mem_cons]
      cases claimed with
      | false => exact .inr (hw f hf)
      | true => exact (Finset.mem_insert.mp hf).imp_right (hw f)
  | move action lists now => exact (now.map Prod.fst).mem_iff.mpr (hw f hf)
  | pointerUp action others acts was lists =>
      obtain ⟨hne, hm⟩ := Finset.mem_erase.mp hf
      have hwas := (was.map Prod.fst).mem_iff.mp (hw f hm)
      exact (List.mem_cons.mp hwas).resolve_left hne
  | up action lists =>
      obtain ⟨hne, hm⟩ := Finset.mem_erase.mp hf
      simpa [hne] using hw f hm
  | cancel => exact absurd hf (Finset.notMem_empty f)

/-- **The page expects an event** exactly if the deed is fair. -/
lemma expected_iff (h : Tells a e d b) (ha : a.Apart) (hw : Within hidden a)
    (hs : Sees known hidden a) : Expected known e ↔ d.Fair hidden := by
  cases h with
  | down action lists => simp [Expected, goesUp, action, Deed.Fair]
  | pointerDown action others acts newFinger newSlot lists now =>
      simp [Expected, goesUp, action, Deed.Fair]
  | cancel action others lists => simp [Expected, goesUp, action, Deed.Fair]
  | pointerUp action others acts was lists =>
      rename_i finger slot
      have hm : (finger, slot) ∈ a := was.mem_iff.mpr (by simp)
      simp [Expected, goesUp, turning, action, acts, Deed.Fair, hs.mem_iff ha hm]
  | up action lists =>
      rename_i finger slot
      have hm : (finger, slot) ∈ [(finger, slot)] := by simp
      simp [Expected, goesUp, turning, action, lists, Deed.Fair, hs.mem_iff ha hm]
  | move action lists now =>
      have hmove : Expected known e ↔ ∀ slot ∈ a.map Prod.snd, slot ∈ known := by
        simp [Expected, goesUp, action, lists.mem_iff]
      rw [hmove]
      constructor
      · intro hall
        refine Finset.eq_empty_of_forall_notMem fun f hf => ?_
        obtain ⟨hand, hm, rfl⟩ := List.mem_map.mp (hw f hf)
        exact (hs.mem_iff ha hm).mp (hall hand.2 (List.mem_map.mpr ⟨hand, hm, rfl⟩)) hf
      · rintro rfl slot hslot
        obtain ⟨hand, hm, rfl⟩ := List.mem_map.mp hslot
        exact (hs.mem_iff ha hm).mpr (Finset.notMem_empty _)

/-- The page still sees the fingers that are not hidden. -/
lemma sees (h : Tells a e d b) (ha : a.Apart) (hw : Within hidden a) (hs : Sees known hidden a) :
    Sees (hear known e) (d.hide false hidden) b := by
  intro slot
  cases h with
  | down action lists =>
      rename_i finger new
      have hshown : finger ∉ hidden := fun hm => absurd (hw finger hm) List.not_mem_nil
      have hnone : slot ∉ known := fun hm => by simpa using (hs slot).mp hm
      have hhear : hear known e = known ∪ {new} := by
        simp [hear, goesDown, turning, action, lists]
      rw [hhear, Finset.mem_union, Finset.mem_singleton]
      simp only [hnone, false_or, List.mem_singleton, Prod.mk.injEq]
      constructor
      · exact fun hnew => ⟨finger, hshown, rfl, hnew⟩
      · rintro ⟨-, -, -, hnew⟩
        exact hnew
  | pointerDown action others acts newFinger newSlot lists now =>
      rename_i finger new
      have hshown : finger ∉ hidden := fun hm => newFinger (hw finger hm)
      have hhear : hear known e = known ∪ {new} := by
        simp [hear, goesDown, turning, action, acts]
      rw [hhear, Finset.mem_union, Finset.mem_singleton, hs slot]
      simp only [now.mem_iff, List.mem_cons, Prod.mk.injEq]
      constructor
      · rintro (⟨f, hf, hm⟩ | hnew)
        · exact ⟨f, hf, .inr hm⟩
        · exact ⟨finger, hshown, .inl ⟨rfl, hnew⟩⟩
      · rintro ⟨f, hf, ⟨-, hnew⟩ | hm⟩
        · exact .inr hnew
        · exact .inl ⟨f, hf, hm⟩
  | move action lists now =>
      have hhear : hear known e = known := by simp [hear, goesDown, goesUp, action]
      simp only [hhear, hs slot, Deed.hide, now.mem_iff]
  | pointerUp action others acts was lists =>
      rename_i finger old
      have hhear : hear known e = known \ {old} := by
        simp [hear, goesDown, goesUp, turning, action, acts]
      rw [hhear, Finset.mem_sdiff, Finset.mem_singleton, hs slot]
      simp only [was.mem_iff, List.mem_cons, Prod.mk.injEq, Deed.hide, Finset.mem_erase]
      constructor
      · rintro ⟨⟨f, hf, ⟨-, hold⟩ | hm⟩, hne⟩
        · exact absurd hold hne
        · exact ⟨f, fun hmem => hf hmem.2, hm⟩
      · rintro ⟨f, hf, hm⟩
        obtain ⟨hfinger, hslot⟩ := (ha.perm was).ne_of_mem hm
        exact ⟨⟨f, fun hmem => hf ⟨hfinger, hmem⟩, .inr hm⟩, hslot⟩
  | up action lists =>
      rename_i finger old
      have hhear : hear known e = known \ {old} := by
        simp [hear, goesDown, goesUp, turning, action, lists]
      have honly : slot ∈ known → slot = old := by
        rw [hs slot]
        rintro ⟨f, -, hm⟩
        exact congrArg Prod.snd (List.mem_singleton.mp hm)
      rw [hhear, Finset.mem_sdiff, Finset.mem_singleton]
      simpa [Deed.hide] using honly
  | cancel action others lists =>
      have hhear : hear known e = known \ (listed e).toFinset := by
        simp [hear, goesDown, goesUp, action]
      have hlisted : slot ∈ known → slot ∈ listed e := by
        rw [hs slot]
        rintro ⟨f, -, hm⟩
        exact lists _ hm
      rw [hhear, Finset.mem_sdiff, List.mem_toFinset]
      simpa using hlisted

/-- While the page hears nothing, only what it saw before is not hidden. -/
lemma mem_of_notMem_hide (h : Tells a e d b) (ha : a.Apart) {hand : Int × Nat} (hm : hand ∈ b)
    (hshown : hand.1 ∉ d.hide true hidden) : hand ∈ a ∧ hand.1 ∉ hidden := by
  cases h with
  | down action lists =>
      rw [List.mem_singleton.mp hm] at hshown
      exact absurd (Finset.mem_insert_self _ _) hshown
  | pointerDown action others acts newFinger newSlot lists now =>
      rcases List.mem_cons.mp (now.mem_iff.mp hm) with rfl | hold
      · exact absurd (Finset.mem_insert_self _ _) hshown
      · exact ⟨hold, fun hf => hshown (Finset.mem_insert_of_mem hf)⟩
  | move action lists now => exact ⟨now.mem_iff.mp hm, hshown⟩
  | pointerUp action others acts was lists =>
      have hne := ((ha.perm was).ne_of_mem hm).1
      exact ⟨was.mem_iff.mpr (List.mem_cons_of_mem _ hm),
        fun hf => hshown (Finset.mem_erase.mpr ⟨hne, hf⟩)⟩
  | up => exact absurd hm List.not_mem_nil
  | cancel => exact absurd hm List.not_mem_nil

end Tells

/-! ## Runs of events -/

namespace Story

variable {a b : Hands} {events : List MotionEvent} {deeds : List Deed} {known : Finset Nat}
  {hidden : Finset Int}

lemma mem_of_mem (h : Story a events deeds b) {hand : Int × Nat} (hm : hand ∈ b) :
    hand ∈ a ∨ .press hand.1 ∈ deeds := by
  induction h with
  | nil same => exact .inl (same.mem_iff.mpr hm)
  | cons first _ ih =>
      rcases ih hm with hmid | hlater
      · exact (first.mem_of_mem hmid).imp_right fun heq => by simp [heq]
      · exact .inr (List.mem_cons_of_mem _ hlater)

lemma within (h : Story a events deeds b) (claimed : Bool) (hw : Within hidden a) :
    Within (hideAll claimed hidden deeds) b := by
  induction h generalizing hidden with
  | nil same => exact fun f hf => (same.map Prod.fst).mem_iff.mp (hw f hf)
  | cons first _ ih => exact ih (first.within claimed hw)

/-- **The page expects a run of events** exactly if the deeds are fair, and sees it to the end. -/
lemma expected_iff (h : Story a events deeds b) (ha : a.Apart) (hw : Within hidden a)
    (hs : Sees known hidden a) :
    (ExpectedAll known events ↔ FairAll hidden deeds) ∧
      Sees (events.foldl hear known) (hideAll false hidden deeds) b := by
  induction h generalizing known hidden with
  | nil same => exact ⟨.rfl, hs.perm same⟩
  | cons first _ ih =>
      obtain ⟨hrest, hend⟩ := ih (first.apart ha) (first.within false hw) (first.sees ha hw hs)
      exact ⟨and_congr (first.expected_iff ha hw hs) hrest, hend⟩

/-- **No slot is handed on** while the fingers that go down do so before any goes up. -/
lemma finger_eq {presses others : List Deed} (h : Story a events (presses ++ others) b)
    (ha : a.Apart) (hpresses : ∀ d ∈ presses, d.isPress = true)
    (hothers : ∀ d ∈ others, d.isPress = false) {f g : Int} {slot : Nat} (hf : (f, slot) ∈ a)
    (hg : (g, slot) ∈ b) : f = g := by
  induction presses generalizing a events with
  | nil =>
      -- Nobody comes any more, so who holds the slot in the end held it before.
      have hold : (g, slot) ∈ a := by
        exact (h.mem_of_mem hg).resolve_right fun hpress => Bool.noConfusion (hothers _ hpress)
      exact ha.finger_eq hf hold
  | cons d rest ih =>
      cases h with
      | cons first more =>
          obtain ⟨hpress, hrest⟩ := List.forall_mem_cons.mp hpresses
          exact ih more (first.apart ha) hrest (first.mem_of_isPress hpress hf)

lemma mem_of_notMem_hideAll (h : Story a events deeds b) (ha : a.Apart) {hand : Int × Nat}
    (hm : hand ∈ b) (hshown : hand.1 ∉ hideAll true hidden deeds) :
    hand ∈ a ∧ hand.1 ∉ hidden := by
  induction h generalizing hidden with
  | nil same => exact ⟨same.mem_iff.mpr hm, hshown⟩
  | cons first _ ih =>
      obtain ⟨hmid, hhidden⟩ := ih (first.apart ha) hm hshown
      exact first.mem_of_notMem_hide ha hmid hhidden

/-- **While the page hears nothing**, it sees the fingers that it saw before and that stay down. -/
lemma sees_of_silence {presses others : List Deed} (h : Story a events (presses ++ others) b)
    (ha : a.Apart) (hpresses : ∀ d ∈ presses, d.isPress = true)
    (hothers : ∀ d ∈ others, d.isPress = false)
    (hnew : ∀ f, .press f ∈ presses ++ others → f ∉ a.map Prod.fst) (hs : Sees known hidden a) :
    Sees (known ∩ (b.map Prod.snd).toFinset) (hideAll true hidden (presses ++ others)) b := by
  intro slot
  rw [Finset.mem_inter, hs slot, List.mem_toFinset]
  constructor
  · -- The slot was not handed on, and a finger that was down does not go down again.
    rintro ⟨⟨f, hf, hfa⟩, hslot⟩
    obtain ⟨⟨g, _⟩, hgb, rfl⟩ := List.mem_map.mp hslot
    obtain rfl := h.finger_eq ha hpresses hothers hfa hgb
    refine ⟨f, fun hhidden => ?_, hgb⟩
    obtain ⟨-, hpress⟩ := (mem_hideAll hhidden).resolve_left hf
    exact hnew f hpress (List.mem_map.mpr ⟨_, hfa, rfl⟩)
  · rintro ⟨f, hf, hfb⟩
    obtain ⟨hfa, hshown⟩ := h.mem_of_notMem_hideAll ha hfb hf
    exact ⟨⟨f, hshown, hfa⟩, List.mem_map.mpr ⟨_, hfb, rfl⟩⟩

end Story

end ViewInput.Touch
