import ViewInput.Proofs.Touch.Slots

/-!
# Runs of the slots

A run binds and releases fingers, takes whole batches in place, and clears the slots, in any order.
**Whatever the run, the slots stay valid**, a new finger gets the least free one, and a finger keeps
its slot until a call takes it away (`least_slot_until_freed`).

A batch in place is the batch as a whole (`takeBatch_eq`).  The work is in the undoing: the fingers
that the batch has bound so far stand last, so that releasing them, though each time the last binding
changes its place, leaves the old bindings as they were (`bindings_releaseAll_new`).
-/

namespace ViewInput.Touch.Slots

open Device (TouchPoint)

variable {s : Slots}

/-! ## Undoing -/

/-- Bits follow from bindings. -/
lemma eq_of_bindings_eq {s' : Slots} (h : s.Valid) (h' : s'.Valid)
    (hb : s.bindings = s'.bindings) : s = s' := by
  have hused : s.used = s'.used := by
    refine BitVec.eq_of_getLsbD_eq fun i _ => ?_
    rw [Bool.eq_iff_iff, h.used_iff, h'.used_iff, hb]
  cases s
  cases s'
  simp only at hused hb
  rw [hused, hb]

lemma unbind_append {finger : Int} {old : List (Int × Nat)} (hf : finger ∉ old.map Prod.fst)
    (new : List (Int × Nat)) : unbind finger (old ++ new) = old ++ unbind finger new := by
  induction old with
  | nil => rfl
  | cons b rest ih =>
      simp only [List.map_cons, List.mem_cons, not_or] at hf
      rw [List.cons_append, unbind, if_neg fun h => hf.1 h.symm, ih hf.2, List.cons_append]

/-- **Releasing the last bindings leaves the others in place**, in whatever order they go. -/
lemma bindings_releaseAll_new (h : s.Valid) {old new : List (Int × Nat)} {fresh : List Int}
    (hb : s.bindings = old ++ new) (hf : (new.map Prod.fst).Perm fresh) :
    (s.releaseAll fresh).bindings = old := by
  induction fresh generalizing s new with
  | nil =>
      have hnew : new = [] := List.map_eq_nil_iff.mp hf.eq_nil
      rw [hnew, List.append_nil] at hb
      exact hb
  | cons f rest ih =>
      have hnd := h.fingers_nodup
      rw [fingers, hb, List.map_append, List.nodup_append] at hnd
      obtain ⟨-, hnew, hdisjoint⟩ := hnd
      have hmem : f ∈ new.map Prod.fst := hf.mem_iff.mpr (List.mem_cons_self ..)
      have hold : f ∉ old.map Prod.fst := fun hm => hdisjoint f hm f hmem rfl
      obtain ⟨slot, hslot⟩ : ∃ slot, s.slot? f = some slot := by
        refine slot?_isSome_of_mem ?_
        rw [fingers, hb, List.map_append]
        exact List.mem_append_right _ hmem
      have hrelease : (s.release f).bindings = old ++ unbind f new := by
        rw [release, hslot, hb]
        exact unbind_append hold new
      have hrest : ((unbind f new).map Prod.fst).Perm rest := by
        have hfrest : f ∉ rest := (List.nodup_cons.mp (hf.nodup_iff.mp hnew)).1
        have hkeep : ∀ g ∈ rest, (g != f) = true := by
          intro g hg
          simpa using fun heq : g = f => hfrest (heq ▸ hg)
        have hfilter := hf.filter (· != f)
        rw [List.filter_cons_of_neg (by simp), List.filter_eq_self.mpr hkeep, List.filter_map]
          at hfilter
        exact ((unbind_perm hnew f).map Prod.fst).trans hfilter
      rw [releaseAll, List.foldl_cons]
      exact ih (valid_release h f) hrelease hrest

/-! ## One finger -/

/-- **Binding a finger**: it has a slot, or there is a free one, or all are taken. -/
lemma bind_cases (h : s.Valid) (finger : Int) :
    (∃ slot, s.slot? finger = some slot ∧ s.bind finger = .ok (slot, s)) ∨
    (finger ∉ s.fingers ∧ s.liveCount < maxFingers ∧
      ∃ slot, s.leastFree? = some slot ∧ s.bind finger = .ok (slot, s.add finger slot)) ∨
    (finger ∉ s.fingers ∧ s.liveCount = maxFingers ∧
      s.bind finger = .error (.tooManyTouches maxFingers)) := by
  by_cases hf : finger ∈ s.fingers
  · obtain ⟨slot, hslot⟩ := slot?_isSome_of_mem hf
    exact Or.inl ⟨slot, hslot, bind_of_bound hslot⟩
  · rcases Nat.lt_or_ge s.liveCount maxFingers with hlive | hlive
    · exact Or.inr (Or.inl ⟨hf, hlive, bind_of_unbound h hf hlive⟩)
    · have hfull : s.liveCount = maxFingers := le_antisymm (liveCount_le h) hlive
      have hnone : s.leastFree? = none := by
        refine Option.eq_none_iff_forall_ne_some.mpr fun slot hfree => ?_
        have hnext := liveCount_le (valid_add h hf hfree)
        simp only [liveCount, add, List.length_append, List.length_singleton] at hnext hfull
        omega
      refine Or.inr (Or.inr ⟨hf, hfull, ?_⟩)
      rw [bind, slot?_eq_none_iff.mpr hf, hnone, hfull]

/-- Below the least free slot all are taken. -/
lemma held_of_lt_leastFree (h : s.Valid) {slot : Nat} (hfree : s.leastFree? = some slot) :
    ∀ i < slot, i ∈ s.bindings.map Prod.snd := by
  intro i hi
  have hbit := List.find?_range_eq_some.mp hfree
  exact (h.used_iff i).mp (by simpa using hbit.2.2 i hi)

/-! ## A batch in place -/

/-- Binding the fingers of a batch one by one either binds them all, or ends where the batch
began. -/
lemma bindOrUndo_eq {start : Slots} (hstart : start.Valid) (h : s.Valid)
    {new : List (Int × Nat)} (hb : s.bindings = start.bindings ++ new) (points : List TouchPoint) :
    s.bindOrUndo (new.map Prod.fst) points =
      match s.bindAll points with
      | .error e => (.error e, start)
      | .ok (contacts, s') => (.ok contacts, s') := by
  induction points generalizing s new with
  | nil => rfl
  | cons p rest ih =>
      rcases bind_cases h p.finger with
        ⟨slot, hslot, hbind⟩ | ⟨hf, -, slot, hfree, hbind⟩ | ⟨hf, -, hbind⟩
      · simp only [bindOrUndo, bindAll, hbind, hslot, reduceCtorEq, if_false, ih h hb]
        cases s.bindAll rest <;> rfl
      · have hnew : (s.add p.finger slot).bindings
            = start.bindings ++ (new ++ [(p.finger, slot)]) := by
          simp [add, hb]
        have hnext := ih (valid_add h hf hfree) hnew
        rw [List.map_append, List.map_singleton] at hnext
        simp only [bindOrUndo, bindAll, hbind, slot?_eq_none_iff.mpr hf, if_true, hnext]
        cases (s.add p.finger slot).bindAll rest <;> rfl
      · have hundo : s.releaseAll (new.map Prod.fst) = start :=
          eq_of_bindings_eq (valid_releaseAll h _) hstart
            (bindings_releaseAll_new h hb (.refl _))
        simp only [bindOrUndo, bindAll, hbind, hundo]

/-- **A batch in place is a batch as a whole**: when it fails, nothing has changed. -/
theorem takeBatch_eq (h : s.Valid) (points : List TouchPoint) :
    s.takeBatch points =
      match s.bindBatch points with
      | .error e => (.error e, s)
      | .ok (contacts, s') => (.ok contacts, s') := by
  have hall := bindOrUndo_eq h h (List.append_nil _).symm points
  rw [List.map_nil] at hall
  rw [takeBatch, bindBatch, hall]
  cases s.bindAll points <;> rfl

/-- A batch is bound finger by finger, from the first on. -/
lemma bindAll_cons_eq_ok {p : TouchPoint} {rest : List TouchPoint} {contacts : List Contact}
    {s' : Slots} (hall : s.bindAll (p :: rest) = .ok (contacts, s')) :
    ∃ slot mid more, s.bind p.finger = .ok (slot, mid) ∧ mid.bindAll rest = .ok (more, s') ∧
      contacts = ⟨slot, p⟩ :: more := by
  rw [bindAll] at hall
  cases hbind : s.bind p.finger with
  | error e => simp [hbind] at hall
  | ok first =>
      obtain ⟨slot, mid⟩ := first
      simp only [hbind] at hall
      cases hrest : mid.bindAll rest with
      | error e => simp [hrest] at hall
      | ok bound =>
          simp only [hrest, Except.ok.injEq, Prod.mk.injEq] at hall
          obtain ⟨rfl, rfl⟩ := hall
          exact ⟨slot, mid, bound.1, rfl, hrest, rfl⟩

lemma map_point_of_bindAll {points : List TouchPoint} {contacts : List Contact} {s' : Slots}
    (hall : s.bindAll points = .ok (contacts, s')) : contacts.map (·.point) = points := by
  induction points generalizing s contacts with
  | nil =>
      simp only [bindAll, Except.ok.injEq, Prod.mk.injEq] at hall
      rw [← hall.1, List.map_nil]
  | cons p rest ih =>
      obtain ⟨slot, mid, more, -, hrest, rfl⟩ := bindAll_cons_eq_ok hall
      rw [List.map_cons, ih hrest]

/-- A batch that is bound is bound to valid slots. -/
lemma bindAll_bound (h : s.Valid) {points : List TouchPoint} {contacts : List Contact}
    {s' : Slots} (hall : s.bindAll points = .ok (contacts, s')) : Bound s points contacts s' := by
  induction points generalizing s contacts with
  | nil =>
      simp only [bindAll, Except.ok.injEq, Prod.mk.injEq] at hall
      obtain ⟨rfl, rfl⟩ := hall
      exact .nil h
  | cons p rest ih =>
      obtain ⟨slot, mid, more, hbind, hrest, rfl⟩ := bindAll_cons_eq_ok hall
      have hroom : p.finger ∉ s.fingers → s.liveCount < maxFingers := by
        intro hf
        rcases bind_cases h p.finger with ⟨n, hslot, -⟩ | ⟨-, hlive, -⟩ | ⟨-, -, herror⟩
        · exact absurd (slot?_eq_none_iff.mpr hf) (by simp [hslot])
        · exact hlive
        · simp [hbind] at herror
      obtain ⟨slot₁, s₁, hbind₁, hv₁, hmem₁, hold₁, hfin₁⟩ := bind_spec h hroom
      rw [hbind, Except.ok.injEq, Prod.mk.injEq] at hbind₁
      obtain ⟨rfl, rfl⟩ := hbind₁
      exact .cons hmem₁ hold₁ hfin₁ (ih hv₁ hrest)

/-! ## Runs -/

/-- One call of the slots. -/
inductive Call where
  | bind (finger : Int)
  | release (finger : Int)
  | batch (points : List TouchPoint)
  | clear

/-- The slots after a call. -/
def call (s : Slots) : Call → Slots
  | .bind finger =>
    match s.bind finger with
    | .ok (_, s') => s'
    | .error _ => s
  | .release finger => s.release finger
  | .batch points => (s.takeBatch points).2
  | .clear => empty

/-- The slots after a run. -/
def after (s : Slots) (calls : List Call) : Slots := calls.foldl call s

/-- Whether a call takes a finger's slot away: the finger is released, by itself or in a batch that
succeeds, or the slots are cleared. -/
def frees (s : Slots) (finger : Int) : Call → Bool
  | .bind _ => false
  | .release f => f == finger
  | .batch points => (s.takeBatch points).1.isOk && (releasedFingers points).contains finger
  | .clear => true

/-- Whether a run leaves a finger its slot. -/
def keeps (finger : Int) : Slots → List Call → Bool
  | _, [] => true
  | s, c :: rest => !s.frees finger c && keeps finger (s.call c) rest

lemma valid_call (h : s.Valid) (c : Call) : (s.call c).Valid := by
  cases c with
  | bind finger =>
      rcases bind_cases h finger with
        ⟨slot, -, hbind⟩ | ⟨hf, -, slot, hfree, hbind⟩ | ⟨-, -, hbind⟩
      · simpa [call, hbind] using h
      · simpa [call, hbind] using valid_add h hf hfree
      · simpa [call, hbind] using h
  | release finger => exact valid_release h finger
  | batch points =>
      rw [call, takeBatch_eq h, bindBatch]
      cases hall : s.bindAll points with
      | error e => exact h
      | ok bound => exact valid_releaseAll (bindAll_bound h hall).valid _
  | clear => exact valid_empty

lemma valid_after (h : s.Valid) (calls : List Call) : (s.after calls).Valid := by
  induction calls generalizing s with
  | nil => exact h
  | cons c rest ih => exact ih (valid_call h c)

/-- **A finger keeps its slot** over a call that does not take it away. -/
lemma slot?_call (h : s.Valid) {finger : Int} {slot : Nat} (hslot : s.slot? finger = some slot)
    {c : Call} (hkeep : s.frees finger c = false) : (s.call c).slot? finger = some slot := by
  have hmem := (slot?_eq_some_iff h).mp hslot
  refine (slot?_eq_some_iff (valid_call h c)).mpr ?_
  cases c with
  | bind f =>
      rcases bind_cases h f with ⟨n, -, hbind⟩ | ⟨-, -, n, -, hbind⟩ | ⟨-, -, hbind⟩
      · simpa [call, hbind] using hmem
      · simp [call, hbind, add, hmem]
      · simpa [call, hbind] using hmem
  | release f =>
      refine (bindings_release h f).mem_iff.mpr (List.mem_filter.mpr ⟨hmem, ?_⟩)
      have hne : f ≠ finger := by simpa [frees] using hkeep
      simpa using hne.symm
  | batch points =>
      rw [frees, takeBatch_eq h, bindBatch] at hkeep
      rw [call, takeBatch_eq h, bindBatch]
      cases hall : s.bindAll points with
      | error e => exact hmem
      | ok bound =>
          have hstays : finger ∉ releasedFingers points := by
            simpa [hall, Except.isOk, Except.toBool] using hkeep
          have hbound := bindAll_bound h hall
          refine (bindings_releaseAll hbound.valid _).mem_iff.mpr (List.mem_filter.mpr ?_)
          exact ⟨hbound.old_mem _ hmem, by simpa using hstays⟩
  | clear => cases hkeep

lemma slot?_after (h : s.Valid) {finger : Int} {slot : Nat} (hslot : s.slot? finger = some slot)
    {calls : List Call} (hkeep : keeps finger s calls = true) :
    (s.after calls).slot? finger = some slot := by
  induction calls generalizing s with
  | nil => exact hslot
  | cons c rest ih =>
      rw [keeps, Bool.and_eq_true, Bool.not_eq_true'] at hkeep
      exact ih (valid_call h c) (slot?_call h hslot hkeep.1) hkeep.2

/-- **What holds after every run.**  Bits and bindings agree and no more than sixteen fingers are
bound.  A new finger gets the least slot that nobody has, and fails when all are taken, which changes
nothing.  A finger that is bound keeps its slot until a call takes it away. -/
theorem least_slot_until_freed (calls : List Call) :
    let s := empty.after calls
    (s.Valid ∧ s.liveCount ≤ maxFingers) ∧
    (∀ finger ∉ s.fingers,
      (s.liveCount < maxFingers → ∃ slot, s.bind finger = .ok (slot, s.add finger slot) ∧
        slot ∉ s.bindings.map Prod.snd ∧ ∀ i < slot, i ∈ s.bindings.map Prod.snd) ∧
      (¬ s.liveCount < maxFingers →
        s.bind finger = .error (.tooManyTouches maxFingers) ∧ s.call (.bind finger) = s)) ∧
    ∀ finger slot, s.slot? finger = some slot → ∀ later, keeps finger s later = true →
      (s.after later).slot? finger = some slot ∧
        (s.after later).bind finger = .ok (slot, s.after later) := by
  intro s
  have h : s.Valid := valid_after valid_empty calls
  refine ⟨⟨h, liveCount_le h⟩, fun finger hf => ⟨fun hlive => ?_, fun hfull => ?_⟩, ?_⟩
  · obtain ⟨slot, hfree, hbind⟩ := bind_of_unbound h hf hlive
    exact ⟨slot, hbind, (leastFree?_free h hfree).2, held_of_lt_leastFree h hfree⟩
  · rcases bind_cases h finger with ⟨slot, hslot, -⟩ | ⟨-, hlive, -⟩ | ⟨-, -, hbind⟩
    · exact absurd (slot?_eq_none_iff.mpr hf) (by simp [hslot])
    · exact absurd hlive hfull
    · exact ⟨hbind, by simp [call, hbind]⟩
  · intro finger slot hslot later hkeep
    have hlater := slot?_after h hslot hkeep
    exact ⟨hlater, bind_of_bound hlater⟩

/-- Points of some fingers, at a place that says nothing. -/
def pointsOf (state : Device.TouchState) (fingers : List Int) : List TouchPoint :=
  fingers.map fun f => { finger := f, state := state, position := .zero, globalPosition := .zero }

/-- Sixteen fingers go down.  Two of them leave in a batch, a batch of three finds no more than two
slots and is undone, and one of its fingers comes back. -/
def crowd : List Call :=
  [.batch (pointsOf .pressed [0, 1, 2, 3, 4, 5, 6, 7, 8, 9, 10, 11, 12, 13, 14, 15]),
   .batch (pointsOf .released [3, 9]), .batch (pointsOf .pressed [20, 21, 22]), .bind 21]

/-- The last slot is taken.  A batch that releases finger 5 fails, and others come and go. -/
def afterCrowd : List Call :=
  [.bind 30, .batch (pointsOf .released [5, 6, 31]), .release 0, .batch (pointsOf .pressed [32]),
   .batch (pointsOf .released [15])]

theorem least_slot_until_freed_crowd :
    (22 ∉ (empty.after crowd).fingers ∧ (empty.after crowd).liveCount < maxFingers ∧
      ∃ slot, (empty.after crowd).bind 22 = .ok (slot, (empty.after crowd).add 22 slot) ∧
        slot ∉ (empty.after crowd).bindings.map Prod.snd ∧
        ∀ i < slot, i ∈ (empty.after crowd).bindings.map Prod.snd) ∧
    (22 ∉ (empty.after (crowd ++ [.bind 30])).fingers ∧
      ¬ (empty.after (crowd ++ [.bind 30])).liveCount < maxFingers ∧
      (empty.after (crowd ++ [.bind 30])).bind 22 = .error (.tooManyTouches maxFingers)) ∧
    ((empty.after crowd).slot? 5 = some 5 ∧ keeps 5 (empty.after crowd) afterCrowd = true ∧
      ((empty.after crowd).after afterCrowd).slot? 5 = some 5) := by
  have hnew : 22 ∉ (empty.after crowd).fingers := by decide
  have hroom : (empty.after crowd).liveCount < maxFingers := by decide
  have hnew' : 22 ∉ (empty.after (crowd ++ [.bind 30])).fingers := by decide
  have hfull : ¬ (empty.after (crowd ++ [.bind 30])).liveCount < maxFingers := by decide
  have hslot : (empty.after crowd).slot? 5 = some 5 := by decide
  have hkeep : keeps 5 (empty.after crowd) afterCrowd = true := by decide
  obtain ⟨-, hbind, hstays⟩ := least_slot_until_freed crowd
  obtain ⟨-, hbind', -⟩ := least_slot_until_freed (crowd ++ [.bind 30])
  exact ⟨⟨hnew, hroom, (hbind 22 hnew).1 hroom⟩, ⟨hnew', hfull, ((hbind' 22 hnew').2 hfull).1⟩,
    hslot, hkeep, (hstays 5 5 hslot afterCrowd hkeep).1⟩

end ViewInput.Touch.Slots
