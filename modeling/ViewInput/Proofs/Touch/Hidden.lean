import ViewInput.Proofs.Touch.Seen
import ViewInput.Proofs.Touch.Stream

/-!
# Fingers that are hidden from the page

The selection controller may claim any batch, and the page hears nothing of it.  The tracker does
not remember which fingers went down in a claimed batch: as soon as a batch is not claimed, **the
page hears of the hidden fingers too, and it is told that they move and go up**
(`hidden_finger_goes_up`).  `expects_iff_fair` says which streams do without.

What the controller claims changes no slot (`Tracker.answer_agrees`), so everything that is known of
streams without claims holds of the tracker here, whether the page takes part or not
(`Tracker.Tracks`).
-/

namespace ViewInput.Touch

open Device (TouchBatch TouchKind)
open Page (MotionEvent)

/-! ## Any batch -/

/-- Fingers go down in a batch before any goes up. -/
lemma batchDeeds_eq (down : Finset Int) (batch : TouchBatch) :
    ∃ presses others, batchDeeds down batch = presses ++ others ∧
      (∀ d ∈ presses, d.isPress = true) ∧ ∀ d ∈ others, d.isPress = false := by
  by_cases hkind : batch.kind = .cancelled
  · rw [batchDeeds, if_pos hkind]
    refine ⟨[], _, (List.nil_append _).symm, List.forall_mem_nil _, fun d hd => ?_⟩
    by_cases hdown : down = ∅
    · simp [hdown] at hd
    · rw [if_neg hdown, List.mem_singleton] at hd
      rw [hd]
      rfl
  · rw [batchDeeds, if_neg hkind]
    refine ⟨_, _, List.append_assoc _ _ _, fun d hd => ?_, fun d hd => ?_⟩
    · obtain ⟨p, -, rfl⟩ := List.mem_map.mp hd
      rfl
    · rcases List.mem_append.mp hd with hmove | hlift
      · split at hmove
        · rw [List.mem_singleton.mp hmove]
          rfl
        · cases hmove
      · obtain ⟨p, -, rfl⟩ := List.mem_map.mp hlift
        rfl

/-- A finger that goes down in a batch is pressed in it. -/
lemma press_mem_batchDeeds {down : Finset Int} {batch : TouchBatch} {finger : Int}
    (h : .press finger ∈ batchDeeds down batch) :
    batch.kind ≠ .cancelled ∧ ∃ p ∈ batch.points, p.state = .pressed ∧ p.finger = finger := by
  by_cases hkind : batch.kind = .cancelled
  · rw [batchDeeds, if_pos hkind] at h
    split at h
    · cases h
    · exact Deed.noConfusion (List.mem_singleton.mp h)
  · rw [batchDeeds, if_neg hkind] at h
    rcases List.mem_append.mp h with h | hlift
    · rcases List.mem_append.mp h with hpress | hmove
      · obtain ⟨p, hp, heq⟩ := List.mem_map.mp hpress
        obtain ⟨hmem, hstate⟩ := List.mem_filter.mp hp
        exact ⟨hkind, p, hmem, of_decide_eq_true hstate, Deed.press.inj heq⟩
      · split at hmove
        · exact Deed.noConfusion (List.mem_singleton.mp hmove)
        · cases hmove
    · obtain ⟨p, -, heq⟩ := List.mem_map.mp hlift
      exact Deed.noConfusion heq

namespace Tracker

variable {t : Tracker} {down hidden : Finset Int} {known : Finset Nat} {offer : Offer}

/-- What the tracker knows whether the page takes part or not. -/
def Tracks (t : Tracker) (down : Finset Int) : Prop := Knows { t with started := true } down

lemma tracks_of_knows {u : Tracker} (h : u.Knows down) (hslots : t.slots = u.slots)
    (hprevious : t.previous = u.previous) : t.Tracks down where
  valid := by simpa [hslots] using h.valid
  fingers := by simpa [hslots] using h.fingers
  started := fun _ => rfl
  remembered := by simpa [hslots, hprevious] using h.remembered
  forgotten := by simpa [hprevious] using h.forgotten

lemma settle_slots {u : Tracker} (h : t.slots = u.slots) (kind : TouchKind)
    (contacts : List Contact) : (t.settle kind contacts).slots = (u.settle kind contacts).slots := by
  cases kind <;> simp [settle, h]

lemma settle_previous (u : Tracker) (kind : TouchKind) (contacts : List Contact) :
    (t.settle kind contacts).previous = (u.settle kind contacts).previous := by
  cases kind <;> rfl

/-- **A claim changes what is heard and nothing else.**  The page hears all of a batch or nothing,
and it hears a batch that is not claimed, unless that cancels a touch in which it takes no part. -/
lemma answer_agrees {s : Sequenced}
    (hopen : { t with started := true }.answer { offer with claimed := false } = .ok s) :
    ∃ s', t.answer offer = .ok s' ∧ s'.tracker.slots = s.tracker.slots ∧
      s'.tracker.previous = s.tracker.previous ∧
      s'.outcome.events =
        if offer.claimed = true ∨ offer.batch.kind = .cancelled ∧ t.started = false then []
        else s.outcome.events := by
  unfold answer sequence at hopen ⊢
  cases hbind : t.slots.bindBatch offer.batch.points with
  | error e => simp [hbind] at hopen
  | ok bound =>
      obtain ⟨bound, slots⟩ := bound
      simp only [hbind, Bool.false_eq_true, if_false] at hopen ⊢
      cases hprobe : probe? offer.batch.kind (deliveryOrder bound) t.previous with
      | none =>
          simp only [hprobe] at hopen ⊢
          obtain rfl := Except.ok.inj hopen
          exact ⟨_, rfl, settle_slots (by rfl) _ _, settle_previous _ _ _, by simp [Outcome.events]⟩
      | some shown =>
          -- The answers differ in `started` and in what waits, and `settle` passes both by.
          simp only [hprobe, Bool.true_eq_false, and_false, if_false] at hopen ⊢
          obtain rfl := Except.ok.inj hopen
          by_cases hclaimed : offer.claimed = true
          · rw [if_pos hclaimed]
            exact ⟨_, rfl, settle_slots (by rfl) _ _, settle_previous _ _ _,
              by rw [if_pos (.inl hclaimed)]; rfl⟩
          · rw [if_neg hclaimed]
            by_cases hout : offer.batch.kind = .cancelled ∧ t.started = false
            · rw [if_pos hout]
              exact ⟨_, rfl, settle_slots (by rfl) _ _, settle_previous _ _ _,
                by rw [if_pos (.inr hout)]; rfl⟩
            · rw [if_neg hout]
              exact ⟨_, rfl, settle_slots (by rfl) _ _, settle_previous _ _ _,
                by rw [if_neg (not_or.mpr ⟨hclaimed, hout⟩)]⟩

/-- **What holds between two batches**: the page sees the fingers that are down and not hidden. -/
structure Shows (t : Tracker) (down hidden : Finset Int) (known : Finset Nat) : Prop where
  tracks : t.Tracks down
  within : Within hidden t.slots.bindings
  sees : Sees known hidden t.slots.bindings

lemma Tracks.apart (h : t.Tracks down) : Hands.Apart t.slots.bindings :=
  ⟨h.valid.fingers_nodup, h.valid.slots_nodup⟩

lemma Tracks.answer (h : t.Tracks down) (hfit : Fits down offer.batch) :
    ∃ s events, t.answer offer = .ok s ∧ s.tracker.Tracks (downAfter offer.batch) ∧
      Story t.slots.bindings events (batchDeeds down offer.batch) s.tracker.slots.bindings ∧
      s.outcome.events =
        if offer.claimed = true ∨ offer.batch.kind = .cancelled ∧ t.started = false then []
        else events := by
  have hfit' : Fits down ({ offer with claimed := false } : Offer).batch := hfit
  obtain ⟨s, hopen, hknows, hstory⟩ := Knows.answer h hfit' rfl
  obtain ⟨s', hans, hslots, hprevious, hevents⟩ := answer_agrees hopen
  exact ⟨s', _, hans, tracks_of_knows hknows hslots hprevious, by rw [hslots]; exact hstory, hevents⟩

/-- The page hears nothing of a batch that is claimed. -/
lemma Shows.sees_claimed (h : t.Shows down hidden known) (hfit : Fits down offer.batch)
    {events : List MotionEvent} {after : Hands}
    (hstory : Story t.slots.bindings events (batchDeeds down offer.batch) after) :
    Sees (known ∩ (after.map Prod.snd).toFinset)
      (hideAll true hidden (batchDeeds down offer.batch)) after := by
  obtain ⟨presses, others, hdeeds, hpresses, hothers⟩ := batchDeeds_eq down offer.batch
  have hnew : ∀ f, .press f ∈ batchDeeds down offer.batch →
      f ∉ t.slots.bindings.map Prod.fst := by
    intro f hpress hdown
    obtain ⟨hkind, p, hp, hstate, rfl⟩ := press_mem_batchDeeds hpress
    exact (hfit.pressed hkind p hp).mp hstate ((h.tracks.fingers _).mp hdown)
  rw [hdeeds] at hstory hnew ⊢
  exact hstory.sees_of_silence h.tracks.apart hpresses hothers hnew h.sees

lemma fairAll_of_cancelled {batch : TouchBatch} (hkind : batch.kind = .cancelled) :
    FairAll hidden (batchDeeds down batch) := by
  by_cases hdown : down = ∅
  · simp [batchDeeds, hkind, hdown, FairAll]
  · simp [batchDeeds, hkind, hdown, FairAll, Deed.Fair]

lemma sees_inter {hands : Hands} (h : Sees known hidden hands) :
    Sees (known ∩ (hands.map Prod.snd).toFinset) hidden hands := by
  intro slot
  rw [Finset.mem_inter, h slot, List.mem_toFinset, and_iff_left_of_imp]
  rintro ⟨f, -, hm⟩
  exact List.mem_map.mpr ⟨_, hm, rfl⟩

/-- What the page knows of the slots after a batch.  A slot that a finger leaves is no longer down,
whether the page heard of it or not. -/
def knownAfter (known : Finset Nat) (s : Sequenced) : Finset Nat :=
  s.outcome.events.foldl hear known ∩ (s.tracker.slots.bindings.map Prod.snd).toFinset

/-- **One batch**: the page expects what it hears exactly if the batch is claimed or its deeds are
fair, and after it the page sees what is not hidden. -/
theorem Shows.step (h : t.Shows down hidden known) (hfit : Fits down offer.batch) :
    ∃ s, t.answer offer = .ok s ∧
      (ExpectedAll known s.outcome.events ↔
        (offer.claimed = false → FairAll hidden (batchDeeds down offer.batch))) ∧
      s.tracker.Shows (downAfter offer.batch)
        (hideAll offer.claimed hidden (batchDeeds down offer.batch)) (knownAfter known s) := by
  obtain ⟨s, events, hans, htracks, hstory, hevents⟩ := h.tracks.answer hfit
  have hwithin := hstory.within offer.claimed h.within
  obtain ⟨hexpected, hsees⟩ := hstory.expected_iff h.tracks.apart h.within h.sees
  cases hclaimed : offer.claimed with
  | true =>
      rw [if_pos (.inl hclaimed)] at hevents
      rw [hclaimed] at hwithin
      refine ⟨s, hans, ?_, htracks, hwithin, ?_⟩
      · rw [hevents]
        exact iff_of_true trivial nofun
      · rw [knownAfter, hevents]
        exact h.sees_claimed hfit hstory
  | false =>
      rw [hclaimed] at hwithin
      by_cases hout : offer.batch.kind = .cancelled ∧ t.started = false
      · -- The tracker keeps a cancellation to itself, but nothing is down after it.
        rw [if_pos (.inr hout)] at hevents
        have hnone : s.tracker.slots.bindings = [] := by
          rw [downAfter, if_pos hout.1] at htracks
          exact htracks.bindings_eq_nil
        refine ⟨s, hans, ?_, htracks, hwithin, fun slot => ?_⟩
        · rw [hevents]
          exact iff_of_true trivial fun _ => fairAll_of_cancelled hout.1
        · simp [knownAfter, hnone]
      · rw [if_neg (by simp [hclaimed, hout])] at hevents
        refine ⟨s, hans, ?_, htracks, hwithin, ?_⟩
        · rw [hevents, hexpected]
          exact ⟨fun h _ => h, fun h => h rfl⟩
        · rw [knownAfter, hevents]
          exact sees_inter hsees

/-! ## A whole stream -/

/-- **The page expects all that it hears of a stream.** -/
def Expects : Tracker → Finset Nat → List Offer → Prop
  | _, _, [] => True
  | t, known, offer :: rest =>
    match t.answer offer with
    | .ok s => ExpectedAll known s.outcome.events ∧ s.tracker.Expects (knownAfter known s) rest
    | .error _ => t.Expects known rest

end Tracker

/-- **No batch tells the page of a hidden finger.** -/
def FairStream : Finset Int → Finset Int → List Offer → Prop
  | _, _, [] => True
  | down, hidden, offer :: rest =>
    (offer.claimed = false → FairAll hidden (batchDeeds down offer.batch)) ∧
      FairStream (downAfter offer.batch)
        (hideAll offer.claimed hidden (batchDeeds down offer.batch)) rest

instance : ∀ (down hidden : Finset Int) (offers : List Offer),
    Decidable (FairStream down hidden offers)
  | _, _, [] => .isTrue trivial
  | down, hidden, offer :: rest =>
    have := instDecidableFairStream (downAfter offer.batch)
      (hideAll offer.claimed hidden (batchDeeds down offer.batch)) rest
    inferInstanceAs (Decidable (_ ∧ _))

namespace Tracker

variable {t : Tracker} {down hidden : Finset Int} {known : Finset Nat}

/-- **A stream**, claimed in any way. -/
theorem Shows.expects_iff (h : t.Shows down hidden known) (offers : List Offer)
    (hfit : WellFormed down (offers.map (·.batch))) :
    (∀ a ∈ t.answers offers, ∃ outcome, a = .ok outcome) ∧
      (t.Expects known offers ↔ FairStream down hidden offers) := by
  induction offers generalizing t down hidden known with
  | nil => exact ⟨nofun, .rfl⟩
  | cons offer rest ih =>
      obtain ⟨s, hans, hexpected, hnext⟩ := h.step hfit.1
      obtain ⟨hanswered, hrest⟩ := ih hnext hfit.2
      have hafter : t.after offer = s.tracker := by simp only [after, hans]
      refine ⟨?_, ?_⟩
      · rw [answers, hafter, hans]
        exact List.forall_mem_cons.mpr ⟨⟨s.outcome, rfl⟩, hanswered⟩
      · simp only [Expects, hans, FairStream]
        exact and_congr hexpected hrest

lemma shows_empty : ({} : Tracker).Shows ∅ ∅ ∅ where
  tracks := tracks_of_knows knows_empty rfl rfl
  within := nofun
  sees := fun slot => by simp

end Tracker

/-- A controller that claims no batch in which a finger goes down hides nothing. -/
theorem fairStream_of_presses_open (down : Finset Int) (offers : List Offer)
    (hopen : ∀ offer ∈ offers, offer.claimed = true → ∀ p ∈ offer.batch.points,
      p.state ≠ .pressed) : FairStream down ∅ offers := by
  induction offers generalizing down with
  | nil => trivial
  | cons offer rest ih =>
      obtain ⟨hfirst, hrest⟩ := List.forall_mem_cons.mp hopen
      have hnone : hideAll offer.claimed ∅ (batchDeeds down offer.batch) = ∅ := by
        refine Finset.eq_empty_of_forall_notMem fun f hf => ?_
        obtain ⟨hclaimed, hpress⟩ := (mem_hideAll hf).resolve_left (Finset.notMem_empty f)
        obtain ⟨p, hp, hstate, -⟩ := (press_mem_batchDeeds hpress).2
        exact hfirst hclaimed p hp hstate
      refine ⟨fun _ => fairAll_empty _, ?_⟩
      rw [hnone]
      exact ih (downAfter offer.batch) hrest

/-- **When a page sees only fingers that it saw go down.**  From a fresh tracker, every batch of a
stream that keeps to the protocol is answered, whatever is claimed; and the page expects all that it
hears exactly if no batch that is not claimed moves or lifts a finger that went down in a claimed
one. -/
theorem expects_iff_fair (offers : List Offer) (hfit : WellFormed ∅ (offers.map (·.batch))) :
    (∀ a ∈ Tracker.answers {} offers, ∃ outcome, a = .ok outcome) ∧
      (Tracker.Expects {} ∅ offers ↔ FairStream ∅ ∅ offers) :=
  Tracker.shows_empty.expects_iff offers hfit

/-- Two fingers go down and a third comes while the controller claims a movement and a lift in
between, but no batch in which a finger goes down. -/
def openPresses : List Offer :=
  [{ batch := { kind := .began, points := [pointAt 7 .pressed, pointAt 3 .pressed] } },
   { batch := { kind := .updated, points := [pointAt 3 .updated, pointAt 7 .updated] }
     claimed := true },
   { batch := { kind := .updated, points := [pointAt 7 .released, pointAt 3 .stationary] }
     claimed := true },
   { batch := { kind := .updated, points := [pointAt 3 .updated, pointAt 9 .pressed] } },
   { batch := { kind := .ended, points := [pointAt 9 .released, pointAt 3 .released] } }]

/-- The same, and another touch that is claimed from its beginning until it is cancelled. -/
def halfClaimed : List Offer :=
  openPresses ++
    [{ batch := { kind := .began, points := [pointAt 5 .pressed] }, claimed := true },
     { batch := { kind := .cancelled, points := [] } }]

theorem expects_iff_fair_halfClaimed :
    WellFormed ∅ (openPresses.map (·.batch)) ∧ Tracker.Expects {} ∅ openPresses ∧
      WellFormed ∅ (halfClaimed.map (·.batch)) ∧
      (∀ a ∈ Tracker.answers {} halfClaimed, ∃ outcome, a = .ok outcome) ∧
      Tracker.Expects {} ∅ halfClaimed := by
  have hfit : WellFormed ∅ (openPresses.map (·.batch)) := by decide
  have hfair : FairStream ∅ ∅ openPresses := fairStream_of_presses_open ∅ openPresses (by decide)
  have hfit' : WellFormed ∅ (halfClaimed.map (·.batch)) := by decide
  have hfair' : FairStream ∅ ∅ halfClaimed := by decide
  obtain ⟨hanswered, hiff⟩ := expects_iff_fair halfClaimed hfit'
  exact ⟨hfit, (expects_iff_fair openPresses hfit).2.mpr hfair, hfit', hanswered, hiff.mpr hfair'⟩

/-- The controller claims that a finger goes down, and not that it goes up. -/
def hiddenTap : List Offer :=
  [{ batch := { kind := .began, points := [pointAt 1 .pressed] }, claimed := true },
   { batch := { kind := .ended, points := [pointAt 1 .released] } }]

/-- **The page is told that a finger goes up that it never saw.** -/
theorem hidden_finger_goes_up :
    WellFormed ∅ (hiddenTap.map (·.batch)) ∧
      (Tracker.answers {} hiddenTap).map (fun a => a.toOption.map fun outcome =>
        outcome.events.map fun e => (e.action, listed e)) = [some [], some [(.up, [0])]] ∧
      ¬ Tracker.Expects {} ∅ hiddenTap := by
  have hfit : WellFormed ∅ (hiddenTap.map (·.batch)) := by decide
  have hunfair : ¬ FairStream ∅ ∅ hiddenTap := by decide
  exact ⟨hfit, by decide, (Tracker.shows_empty.expects_iff hiddenTap hfit).2.not.mpr hunfair⟩

end ViewInput.Touch
