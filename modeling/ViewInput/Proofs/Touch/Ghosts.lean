import ViewInput.Proofs.Touch.Contacts

/-!
# Fingers that were forgotten

When a finger is cancelled, the grouping forgets every finger that is down.  The others may go on
to report.  What they report is dropped as long as they are alone.  But with a finger that goes down
in the same group, or that went down since, **a batch lists them too**, as fingers that move or go
up (`forgotten_finger_returns`).

`ghostFree_iff_unhaunted` says which runs do without such ghosts.  In any run a batch moves or lifts
only fingers that an earlier batch pressed, and that were not lifted since; what may have come
between is a cancelled batch.
-/

namespace ViewInput.Touch

open Device (TouchBatch TouchPoint TouchState)
open Grouping (Dated Drops batchOf closeEach remaining)
open Slots (fingersOf)

/-! ## What earlier batches said -/

/-- A batch lists a finger in a state. -/
def Names (batch : TouchBatch) (finger : Int) (state : TouchState) : Prop :=
  ∃ p ∈ batch.points, p.finger = finger ∧ p.state = state

/-- **A batch pressed the finger**, and no later one ended that. -/
def PressedSince (ends : TouchBatch → Int → Prop) (before : List TouchBatch) (finger : Int) :
    Prop :=
  ∃ earlier batch later, before = earlier ++ batch :: later ∧ Names batch finger .pressed ∧
    ∀ b ∈ later, ¬ ends b finger

/-- A batch that lifts the finger. -/
def Lifts (batch : TouchBatch) (finger : Int) : Prop := Names batch finger .released

/-- A batch after which the finger is not down: it is cancelled or lifts the finger. -/
def Ends (batch : TouchBatch) (finger : Int) : Prop := batch.kind = .cancelled ∨ Lifts batch finger

lemma pressedSince_concat (ends : TouchBatch → Int → Prop) (before : List TouchBatch)
    (batch : TouchBatch) (finger : Int) :
    PressedSince ends (before ++ [batch]) finger ↔
      Names batch finger .pressed ∨ PressedSince ends before finger ∧ ¬ ends batch finger := by
  constructor
  · rintro ⟨earlier, first, later, heq, hpressed, hlater⟩
    rcases List.eq_nil_or_concat later with rfl | ⟨later, last, rfl⟩
    · obtain ⟨-, hlast⟩ := List.append_inj' heq rfl
      obtain rfl := List.singleton_inj.mp hlast
      exact Or.inl hpressed
    · rw [List.concat_eq_append, ← List.cons_append, ← List.append_assoc] at heq
      obtain ⟨rfl, hlast⟩ := List.append_inj' heq rfl
      obtain rfl := List.singleton_inj.mp hlast
      exact Or.inr ⟨⟨earlier, first, later, rfl, hpressed, fun b hb => hlater b (by simp [hb])⟩,
        hlater batch (by simp)⟩
  · rintro (hpressed | ⟨⟨earlier, first, later, rfl, hpressed, hlater⟩, hlast⟩)
    · exact ⟨before, batch, [], rfl, hpressed, nofun⟩
    · refine ⟨earlier, first, later ++ [batch], by simp, hpressed, fun b hb => ?_⟩
      rcases List.mem_append.mp hb with hb | hb
      · exact hlater b hb
      · exact List.mem_singleton.mp hb ▸ hlast

/-- What holds of each batch, given the batches before it. -/
def EachGiven (P : List TouchBatch → TouchBatch → Prop) (before batches : List TouchBatch) : Prop :=
  ∀ earlier batch later, batches = earlier ++ batch :: later → P (before ++ earlier) batch

lemma eachGiven_nil (P : List TouchBatch → TouchBatch → Prop) (before : List TouchBatch) :
    EachGiven P before [] := by
  intro earlier batch later heq
  simp at heq

lemma eachGiven_cons (P : List TouchBatch → TouchBatch → Prop) (before : List TouchBatch)
    (batch : TouchBatch) (rest : List TouchBatch) :
    EachGiven P before (batch :: rest) ↔ P before batch ∧ EachGiven P (before ++ [batch]) rest := by
  constructor
  · intro h
    refine ⟨by simpa using h [] batch rest rfl, fun earlier next later heq => ?_⟩
    simpa using h (batch :: earlier) next later (by rw [heq]; rfl)
  · rintro ⟨hfirst, hrest⟩ earlier next later heq
    cases earlier with
    | nil =>
        obtain ⟨rfl, -⟩ := List.cons.inj heq
        simpa using hfirst
    | cons first earlier =>
        obtain ⟨rfl, hsplit⟩ := List.cons.inj heq
        simpa using hrest earlier next later hsplit

/-- A batch that moves or lifts only fingers that were pressed before. -/
def Follows (ends : TouchBatch → Int → Prop) (before : List TouchBatch) (batch : TouchBatch) :
    Prop :=
  ∀ p ∈ batch.points, p.state ≠ .pressed → PressedSince ends before p.finger

/-- **No ghosts**: a batch that is not cancelled moves or lifts a finger only if an earlier batch
pressed it, and no batch since was cancelled or lifted it. -/
def GhostFree (batches : List TouchBatch) : Prop :=
  EachGiven (fun before batch => batch.kind ≠ .cancelled → Follows Ends before batch) [] batches

/-! ## What groups say of forgotten fingers -/

/-- A group that moves or lifts a forgotten finger and is not cancelled itself. -/
def Group.Haunts (forgotten : Finset Int) (group : Group) : Prop :=
  group.cancelled = false ∧ ∃ p ∈ group.points, p.state ≠ .pressed ∧ p.finger ∈ forgotten

instance (forgotten : Finset Int) (group : Group) : Decidable (group.Haunts forgotten) :=
  inferInstanceAs (Decidable (_ ∧ _))

/-- The fingers that are forgotten after a group.  A cancelled group forgets those that were down
before it, and a finger that goes down is known again. -/
def Group.forget (down forgotten : Finset Int) (group : Group) : Finset Int :=
  (if group.cancelled then down else forgotten)
    \ (fingersOf (pointsIn .pressed group.points)).toFinset

/-- **No group that is delivered shows a forgotten finger**, given the fingers that the grouping
takes to be down, those that are down, and those of them that it forgot. -/
def Unhaunted : List TouchPoint → Finset Int → Finset Int → List Dated → Prop
  | _, _, _, [] => True
  | live, down, forgotten, (group, timestamp) :: rest =>
    if Drops live group then Unhaunted live (group.after down) forgotten rest
    else
      ¬ group.Haunts forgotten ∧
        Unhaunted (remaining (batchOf live group timestamp)) (group.after down)
          (group.forget down forgotten) rest

instance : ∀ (live : List TouchPoint) (down forgotten : Finset Int) (groups : List Dated),
    Decidable (Unhaunted live down forgotten groups)
  | _, _, _, [] => .isTrue trivial
  | live, down, forgotten, (group, timestamp) :: rest =>
    have := instDecidableUnhaunted live (group.after down) forgotten rest
    have := instDecidableUnhaunted (remaining (batchOf live group timestamp)) (group.after down)
      (group.forget down forgotten) rest
    inferInstanceAs (Decidable (if Drops live group
      then Unhaunted live (group.after down) forgotten rest
      else ¬ group.Haunts forgotten ∧
        Unhaunted (remaining (batchOf live group timestamp)) (group.after down)
          (group.forget down forgotten) rest))

/-- Groups that nobody cancels forget no finger. -/
lemma unhaunted_of_going {live : List TouchPoint} {down : Finset Int} {groups : List Dated}
    (hgoing : ∀ dated ∈ groups, dated.1.cancelled = false) : Unhaunted live down ∅ groups := by
  induction groups generalizing live down with
  | nil => trivial
  | cons dated rest ih =>
      obtain ⟨group, timestamp⟩ := dated
      have hgroup : group.cancelled = false := hgoing _ List.mem_cons_self
      have hrest := fun dated hdated => hgoing dated (List.mem_cons_of_mem _ hdated)
      have hforget : group.forget down ∅ = ∅ := by
        rw [Group.forget, hgroup, if_neg Bool.false_ne_true, Finset.empty_sdiff]
      rw [Unhaunted, hforget]
      split
      · exact ih hrest
      · refine ⟨?_, ih hrest⟩
        rintro ⟨-, p, -, -, hforgotten⟩
        exact Finset.notMem_empty _ hforgotten

/-- **What the batches so far say of the fingers that are down**: each was pressed and not lifted
since, and only of the forgotten ones was a later batch cancelled. -/
structure Remembers (before : List TouchBatch) (live : List TouchPoint)
    (down forgotten : Finset Int) : Prop where
  distinct : (fingersOf live).Nodup
  live_subset : ∀ f ∈ fingersOf live, f ∈ down
  pressed : ∀ f ∈ down, PressedSince Lifts before f
  known : ∀ f ∈ down, PressedSince Ends before f ↔ f ∉ forgotten

/-- The batch of a group presses and lifts what the group does. -/
lemma names_batchOf {live : List TouchPoint} {group : Group} (hlive : (fingersOf live).Nodup)
    (hgroup : (fingersOf group.points).Nodup) (timestamp : Nat) (finger : Int) {state : TouchState}
    (hstate : state ≠ .stationary) :
    Names (batchOf live group timestamp) finger state
      ↔ stateOf? finger group.points = some state := by
  rw [Names, Grouping.points_batchOf, ← stateOf?_eq_some_iff (nodup_append_carried hlive hgroup),
    stateOf?_carried hlive]
  cases stateOf? finger group.points with
  | some old => rfl
  | none =>
      rw [Option.none_or]
      split <;> simp [hstate.symm]

lemma mem_of_carried {live points : List TouchPoint} {p : TouchPoint}
    (hp : p ∈ Grouping.carried live points) : p.finger ∈ fingersOf live := by
  obtain ⟨l, hl, rfl⟩ := List.mem_map.mp hp
  exact List.mem_map.mpr ⟨l, (List.mem_filter.mp hl).1, rfl⟩

namespace Remembers

variable {before : List TouchBatch} {live : List TouchPoint} {down forgotten : Finset Int}
  {group : Group}

lemma empty : Remembers [] [] ∅ ∅ :=
  ⟨List.nodup_nil, nofun, nofun, nofun⟩

/-- A group that is dropped presses no finger. -/
lemma drop (h : Remembers before live down forgotten) (hgroup : group.Grounded down)
    (hdrops : Drops live group) : Remembers before live (group.after down) forgotten := by
  have hnone : ∀ f, stateOf? f group.points ≠ some .pressed := by
    intro f hpressed
    obtain ⟨p, hp, -, hstate⟩ := (stateOf?_eq_some_iff hgroup.distinct).mp hpressed
    rcases hdrops with hnil | ⟨-, -, hdrops⟩
    · simp [hnil] at hp
    · exact hdrops p hp hstate
  have hafter : ∀ f ∈ group.after down, f ∈ down := fun f hf =>
    (((Group.mem_after_iff hgroup.distinct f).mp hf).resolve_left (hnone f)).1
  refine ⟨h.distinct, fun f hf => ?_, fun f hf => h.pressed f (hafter f hf),
    fun f hf => h.known f (hafter f hf)⟩
  rcases hdrops with hnil | ⟨rfl, -, -⟩
  · rw [Group.mem_after_iff hgroup.distinct, hnil]
    exact Or.inr ⟨h.live_subset f hf, nofun⟩
  · cases hf

/-- The batch of a group. -/
lemma batch (h : Remembers before live down forgotten) (hgroup : group.Grounded down)
    (timestamp : Nat) :
    Remembers (before ++ [batchOf live group timestamp]) (remaining (batchOf live group timestamp))
      (group.after down) (group.forget down forgotten) := by
  have hdistinct := nodup_append_carried h.distinct hgroup.distinct
  have hpressed := fun f => names_batchOf h.distinct hgroup.distinct timestamp f
    (by decide : TouchState.pressed ≠ .stationary)
  have hlifted := fun f => names_batchOf h.distinct hgroup.distinct timestamp f
    (by decide : TouchState.released ≠ .stationary)
  have hafter : ∀ f, f ∈ group.after down ↔ _ := Group.mem_after_iff hgroup.distinct
  refine ⟨Grouping.nodup_remaining hdistinct, fun f hf => ?_, fun f hf => ?_, fun f hf => ?_⟩
  · obtain ⟨-, hlisted, hstays⟩ := (Grouping.mem_remaining_iff hdistinct f).mp hf
    rw [Grouping.points_batchOf, mem_append_carried_iff] at hlisted
    rw [Grouping.points_batchOf, stateOf?_carried h.distinct] at hstays
    rw [hafter]
    cases hs : stateOf? f group.points with
    | none =>
        have hcarried := hlisted.resolve_left (stateOf?_eq_none_iff.mp hs)
        exact Or.inr ⟨h.live_subset f hcarried, nofun⟩
    | some state =>
        rw [hs, Option.some_or] at hstays
        by_cases hstate : state = .pressed
        · exact Or.inl (congrArg some hstate)
        · exact Or.inr ⟨hgroup.held f state hs hstate, hstays⟩
  · rw [pressedSince_concat, Lifts, hpressed, hlifted]
    exact ((hafter f).mp hf).imp_right fun hheld => ⟨h.pressed f hheld.1, hheld.2⟩
  · rw [pressedSince_concat, Ends, Lifts, hpressed, hlifted,
      Grouping.batchOf_kind_eq_cancelled_iff, Group.forget, Finset.mem_sdiff, List.mem_toFinset,
      mem_pointsIn_iff hgroup.distinct]
    by_cases hpress : stateOf? f group.points = some .pressed
    · simp [hpress]
    · obtain ⟨hdown, hheld⟩ := ((hafter f).mp hf).resolve_left hpress
      rw [h.known f hdown]
      cases hcancelled : group.cancelled <;> simp [hpress, hheld, hdown]

/-- A batch moves and lifts only fingers that were pressed and not lifted since. -/
lemma follows_lifts (h : Remembers before live down forgotten) (hgroup : group.Grounded down)
    (timestamp : Nat) : Follows Lifts before (batchOf live group timestamp) := by
  intro p hp hstate
  rcases List.mem_append.mp hp with hp | hp
  · exact h.pressed _ (hgroup.mem_down hp hstate)
  · exact h.pressed _ (h.live_subset _ (mem_of_carried hp))

/-- As long as the grouping takes no forgotten finger to be down, only the group can show one. -/
lemma follows_ends_iff (h : Remembers before live down forgotten) (hgroup : group.Grounded down)
    (hlive : ∀ f ∈ fingersOf live, f ∉ forgotten) (timestamp : Nat) :
    ((batchOf live group timestamp).kind ≠ .cancelled →
      Follows Ends before (batchOf live group timestamp)) ↔ ¬ group.Haunts forgotten := by
  rw [ne_eq, Grouping.batchOf_kind_eq_cancelled_iff, Bool.not_eq_true, Group.Haunts, not_and]
  refine imp_congr_right fun _ => ⟨?_, ?_⟩
  · rintro hfollows ⟨p, hp, hstate, hforgotten⟩
    have hpressed := hfollows p (List.mem_append_left _ hp) hstate
    exact (h.known _ (hgroup.mem_down hp hstate)).mp hpressed hforgotten
  · intro hnone p hp hstate
    rcases List.mem_append.mp hp with hp | hp
    · exact (h.known _ (hgroup.mem_down hp hstate)).mpr fun hforgotten =>
        hnone ⟨p, hp, hstate, hforgotten⟩
    · have hp := mem_of_carried hp
      exact (h.known _ (h.live_subset _ hp)).mpr (hlive _ hp)

/-- A group that shows no forgotten finger leaves none for the grouping to take to be down. -/
lemma notMem_forget (h : Remembers before live down forgotten) (hgroup : group.Grounded down)
    (hlive : ∀ f ∈ fingersOf live, f ∉ forgotten) (hnone : ¬ group.Haunts forgotten)
    (timestamp : Nat) : ∀ f ∈ fingersOf (remaining (batchOf live group timestamp)),
      f ∉ group.forget down forgotten := by
  have hdistinct := nodup_append_carried h.distinct hgroup.distinct
  intro f hf
  obtain ⟨hkind, hlisted, -⟩ := (Grouping.mem_remaining_iff hdistinct f).mp hf
  rw [ne_eq, Grouping.batchOf_kind_eq_cancelled_iff, Bool.not_eq_true] at hkind
  rw [Group.forget, hkind, Finset.mem_sdiff, List.mem_toFinset, mem_pointsIn_iff hgroup.distinct]
  rintro ⟨hforgotten, hpress⟩
  obtain ⟨p, hp, rfl⟩ := List.mem_map.mp hlisted
  rcases List.mem_append.mp hp with hp | hp
  · refine hnone ⟨hkind, p, hp, fun hstate => hpress ?_, hforgotten⟩
    exact (stateOf?_eq_some_iff hgroup.distinct).mpr ⟨p, hp, rfl, hstate⟩
  · exact hlive _ (mem_of_carried hp) hforgotten

/-! ## A whole run -/

/-- **Batches that groups become** move and lift only fingers that were pressed before. -/
lemma eachGiven_follows (h : Remembers before live down forgotten) {groups : List Dated}
    (hgroups : Group.GroundedAll down (groups.map Prod.fst)) :
    EachGiven (Follows Lifts) before ((closeEach live groups).map Prod.fst) := by
  induction groups generalizing before live down forgotten with
  | nil => exact eachGiven_nil _ _
  | cons dated rest ih =>
      obtain ⟨group, timestamp⟩ := dated
      obtain ⟨hgroup, hrest⟩ := hgroups
      by_cases hdrops : Drops live group
      · rw [Grouping.closeEach_of_drops hdrops]
        exact ih (h.drop hgroup hdrops) hrest
      · rw [Grouping.closeEach_of_not_drops hdrops, List.map_cons, eachGiven_cons]
        exact ⟨h.follows_lifts hgroup timestamp, ih (h.batch hgroup timestamp) hrest⟩

/-- **Batches that groups become show no ghost** iff no group that is delivered does. -/
lemma eachGiven_iff_unhaunted (h : Remembers before live down forgotten) {groups : List Dated}
    (hgroups : Group.GroundedAll down (groups.map Prod.fst))
    (hlive : ∀ f ∈ fingersOf live, f ∉ forgotten) :
    EachGiven (fun before batch => batch.kind ≠ .cancelled → Follows Ends before batch) before
        ((closeEach live groups).map Prod.fst)
      ↔ Unhaunted live down forgotten groups := by
  induction groups generalizing before live down forgotten with
  | nil => exact iff_of_true (eachGiven_nil _ _) trivial
  | cons dated rest ih =>
      obtain ⟨group, timestamp⟩ := dated
      obtain ⟨hgroup, hrest⟩ := hgroups
      rw [Unhaunted]
      by_cases hdrops : Drops live group
      · rw [Grouping.closeEach_of_drops hdrops, if_pos hdrops]
        exact ih (h.drop hgroup hdrops) hrest hlive
      · rw [Grouping.closeEach_of_not_drops hdrops, if_neg hdrops, List.map_cons, eachGiven_cons,
          h.follows_ends_iff hgroup hlive]
        refine and_congr_right fun hnone => ?_
        exact ih (h.batch hgroup timestamp) hrest (h.notMem_forget hgroup hlive hnone timestamp)

end Remembers

/-- **When batches show no ghosts.**  Every finger goes down, moves, and goes up or is cancelled in
turn.  Then a batch moves or lifts a finger only if an earlier batch pressed it and none lifted it
since.  No batch was cancelled since either, whatever batch one looks at, if and only if no group
that is delivered shows a finger that a cancelled one made the grouping forget; and so it is if no
finger is ever cancelled. -/
theorem ghostFree_iff_unhaunted {inputs : List Input} (hin : Alternates ∅ inputs) :
    EachGiven (Follows Lifts) [] (Grouping.batches {} inputs) ∧
      (GhostFree (Grouping.batches {} inputs) ↔ Unhaunted [] ∅ ∅ (Grouping.groups {} inputs)) ∧
      ((∀ input ∈ inputs, input.isCancel = false) → GhostFree (Grouping.batches {} inputs)) := by
  have hholds : Grouping.Holds {} ∅ ∅ := .fresh [] ∅
  have hgroups := hholds.groundedAll hin
  have hiff := Remembers.empty.eachGiven_iff_unhaunted hgroups nofun
  rw [GhostFree, Grouping.batches_eq]
  exact ⟨Remembers.empty.eachGiven_follows hgroups, hiff, fun hgoing =>
    hiff.mpr (unhaunted_of_going (Grouping.going_of_mem_groups hgoing))⟩

/-- Two fingers go down, and one is cancelled.  The other moves, is cancelled too, and comes back
with a third finger. -/
def forgottenThenCancelled : List Input :=
  [reportOf 1 .started, reportOf 2 .started, .deliver 0, reportOf 1 .cancelled, .deliver 1,
   reportOf 2 .moved, .deliver 2, reportOf 2 .cancelled, .deliver 3, reportOf 2 .started,
   reportOf 3 .started, .deliver 4, reportOf 3 .moved, reportOf 2 .ended, .deliver 5]

theorem ghostFree_iff_unhaunted_forgottenThenCancelled :
    Alternates ∅ forgottenThenCancelled ∧
      (Grouping.batches {} forgottenThenCancelled).map (·.kind)
        = [.began, .cancelled, .cancelled, .began, .updated] ∧
      EachGiven (Follows Lifts) [] (Grouping.batches {} forgottenThenCancelled) ∧
      GhostFree (Grouping.batches {} forgottenThenCancelled) ∧
      Alternates ∅ secondFingerTaps ∧ (∀ input ∈ secondFingerTaps, input.isCancel = false) ∧
      GhostFree (Grouping.batches {} secondFingerTaps) := by
  have hin : Alternates ∅ forgottenThenCancelled := by decide
  have htaps : Alternates ∅ secondFingerTaps := by decide
  have hgoing : ∀ input ∈ secondFingerTaps, input.isCancel = false := by decide
  obtain ⟨hfollows, hiff, -⟩ := ghostFree_iff_unhaunted hin
  exact ⟨hin, by decide, hfollows, hiff.mpr (by decide), htaps, hgoing,
    (ghostFree_iff_unhaunted htaps).2.2 hgoing⟩

/-- Two fingers go down, and one is cancelled.  The other moves as a third goes down. -/
def forgottenFinger : List Input :=
  [reportOf 1 .started, reportOf 2 .started, .deliver 0, reportOf 1 .cancelled, .deliver 1,
   reportOf 3 .started, reportOf 2 .moved, .deliver 2]

/-- **A batch that begins a touch and moves a finger that it did not press**, though each finger goes
down once. -/
theorem forgotten_finger_returns :
    Alternates ∅ forgottenFinger ∧
      ((reported forgottenFinger).filter Deed.isPress).Nodup ∧
      (Grouping.batches {} forgottenFinger).map (fun batch =>
          (batch.kind, batch.points.map fun p => (p.finger, p.state)))
        = [(.began, [(1, .pressed), (2, .pressed)]),
           (.cancelled, [(1, .released), (2, .stationary)]),
           (.began, [(3, .pressed), (2, .updated)])] ∧
      ¬ GhostFree (Grouping.batches {} forgottenFinger) := by
  have hin : Alternates ∅ forgottenFinger := by decide
  have hholds : Grouping.Holds {} ∅ ∅ := .fresh [] ∅
  have hiff := Remembers.empty.eachGiven_iff_unhaunted (hholds.groundedAll hin) nofun
  rw [GhostFree, Grouping.batches_eq]
  exact ⟨hin, by decide, by decide, hiff.not.mpr (by decide)⟩

end ViewInput.Touch
