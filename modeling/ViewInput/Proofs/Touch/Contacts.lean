import ViewInput.Proofs.Touch.Closing

/-!
# Fingers that come and go in turn

A windowing system that keeps to its word reports each finger in turn: it goes down, moves, and goes
up or is cancelled, and then it may go down again (`Alternates`).

**Every group of such a run is grounded**: it moves and lifts only fingers that are down before it
(`Holds.groundedAll`).  It may press a finger that is down before it, namely one that went up and
down again since.
-/

namespace ViewInput.Touch

open Device (TouchPoint TouchState)
open Slots (fingersOf)

def Input.isCancel : Input → Bool
  | .report _ .cancelled _ _ => true
  | _ => false

/-- **Every finger goes down, moves, and goes up or is cancelled in turn**, given the fingers that
are down. -/
def Alternates : Finset Int → List Input → Prop
  | _, [] => True
  | down, .report finger .started _ _ :: rest =>
    finger ∉ down ∧ Alternates (insert finger down) rest
  | down, .report finger .moved _ _ :: rest => finger ∈ down ∧ Alternates down rest
  | down, .report finger .ended _ _ :: rest => finger ∈ down ∧ Alternates (down.erase finger) rest
  | down, .report finger .cancelled _ _ :: rest =>
    finger ∈ down ∧ Alternates (down.erase finger) rest
  | down, .deliver _ :: rest => Alternates down rest

instance : ∀ (down : Finset Int) (inputs : List Input), Decidable (Alternates down inputs)
  | _, [] => .isTrue trivial
  | down, .report finger .started _ _ :: rest =>
    have := instDecidableAlternates (insert finger down) rest
    inferInstanceAs (Decidable (finger ∉ down ∧ Alternates (insert finger down) rest))
  | down, .report finger .moved _ _ :: rest =>
    have := instDecidableAlternates down rest
    inferInstanceAs (Decidable (finger ∈ down ∧ Alternates down rest))
  | down, .report finger .ended _ _ :: rest | down, .report finger .cancelled _ _ :: rest =>
    have := instDecidableAlternates (down.erase finger) rest
    inferInstanceAs (Decidable (finger ∈ down ∧ Alternates (down.erase finger) rest))
  | down, .deliver _ :: rest => instDecidableAlternates down rest

/-! ## One group -/

namespace Group

/-- **A group that moves and lifts only fingers that are down before it.** -/
structure Grounded (down : Finset Int) (group : Group) : Prop where
  distinct : (fingersOf group.points).Nodup
  held : ∀ f state, stateOf? f group.points = some state → state ≠ .pressed → f ∈ down

/-- The fingers that are down after a group. -/
def after (down : Finset Int) (group : Group) : Finset Int :=
  down \ (fingersOf (pointsIn .released group.points)).toFinset
    ∪ (fingersOf (pointsIn .pressed group.points)).toFinset

variable {down : Finset Int} {group : Group}

lemma Grounded.mem_down (h : group.Grounded down) {p : TouchPoint} (hp : p ∈ group.points)
    (hstate : p.state ≠ .pressed) : p.finger ∈ down :=
  h.held _ _ ((stateOf?_eq_some_iff h.distinct).mpr ⟨p, hp, rfl, rfl⟩) hstate

lemma grounded_empty (down : Finset Int) : Grounded down {} := ⟨List.nodup_nil, nofun⟩

lemma after_empty (down : Finset Int) : after down {} = down := by
  simp [after, pointsIn]

lemma mem_after_iff (h : (fingersOf group.points).Nodup) (f : Int) :
    f ∈ group.after down ↔ stateOf? f group.points = some .pressed ∨
      f ∈ down ∧ stateOf? f group.points ≠ some .released := by
  rw [after, Finset.mem_union, Finset.mem_sdiff, List.mem_toFinset, List.mem_toFinset,
    mem_pointsIn_iff h, mem_pointsIn_iff h, or_comm]

/-! ## One more report -/

variable {point : TouchPoint} {cancels : Bool}

lemma stateOf?_extend (group : Group) (point : TouchPoint) (cancels : Bool) (f : Int) :
    stateOf? f (group.extend point cancels).points = if f = point.finger
      then some (recorded (stateOf? f group.points) point.state) else stateOf? f group.points :=
  stateOf?_record point group.points f

/-- A point keeps a group grounded if it presses its finger or finds it down. -/
lemma Grounded.extend (h : group.Grounded down)
    (hpoint : recorded (stateOf? point.finger group.points) point.state = .pressed ∨
      point.finger ∈ down) : (group.extend point cancels).Grounded down where
  distinct := nodup_record h.distinct point
  held := by
    intro f state hstate hne
    rw [stateOf?_extend] at hstate
    split at hstate
    · rename_i hf
      subst hf
      exact hpoint.resolve_left fun hpressed => hne (Option.some.inj hstate ▸ hpressed)
    · exact h.held f state hstate hne

lemma mem_after_extend (h : group.Grounded down) (f : Int) :
    f ∈ (group.extend point cancels).after down ↔ if f = point.finger
      then recorded (stateOf? f group.points) point.state = .pressed ∨
        f ∈ down ∧ recorded (stateOf? f group.points) point.state ≠ .released
      else f ∈ group.after down := by
  rw [mem_after_iff (nodup_record h.distinct point), mem_after_iff h.distinct, stateOf?_extend]
  split <;> simp

/-- A finger goes down. -/
lemma Grounded.started (h : group.Grounded down) (hstate : point.state = .pressed) :
    (group.extend point cancels).Grounded down ∧
      (group.extend point cancels).after down = insert point.finger (group.after down) := by
  have hrecorded : ∀ old, recorded old point.state = .pressed := by
    intro old
    rw [hstate, recorded, ite_self]
  refine ⟨h.extend (Or.inl (hrecorded _)), ?_⟩
  ext f
  rw [mem_after_extend h, Finset.mem_insert]
  split
  · rename_i hf
    simp [hf, hrecorded]
  · rename_i hf
    simp [hf]

/-- A finger moves that is down. -/
lemma Grounded.moved (h : group.Grounded down) (hdown : point.finger ∈ group.after down)
    (hstate : point.state = .updated) :
    (group.extend point cancels).Grounded down ∧
      (group.extend point cancels).after down = group.after down := by
  have hold := (mem_after_iff h.distinct point.finger).mp hdown
  have hpoint : recorded (stateOf? point.finger group.points) point.state = .pressed ∨
      point.finger ∈ down ∧
        recorded (stateOf? point.finger group.points) point.state ≠ .released := by
    rw [hstate, recorded]
    rcases hold with hpressed | ⟨hheld, -⟩
    · exact Or.inl (if_pos ⟨hpressed, rfl⟩)
    · refine Or.inr ⟨hheld, ?_⟩
      split <;> simp
  refine ⟨h.extend (hpoint.imp_right And.left), ?_⟩
  ext f
  rw [mem_after_extend h]
  split
  · rename_i hf
    subst hf
    exact iff_of_true hpoint hdown
  · exact Iff.rfl

/-- A finger goes up that did not come down in this group. -/
lemma Grounded.lifted (h : group.Grounded down) (hdown : point.finger ∈ group.after down)
    (hstate : point.state = .released) (hold : stateOf? point.finger group.points ≠ some .pressed) :
    (group.extend point cancels).Grounded down ∧
      (group.extend point cancels).after down = (group.after down).erase point.finger := by
  have hheld := ((mem_after_iff h.distinct point.finger).mp hdown).resolve_left hold
  refine ⟨h.extend (Or.inr hheld.1), ?_⟩
  ext f
  rw [mem_after_extend h, Finset.mem_erase]
  split
  · rename_i hf
    simp [hf, hstate, recorded_released]
  · rename_i hf
    simp [hf]

/-! ## Groups one after another -/

/-- **Groups that are grounded one after another.** -/
def GroundedAll : Finset Int → List Group → Prop
  | _, [] => True
  | down, group :: rest => group.Grounded down ∧ GroundedAll (group.after down) rest

/-- The fingers that are down after some groups. -/
def afterAll (down : Finset Int) (groups : List Group) : Finset Int := groups.foldl after down

lemma groundedAll_append (down : Finset Int) (first second : List Group) :
    GroundedAll down (first ++ second)
      ↔ GroundedAll down first ∧ GroundedAll (afterAll down first) second := by
  induction first generalizing down with
  | nil => simp [GroundedAll, afterAll]
  | cons group rest ih => simp [GroundedAll, afterAll, ih, and_assoc]

lemma afterAll_concat (down : Finset Int) (groups : List Group) (group : Group) :
    afterAll down (groups ++ [group]) = group.after (afterAll down groups) := by
  rw [afterAll, List.foldl_concat, afterAll]

end Group

/-! ## A whole run -/

namespace Grouping

/-- **What the grouping holds between two inputs**, given the fingers that were down at the last
delivery and those that are down. -/
structure Holds (g : Grouping) (start down : Finset Int) : Prop where
  closed : Group.GroundedAll start g.closed
  pending : g.pending.Grounded (Group.afterAll start g.closed)
  down_eq : g.pending.after (Group.afterAll start g.closed) = down

namespace Holds

variable {g : Grouping} {start down : Finset Int}

/-- Nothing was gathered yet. -/
lemma fresh (live : List TouchPoint) (down : Finset Int) : Holds { live := live } down down :=
  ⟨trivial, Group.grounded_empty down, Group.after_empty down⟩

lemma split (h : g.Holds start down) : g.split.Holds start down := by
  have hafter : Group.afterAll start g.split.closed = down :=
    (Group.afterAll_concat start g.closed g.pending).trans h.down_eq
  refine ⟨(Group.groundedAll_append start g.closed [g.pending]).mpr ⟨h.closed, h.pending, trivial⟩,
    Group.grounded_empty _, ?_⟩
  rw [hafter]
  exact Group.after_empty down

lemma started (h : g.Holds start down) (finger : Int) (position : Point)
    (pressure : Option Float32) :
    (g.report finger .started position pressure).Holds start (insert finger down) := by
  obtain ⟨point, rfl, hstate, heq⟩ :=
    g.report_eq_gather h.pending.distinct finger .started position pressure
  rw [heq, if_neg (by simp [FingerPhase.state])]
  obtain ⟨hgrounded, hafter⟩ := h.pending.started hstate
  exact ⟨h.closed, hgrounded, by rw [← h.down_eq]; exact hafter⟩

lemma moved (h : g.Holds start down) {finger : Int} (hdown : finger ∈ down) (position : Point)
    (pressure : Option Float32) :
    (g.report finger .moved position pressure).Holds start down := by
  obtain ⟨point, rfl, hstate, heq⟩ :=
    g.report_eq_gather h.pending.distinct finger .moved position pressure
  rw [heq, if_neg (by simp [FingerPhase.state])]
  rw [← h.down_eq] at hdown ⊢
  obtain ⟨hgrounded, hafter⟩ := h.pending.moved hdown hstate
  exact ⟨h.closed, hgrounded, hafter⟩

/-- A finger goes up, or is cancelled.  If it came down in the last group, then that is closed
first. -/
lemma lifted (h : g.Holds start down) {finger : Int} (hdown : finger ∈ down) {phase : FingerPhase}
    (hphase : phase.state = .released) (position : Point) (pressure : Option Float32) :
    (g.report finger phase position pressure).Holds start (down.erase finger) := by
  obtain ⟨point, rfl, hstate, heq⟩ :=
    g.report_eq_gather h.pending.distinct finger phase position pressure
  have hlast : ∀ {g : Grouping}, g.Holds start down →
      stateOf? point.finger g.pending.points ≠ some .pressed →
      (g.gather point (decide (phase = .cancelled))).Holds start (down.erase point.finger) := by
    intro g h hold
    rw [← h.down_eq] at hdown ⊢
    obtain ⟨hgrounded, hafter⟩ := h.pending.lifted hdown (hstate.trans hphase) hold
    exact ⟨h.closed, hgrounded, hafter⟩
  rw [heq]
  split
  · exact hlast h.split nofun
  · rename_i hnot
    exact hlast h fun hpressed => hnot ⟨hpressed, hphase⟩

/-- **Every group of a run is grounded.** -/
theorem groundedAll (h : g.Holds start down) {inputs : List Input} (hin : Alternates down inputs) :
    Group.GroundedAll start ((g.groups inputs).map Prod.fst) := by
  induction inputs generalizing g start down with
  | nil => trivial
  | cons input rest ih =>
      cases input with
      | report finger phase position pressure =>
          cases phase with
          | started => exact ih (h.started finger position pressure) hin.2
          | moved => exact ih (h.moved hin.1 position pressure) hin.2
          | ended => exact ih (h.lifted hin.1 rfl position pressure) hin.2
          | cancelled => exact ih (h.lifted hin.1 rfl position pressure) hin.2
      | deliver timestamp =>
          have hgathered : Group.GroundedAll start (g.closed ++ [g.pending]) :=
            (Group.groundedAll_append start g.closed [g.pending]).mpr
              ⟨h.closed, h.pending, trivial⟩
          have hdown : Group.afterAll start (g.closed ++ [g.pending]) = down :=
            (Group.afterAll_concat start g.closed g.pending).trans h.down_eq
          rw [groups, List.map_append, List.map_map, Function.comp_def, List.map_id',
            Group.groundedAll_append, hdown]
          exact ⟨hgathered, ih (.fresh _ down) hin⟩

end Holds

/-- In a run that nobody cancels no group is cancelled. -/
lemma going_of_mem_groups {inputs : List Input}
    (hgoing : ∀ input ∈ inputs, input.isCancel = false) :
    ∀ dated ∈ groups {} inputs, dated.1.cancelled = false := by
  refine forall_mem_groups (P := fun group => group.cancelled = false) rfl ?_ (by simp)
  intro finger phase position pressure hmem group point h
  have hphase : phase ≠ .cancelled := by
    rintro rfl
    exact Bool.noConfusion (hgoing _ hmem)
  simp [Group.extend, h, hphase]

end Grouping

end ViewInput.Touch
