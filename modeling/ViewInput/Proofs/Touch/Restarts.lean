import ViewInput.Proofs.Touch.Contacts

/-!
# Fingers that come back at once

A finger that goes down and up between two deliveries divides what was gathered, so that its press
and its release stand in two batches.  A finger that goes up and down again does not: its point is
set once more, and **the release is lost** (`restart_loses_lift`).

`listed_iff_no_restart` says how much is lost.  Of each finger the batches list what it reported, in
order, every press of it, and every release but one for each time that the finger came back within a
group (`restarts`).
-/

namespace ViewInput.Touch

open Device (TouchBatch TouchPoint TouchState)
open Grouping (Dated Drops batchOf closeEach remaining)
open Slots (fingersOf)

/-! ## What batches list -/

/-- What a point says that its finger does. -/
def pointDeed? (p : TouchPoint) : Option Deed :=
  match p.state with
  | .pressed => some (.press p.finger)
  | .released => some (.lift p.finger)
  | .updated | .stationary => none

/-- The presses and releases that batches list, in order. -/
def listedDeeds (batches : List TouchBatch) : List Deed :=
  (batches.flatMap (·.points)).filterMap pointDeed?

lemma deedsBy_filterMap_pointDeed? {points : List TouchPoint} (h : (fingersOf points).Nodup)
    (finger : Int) :
    deedsBy finger (points.filterMap pointDeed?) = deedsIn finger (stateOf? finger points) := by
  induction points with
  | nil => rfl
  | cons p rest ih =>
      obtain ⟨hp, hrest⟩ := List.nodup_cons.mp h
      have hcons : deedsBy finger ((p :: rest).filterMap pointDeed?)
          = deedsBy finger (pointDeed? p).toList ++ deedsBy finger (rest.filterMap pointDeed?) := by
        rw [← deedsBy_append, List.filterMap_cons]
        cases pointDeed? p <;> rfl
      rw [hcons, ih hrest, stateOf?_cons]
      by_cases hf : p.finger = finger
      · subst hf
        rw [if_pos rfl, stateOf?_eq_none_iff.mpr hp, pointDeed?]
        cases p.state <;> simp [deedsBy, deedsIn, Deed.finger?]
      · rw [if_neg hf, pointDeed?]
        cases p.state <;> simp [deedsBy, Deed.finger?, hf]

/-! ## Groups that nobody cancels -/

section Uncancelled

variable {live : List TouchPoint} {group : Group}

/-- Only an empty group is dropped. -/
lemma drops_iff (h : group.Grounded (fingersOf live).toFinset) :
    Drops live group ↔ group.points = [] := by
  refine ⟨?_, Or.inl⟩
  rintro (hnil | ⟨rfl, -, hnone⟩)
  · exact hnil
  · -- With no finger down there is none to move or lift.
    refine List.eq_nil_iff_forall_not_mem.mpr fun p hp => ?_
    exact absurd (h.mem_down hp (hnone p hp)) (by simp)

/-- The batch of a group leaves down the fingers that are down after the group. -/
lemma fingers_remaining (hlive : (fingersOf live).Nodup)
    (h : group.Grounded (fingersOf live).toFinset) (hgoing : group.cancelled = false)
    (timestamp : Nat) :
    (fingersOf (remaining (batchOf live group timestamp))).toFinset
      = group.after (fingersOf live).toFinset := by
  have hkind : (batchOf live group timestamp).kind ≠ .cancelled := by
    rw [ne_eq, Grouping.batchOf_kind_eq_cancelled_iff, hgoing]
    exact Bool.false_ne_true
  ext f
  rw [List.mem_toFinset, Grouping.mem_remaining_iff (nodup_append_carried hlive h.distinct),
    and_iff_right hkind, Group.mem_after_iff h.distinct, List.mem_toFinset]
  rw [Grouping.points_batchOf, mem_append_carried_iff, stateOf?_carried hlive]
  cases hs : stateOf? f group.points with
  | none =>
      have hnew := stateOf?_eq_none_iff.mp hs
      simp [hnew]
  | some state =>
      have hlisted : f ∈ fingersOf group.points := by
        by_contra hnew
        exact Option.some_ne_none _ (hs.symm.trans (stateOf?_eq_none_iff.mpr hnew))
      have hheld := h.held f state hs
      cases state with
      | pressed | released => simp [hlisted]
      | updated | stationary => simpa [hlisted] using hheld

/-- A batch lists of each finger what its group says. -/
lemma deedsBy_points_batchOf (hlive : (fingersOf live).Nodup)
    (hgroup : (fingersOf group.points).Nodup) (timestamp : Nat) (finger : Int) :
    deedsBy finger ((batchOf live group timestamp).points.filterMap pointDeed?)
      = group.deedsBy finger := by
  rw [Grouping.points_batchOf, deedsBy_filterMap_pointDeed? (nodup_append_carried hlive hgroup),
    stateOf?_carried hlive, Group.deedsBy]
  cases stateOf? finger group.points with
  | some state => rfl
  | none =>
      rw [Option.none_or]
      split <;> rfl

/-- **Batches list what their groups say**, finger by finger. -/
lemma deedsBy_listedDeeds_closeEach {groups : List Dated} (hlive : (fingersOf live).Nodup)
    (h : Group.GroundedAll (fingersOf live).toFinset (groups.map Prod.fst))
    (hgoing : ∀ dated ∈ groups, dated.1.cancelled = false) (finger : Int) :
    deedsBy finger (listedDeeds ((closeEach live groups).map Prod.fst))
      = groups.flatMap fun dated => dated.1.deedsBy finger := by
  induction groups generalizing live with
  | nil => rfl
  | cons dated rest ih =>
      obtain ⟨group, timestamp⟩ := dated
      obtain ⟨hfirst, hrest⟩ := h
      have hgoing' := fun dated hdated => hgoing dated (List.mem_cons_of_mem _ hdated)
      rw [List.flatMap_cons]
      by_cases hdrops : Drops live group
      · have hnil : group.points = [] := (drops_iff hfirst).mp hdrops
        have hsame : group.after (fingersOf live).toFinset = (fingersOf live).toFinset := by
          rw [Group.after, hnil]
          simp [pointsIn]
        have hnone : group.deedsBy finger = [] := by
          rw [Group.deedsBy, hnil]
          rfl
        rw [Grouping.closeEach_of_drops hdrops, hnone, List.nil_append]
        exact ih hlive (hsame ▸ hrest) hgoing'
      · have hbatch := nodup_append_carried hlive hfirst.distinct
        have hremaining := fingers_remaining hlive hfirst (hgoing _ List.mem_cons_self) timestamp
        rw [Grouping.closeEach_of_not_drops hdrops, List.map_cons, listedDeeds, List.flatMap_cons,
          List.filterMap_append, deedsBy_append, deedsBy_points_batchOf hlive hfirst.distinct]
        exact congrArg _ (ih (Grouping.nodup_remaining hbatch) (hremaining ▸ hrest) hgoing')

end Uncancelled

/-! ## What is lost -/

/-- **How often a finger comes back within a group**, given the fingers that the group so far leaves
pressed and released.  A finger that goes up in the group that presses it starts a new group, and so
does a delivery. -/
def restarts (finger : Int) : Finset Int → Finset Int → List Input → Nat
  | _, _, [] => 0
  | pressed, released, .report f .started _ _ :: rest =>
    (if f = finger ∧ f ∈ released then 1 else 0)
      + restarts finger (insert f pressed) (released.erase f) rest
  | pressed, released, .report _ .moved _ _ :: rest => restarts finger pressed released rest
  | pressed, released, .report f .ended _ _ :: rest
  | pressed, released, .report f .cancelled _ _ :: rest =>
    if f ∈ pressed then restarts finger ∅ {f} rest
    else restarts finger pressed (insert f released) rest
  | _, _, .deliver _ :: rest => restarts finger ∅ ∅ rest

/-- **What is listed of what was reported**, when some releases are lost. -/
structure Loses (listed reported : List Deed) (lost : Nat) : Prop where
  sublist : listed.Sublist reported
  presses : listed.countP Deed.isPress = reported.countP Deed.isPress
  lifts : listed.countP Deed.isLift + lost = reported.countP Deed.isLift

namespace Loses

variable {first second third : List Deed} {n m : Nat}

lemma refl (deeds : List Deed) : Loses deeds deeds 0 := ⟨List.Sublist.refl _, rfl, rfl⟩

lemma trans (h : Loses first second n) (h' : Loses second third m) : Loses first third (m + n) where
  sublist := h.sublist.trans h'.sublist
  presses := h.presses.trans h'.presses
  lifts := by
    have hfirst := h.lifts
    have hsecond := h'.lifts
    omega

lemma append_left (h : Loses first second n) (deeds : List Deed) :
    Loses (deeds ++ first) (deeds ++ second) n where
  sublist := h.sublist.append_left deeds
  presses := by rw [List.countP_append, List.countP_append, h.presses]
  lifts := by rw [List.countP_append, List.countP_append, Nat.add_assoc, h.lifts]

lemma append_right (h : Loses first second n) (deeds : List Deed) :
    Loses (first ++ deeds) (second ++ deeds) n where
  sublist := h.sublist.append_right deeds
  presses := by rw [List.countP_append, List.countP_append, h.presses]
  lifts := by
    rw [List.countP_append, List.countP_append, ← h.lifts]
    omega

/-- A finger that comes back has only its press listed. -/
lemma lift_press (finger : Int) : Loses [.press finger] [.lift finger, .press finger] 1 :=
  ⟨List.sublist_cons_self _ _, rfl, rfl⟩

/-- Presses and releases are listed as reported iff none is lost. -/
lemma eq_iff (h : Loses first second n) (hdeeds : ∀ d ∈ second, d.finger?.isSome) :
    first = second ↔ n = 0 := by
  have hlength : ∀ {deeds : List Deed}, (∀ d ∈ deeds, d.finger?.isSome) →
      deeds.length = deeds.countP Deed.isPress + deeds.countP Deed.isLift := by
    intro deeds hdeeds
    rw [List.length_eq_countP_add_countP Deed.isPress]
    congr 1
    refine List.countP_congr fun d hd => ?_
    have hsome := hdeeds d hd
    cases d with
    | press | lift => simp [Deed.isPress, Deed.isLift]
    | move | cancel => cases hsome
  have hlifts := h.lifts
  constructor
  · rintro rfl
    omega
  · rintro rfl
    refine h.sublist.eq_of_length ?_
    rw [hlength hdeeds, hlength fun d hd => hdeeds d (h.sublist.subset hd), h.presses]
    omega

end Loses

namespace Grouping

/-- The fingers that the last group leaves pressed and released. -/
structure Marks (g : Grouping) (pressed released : Finset Int) : Prop where
  pressed : ∀ f, f ∈ pressed ↔ stateOf? f g.pending.points = some .pressed
  released : ∀ f, f ∈ released ↔ stateOf? f g.pending.points = some .released

section Reports

variable {g : Grouping} {start down pressed released : Finset Int} {finger : Int}

lemma marks_fresh (live : List TouchPoint) : Marks { live := live } ∅ ∅ := by
  constructor <;> simp [stateOf?]

lemma Marks.split (g : Grouping) : g.split.Marks ∅ ∅ := by
  constructor <;> simp [stateOf?, Grouping.split]

lemma Marks.add (h : g.Marks pressed released) (point : TouchPoint)
    {pressed' released' : Finset Int}
    (hpressed : ∀ f, f ∈ pressed' ↔ if f = point.finger
      then recorded (stateOf? f g.pending.points) point.state = .pressed else f ∈ pressed)
    (hreleased : ∀ f, f ∈ released' ↔ if f = point.finger
      then recorded (stateOf? f g.pending.points) point.state = .released else f ∈ released) :
    (g.add point).Marks pressed' released' := by
  constructor <;> intro f
  · rw [hpressed, h.pressed, Grouping.add, stateOf?_record]
    split <;> simp
  · rw [hreleased, h.released, Grouping.add, stateOf?_record]
    split <;> simp

/-- A finger that is up was not listed since, or went up. -/
lemma Holds.stateOf?_of_notMem (h : g.Holds start down) (hup : finger ∉ down) :
    stateOf? finger g.pending.points = none ∨
      stateOf? finger g.pending.points = some .released := by
  rw [← h.down_eq, Group.mem_after_iff h.pending.distinct] at hup
  cases hs : stateOf? finger g.pending.points with
  | none => exact Or.inl rfl
  | some state =>
      have hheld := h.pending.held finger state hs
      cases state with
      | released => exact Or.inr rfl
      | pressed => exact absurd (Or.inl hs) hup
      | updated | stationary => exact absurd (Or.inr ⟨hheld nofun, by simp [hs]⟩) hup

lemma Holds.stateOf?_of_mem (h : g.Holds start down) (hdown : finger ∈ down) :
    stateOf? finger g.pending.points ≠ some .released := by
  rw [← h.down_eq, Group.mem_after_iff h.pending.distinct] at hdown
  rcases hdown with hpressed | ⟨-, hstate⟩
  · simp [hpressed]
  · exact hstate

/-- A finger comes back: its release is overwritten by its press. -/
lemma add_loses (g : Grouping) {point : TouchPoint} (hstate : point.state = .pressed)
    (hback : stateOf? point.finger g.pending.points = some .released) (f : Int) :
    Loses ((g.add point).deedsBy f) (g.deedsBy f ++ Touch.deedsBy f [.press point.finger])
      (if point.finger = f then 1 else 0) := by
  have hadd : (g.add point).deedsBy f = (g.closed.flatMap fun group => group.deedsBy f)
      ++ deedsIn f (if f = point.finger then some .pressed else stateOf? f g.pending.points) := by
    simp only [Grouping.deedsBy, Group.deedsBy, Grouping.add, stateOf?_record, hstate, recorded,
      ite_self]
  rw [hadd, Grouping.deedsBy, Group.deedsBy, List.append_assoc]
  refine .append_left ?_ _
  by_cases hf : f = point.finger
  · subst hf
    rw [if_pos rfl, if_pos rfl, hback]
    have hpress : Touch.deedsBy point.finger [.press point.finger] = [.press point.finger] := by
      simp [Touch.deedsBy, Deed.finger?]
    rw [hpress]
    exact .lift_press point.finger
  · have hpress : Touch.deedsBy f [.press point.finger] = [] := by
      simp [Touch.deedsBy, Deed.finger?, Ne.symm hf]
    rw [if_neg hf, if_neg (Ne.symm hf), hpress, List.append_nil]
    exact .refl _

lemma Holds.started_loses (h : g.Holds start down) (hm : g.Marks pressed released)
    (hup : finger ∉ down) (position : Point) (pressure : Option Float32) :
    (g.report finger .started position pressure).Marks (insert finger pressed)
        (released.erase finger) ∧
      ∀ f, Loses ((g.report finger .started position pressure).deedsBy f)
        (g.deedsBy f ++ Touch.deedsBy f [.press finger])
        (if finger = f ∧ finger ∈ released then 1 else 0) := by
  have hold := h.stateOf?_of_notMem hup
  obtain ⟨point, rfl, hstate, heq⟩ :=
    g.report_eq h.pending.distinct finger (by decide : FingerPhase.started ≠ .cancelled) position
      pressure
  rw [if_neg (by simp [FingerPhase.state])] at heq
  rw [heq]
  have hrecorded : ∀ old, recorded old point.state = .pressed := by
    intro old
    rw [hstate, FingerPhase.state, recorded, ite_self]
  refine ⟨hm.add point (fun f => ?_) (fun f => ?_), fun f => ?_⟩
  · simp [hrecorded, or_iff_not_imp_left]
  · simp [hrecorded]
  · rcases hold with hnew | hback
    · have hnot : point.finger ∉ released := by simp [hm.released, hnew]
      rw [if_neg fun hlost => hnot hlost.2, Gathers.deedsBy_add g point [.press point.finger]
        (by simp [Deed.finger?]) (by rw [hrecorded, hnew]; rfl)]
      exact .refl _
    · have hmem : point.finger ∈ released := (hm.released _).mpr hback
      simp only [hmem, and_true]
      exact g.add_loses hstate hback f

lemma Holds.moved_deedsBy (h : g.Holds start down) (hm : g.Marks pressed released)
    (hdown : finger ∈ down) (position : Point) (pressure : Option Float32) :
    (g.report finger .moved position pressure).Marks pressed released ∧
      ∀ f, (g.report finger .moved position pressure).deedsBy f = g.deedsBy f := by
  have hold := h.stateOf?_of_mem hdown
  obtain ⟨point, rfl, hstate, heq⟩ :=
    g.report_eq h.pending.distinct finger (by decide : FingerPhase.moved ≠ .cancelled) position
      pressure
  rw [if_neg (by simp [FingerPhase.state])] at heq
  rw [heq]
  have hrecorded : recorded (stateOf? point.finger g.pending.points) point.state
      = if stateOf? point.finger g.pending.points = some .pressed then .pressed else .updated := by
    rw [hstate, FingerPhase.state, recorded]
    simp only [and_true]
  refine ⟨hm.add point (fun f => ?_) (fun f => ?_), fun f => ?_⟩
  · split
    · rename_i hf
      subst hf
      rw [hrecorded, hm.pressed]
      split <;> simp [*]
    · exact Iff.rfl
  · split
    · rename_i hf
      subst hf
      rw [hrecorded, hm.released]
      split <;> simp [*]
    · exact Iff.rfl
  · refine (Gathers.deedsBy_add g point [] (by simp) ?_ f).trans (List.append_nil _)
    rw [hstate, List.append_nil]
    exact deedsIn_recorded_updated _ hold

/-- A finger goes up that the last group does not press. -/
lemma Holds.add_deedsBy (h : g.Holds start down) (hm : g.Marks pressed released)
    {point : TouchPoint} (hdown : point.finger ∈ down) (hstate : point.state = .released)
    (hnot : stateOf? point.finger g.pending.points ≠ some .pressed) :
    (g.add point).Marks pressed (insert point.finger released) ∧
      ∀ f, (g.add point).deedsBy f = g.deedsBy f ++ Touch.deedsBy f [.lift point.finger] := by
  have hold := h.stateOf?_of_mem hdown
  refine ⟨hm.add point (fun f => ?_) (fun f => ?_), fun f => ?_⟩
  · rw [hstate, recorded_released]
    split
    · rename_i hf
      subst hf
      simp [hm.pressed, hnot]
    · exact Iff.rfl
  · rw [hstate, recorded_released, Finset.mem_insert]
    split
    · rename_i hf
      exact iff_of_true (Or.inl hf) rfl
    · rename_i hf
      exact or_iff_right hf
  · refine Gathers.deedsBy_add g point _ (by simp [Deed.finger?]) ?_ f
    rw [hstate]
    exact deedsIn_recorded_released _ hnot hold

lemma Holds.ended_deedsBy (h : g.Holds start down) (hm : g.Marks pressed released)
    (hdown : finger ∈ down) (hnot : finger ∉ pressed) (position : Point)
    (pressure : Option Float32) :
    (g.report finger .ended position pressure).Marks pressed (insert finger released) ∧
      ∀ f, (g.report finger .ended position pressure).deedsBy f
        = g.deedsBy f ++ Touch.deedsBy f [.lift finger] := by
  rw [hm.pressed] at hnot
  obtain ⟨point, rfl, hstate, heq⟩ :=
    g.report_eq h.pending.distinct finger (by decide : FingerPhase.ended ≠ .cancelled) position
      pressure
  rw [heq, if_neg fun htap => hnot htap.1]
  exact h.add_deedsBy hm hdown hstate hnot

/-- A tap: the group that presses the finger is closed before the finger goes up. -/
lemma Holds.tapped_deedsBy (h : g.Holds start down) (hm : g.Marks pressed released)
    (hdown : finger ∈ down) (hpressed : finger ∈ pressed) (position : Point)
    (pressure : Option Float32) :
    (g.report finger .ended position pressure).Marks ∅ {finger} ∧
      ∀ f, (g.report finger .ended position pressure).deedsBy f
        = g.deedsBy f ++ Touch.deedsBy f [.lift finger] := by
  rw [hm.pressed] at hpressed
  obtain ⟨point, rfl, hstate, heq⟩ :=
    g.report_eq h.pending.distinct finger (by decide : FingerPhase.ended ≠ .cancelled) position
      pressure
  obtain ⟨hmarks, hdeeds⟩ := h.split.add_deedsBy (Marks.split g) hdown hstate nofun
  rw [heq, if_pos ⟨hpressed, rfl⟩]
  exact ⟨hmarks, fun f => by rw [hdeeds, Gathers.deedsBy_split]⟩

end Reports

/-! ## A whole run -/

/-- **The groups of a run that ends with a delivery** say what was gathered before it and what was
reported in it, but for one release each time that the finger comes back within a group. -/
theorem Holds.loses {g : Grouping} {start down pressed released : Finset Int}
    (h : g.Holds start down) (hm : g.Marks pressed released) {inputs : List Input}
    (hin : Alternates down inputs) (hgoing : ∀ input ∈ inputs, input.isCancel = false)
    (hend : ∀ last ∈ inputs.getLast?, last.isDelivery = true) (finger : Int)
    (hidle : inputs = [] → g.deedsBy finger = []) :
    Loses ((g.groups inputs).flatMap fun dated => dated.1.deedsBy finger)
      (g.deedsBy finger ++ Touch.deedsBy finger (reported inputs))
      (restarts finger pressed released inputs) := by
  induction inputs generalizing g start down pressed released with
  | nil =>
      rw [hidle rfl]
      exact .refl []
  | cons input rest ih =>
      have hgoing' := fun input hinput => hgoing input (List.mem_cons_of_mem _ hinput)
      obtain ⟨hlast, hend'⟩ := isDelivery_of_cons hend
      cases input with
      | report f phase position pressure =>
          have hne : rest ≠ [] := fun hnil => Bool.noConfusion (hlast hnil)
          cases phase with
          | started =>
              obtain ⟨hm', hdeeds⟩ := h.started_loses hm hin.1 position pressure
              have hmore := ih (h.started f position pressure) hm' hin.2 hgoing' hend'
                fun hnil => absurd hnil hne
              have hall := hmore.trans ((hdeeds finger).append_right _)
              rw [List.append_assoc, ← deedsBy_append] at hall
              exact hall
          | moved =>
              obtain ⟨hm', hdeeds⟩ := h.moved_deedsBy hm hin.1 position pressure
              have hmore := ih (h.moved hin.1 position pressure) hm' hin.2 hgoing' hend'
                fun hnil => absurd hnil hne
              rw [hdeeds] at hmore
              exact hmore
          | ended =>
              have hnext := h.lifted hin.1 (rfl : FingerPhase.ended.state = .released) position
                pressure
              by_cases hpressed : f ∈ pressed
              · obtain ⟨hm', hdeeds⟩ := h.tapped_deedsBy hm hin.1 hpressed position pressure
                have hmore := ih hnext hm' hin.2 hgoing' hend' fun hnil => absurd hnil hne
                rw [hdeeds, List.append_assoc, ← deedsBy_append] at hmore
                rw [restarts, if_pos hpressed]
                exact hmore
              · obtain ⟨hm', hdeeds⟩ := h.ended_deedsBy hm hin.1 hpressed position pressure
                have hmore := ih hnext hm' hin.2 hgoing' hend' fun hnil => absurd hnil hne
                rw [hdeeds, List.append_assoc, ← deedsBy_append] at hmore
                rw [restarts, if_neg hpressed]
                exact hmore
          | cancelled => exact absurd (hgoing _ List.mem_cons_self) (by simp [Input.isCancel])
      | deliver timestamp =>
          have hmore := ih (.fresh (g.finish timestamp).1.live down) (marks_fresh _) hin hgoing'
            hend' fun _ => rfl
          have hgathered : ((g.closed ++ [g.pending]).map fun group => (group, timestamp)).flatMap
              (fun dated => dated.1.deedsBy finger) = g.deedsBy finger := by
            simp [List.flatMap_map, Grouping.deedsBy]
          rw [groups, List.flatMap_append, hgathered]
          exact hmore.append_left _

end Grouping

/-- **What batches list of a finger** that goes down, moves and goes up in turn, in a run that ends
with a delivery and that nobody cancels.  They list what the finger reported, in order, but for one
release each time that it comes back within a group: all of it if and only if it never does. -/
theorem listed_iff_no_restart {inputs : List Input} (hin : Alternates ∅ inputs)
    (hgoing : ∀ input ∈ inputs, input.isCancel = false)
    (hend : ∀ last ∈ inputs.getLast?, last.isDelivery = true) (finger : Int) :
    Loses (deedsBy finger (listedDeeds (Grouping.batches {} inputs)))
        (deedsBy finger (reported inputs)) (restarts finger ∅ ∅ inputs) ∧
      (deedsBy finger (listedDeeds (Grouping.batches {} inputs)) = deedsBy finger (reported inputs)
        ↔ restarts finger ∅ ∅ inputs = 0) := by
  have hholds : Grouping.Holds {} ∅ ∅ := .fresh [] ∅
  have hnodup : (fingersOf []).Nodup := List.nodup_nil
  have hlisted := deedsBy_listedDeeds_closeEach hnodup (hholds.groundedAll hin)
    (Grouping.going_of_mem_groups hgoing) finger
  have hloses := hholds.loses (Grouping.marks_fresh []) hin hgoing hend finger fun _ => rfl
  rw [← hlisted, ← Grouping.batches_eq {} inputs] at hloses
  refine ⟨hloses, hloses.eq_iff fun d hd => ?_⟩
  exact Option.isSome_of_mem (of_decide_eq_true (List.mem_filter.mp hd).2)

/-- A finger comes back at once, and another time only after a third finger tapped. -/
def hastyFinger : List Input :=
  [reportOf 1 .started, reportOf 2 .started, .deliver 0, reportOf 1 .ended, reportOf 1 .started,
   reportOf 2 .moved, .deliver 1, reportOf 1 .ended, reportOf 2 .ended, reportOf 3 .started,
   reportOf 3 .ended, reportOf 1 .started, .deliver 2]

theorem listed_iff_no_restart_hastyFinger :
    Alternates ∅ hastyFinger ∧ (∀ input ∈ hastyFinger, input.isCancel = false) ∧
      (∀ last ∈ hastyFinger.getLast?, last.isDelivery = true) ∧
      restarts 1 ∅ ∅ hastyFinger = 1 ∧
      deedsBy 1 (reported hastyFinger) = [.press 1, .lift 1, .press 1, .lift 1, .press 1] ∧
      Loses (deedsBy 1 (listedDeeds (Grouping.batches {} hastyFinger)))
        (deedsBy 1 (reported hastyFinger)) 1 ∧
      deedsBy 3 (listedDeeds (Grouping.batches {} hastyFinger)) = [.press 3, .lift 3] := by
  have hin : Alternates ∅ hastyFinger := by decide
  have hgoing : ∀ input ∈ hastyFinger, input.isCancel = false := by decide
  have hend : ∀ last ∈ hastyFinger.getLast?, last.isDelivery = true := by decide
  exact ⟨hin, hgoing, hend, by decide, by decide, (listed_iff_no_restart hin hgoing hend 1).1,
    (listed_iff_no_restart hin hgoing hend 3).2.mpr (by decide)⟩

/-- A finger goes up and down again between two deliveries. -/
def quickReturn : List Input :=
  [reportOf 1 .started, .deliver 0, reportOf 1 .ended, reportOf 1 .started, .deliver 1]

/-- **A release that no batch lists**: the finger is pressed twice without going up between. -/
theorem restart_loses_lift :
    Alternates ∅ quickReturn ∧ (∀ input ∈ quickReturn, input.isCancel = false) ∧
      (∀ last ∈ quickReturn.getLast?, last.isDelivery = true) ∧
      deedsBy 1 (reported quickReturn) = [.press 1, .lift 1, .press 1] ∧
      deedsBy 1 (listedDeeds (Grouping.batches {} quickReturn)) = [.press 1, .press 1] := by
  decide

end ViewInput.Touch
