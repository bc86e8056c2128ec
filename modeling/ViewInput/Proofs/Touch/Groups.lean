import ViewInput.Proofs.Touch.Stream
import ViewInput.Touch.Grouping

/-!
# Groups of reports become batches

What a group says of one finger is the state in which it lists it (`stateOf?`), and a state says
which way the finger goes (`Passes`): it was up and goes down, it was down and goes up, or it stays.
A group **leads** from the fingers down before it to those down after it if it says so of each
finger.

The batch of such a group keeps to the protocol (`Fits`), since the fingers that did not report are
carried along, and its fingers do what the group says (`close_spec`).
-/

namespace ViewInput.Touch

open Device (TouchBatch TouchKind TouchPoint TouchState)
open Slots (fingersOf)

/-! ## The state of a finger -/

/-- The state in which some points list a finger. -/
def stateOf? (finger : Int) (points : List TouchPoint) : Option TouchState :=
  (points.find? fun p => decide (p.finger = finger)).map (·.state)

lemma stateOf?_cons (finger : Int) (p : TouchPoint) (rest : List TouchPoint) :
    stateOf? finger (p :: rest)
      = if p.finger = finger then some p.state else stateOf? finger rest := by
  by_cases h : p.finger = finger <;> simp [stateOf?, h]

lemma stateOf?_append (finger : Int) (first second : List TouchPoint) :
    stateOf? finger (first ++ second) = (stateOf? finger first).or (stateOf? finger second) := by
  simp only [stateOf?, List.find?_append, Option.map_or]

lemma stateOf?_eq_none_iff {finger : Int} {points : List TouchPoint} :
    stateOf? finger points = none ↔ finger ∉ fingersOf points := by
  simp [stateOf?, fingersOf]

lemma stateOf?_eq_some_iff {points : List TouchPoint} (h : (fingersOf points).Nodup)
    {finger : Int} {state : TouchState} :
    stateOf? finger points = some state ↔
      ∃ p ∈ points, p.finger = finger ∧ p.state = state := by
  induction points with
  | nil => simp [stateOf?]
  | cons a rest ih =>
      obtain ⟨ha, hrest⟩ := List.nodup_cons.mp h
      rw [stateOf?_cons]
      by_cases heq : a.finger = finger
      · subst heq
        rw [if_pos rfl, Option.some_inj]
        constructor
        · exact fun hs => ⟨a, List.mem_cons_self, rfl, hs⟩
        · rintro ⟨p, hp, hf, hs⟩
          rcases List.mem_cons.mp hp with rfl | hp
          · exact hs
          · exact absurd (List.mem_map.mpr ⟨p, hp, hf⟩) ha
      · rw [if_neg heq, ih hrest]
        constructor
        · rintro ⟨p, hp, hf⟩
          exact ⟨p, List.mem_cons_of_mem a hp, hf⟩
        · rintro ⟨p, hp, hf, hs⟩
          rcases List.mem_cons.mp hp with rfl | hp
          · exact absurd hf heq
          · exact ⟨p, hp, hf, hs⟩

lemma mem_pointsIn_iff {points : List TouchPoint} (h : (fingersOf points).Nodup) {finger : Int}
    {state : TouchState} :
    finger ∈ fingersOf (pointsIn state points) ↔ stateOf? finger points = some state := by
  rw [stateOf?_eq_some_iff h]
  simp only [fingersOf, pointsIn, List.mem_map, List.mem_filter, decide_eq_true_eq]
  exact exists_congr fun p => by tauto

/-- The state of a finger that reports once more. -/
def recorded (old : Option TouchState) (new : TouchState) : TouchState :=
  if old = some .pressed ∧ new = .updated then .pressed else new

lemma recorded_released (old : Option TouchState) : recorded old .released = .released := by
  simp [recorded]

lemma stateOf?_record (point : TouchPoint) (points : List TouchPoint) (finger : Int) :
    stateOf? finger (record point points) = if finger = point.finger
      then some (recorded (stateOf? finger points) point.state) else stateOf? finger points := by
  induction points with
  | nil => simp [record, stateOf?, recorded, eq_comm]
  | cons p rest ih =>
      unfold record
      split
      · rename_i hp
        rw [stateOf?_cons, stateOf?_cons, apply_ite TouchPoint.finger, ite_self, hp]
        by_cases hf : finger = point.finger
        · subst hf
          simp only [if_true, recorded, Option.some.injEq]
          split <;> rfl
        · rw [if_neg hf, if_neg fun h => hf h.symm, if_neg fun h => hf h.symm]
      · rename_i hp
        rw [stateOf?_cons, stateOf?_cons, ih]
        by_cases hf : finger = point.finger
        · subst hf
          simp [hp]
        · simp [hf]

lemma fingersOf_record (point : TouchPoint) (points : List TouchPoint) :
    fingersOf (record point points) = if point.finger ∈ fingersOf points then fingersOf points
      else fingersOf points ++ [point.finger] := by
  induction points with
  | nil => rfl
  | cons p rest ih =>
      unfold record
      split
      · rename_i hp
        have hmem : point.finger ∈ fingersOf (p :: rest) := by simp [hp]
        rw [if_pos hmem, fingersOf, List.map_cons, apply_ite TouchPoint.finger, ite_self, ← hp]
        rfl
      · rename_i hp
        have hne : point.finger ≠ p.finger := fun h => hp h.symm
        simp only [fingersOf, List.map_cons, List.mem_cons, hne, false_or] at ih ⊢
        rw [ih]
        split <;> rfl

lemma nodup_record {points : List TouchPoint} (h : (fingersOf points).Nodup)
    (point : TouchPoint) : (fingersOf (record point points)).Nodup := by
  rw [fingersOf_record]
  split
  · exact h
  · rename_i hnew
    exact List.nodup_append.mpr ⟨h, List.nodup_singleton _, by
      rintro f hf g hg rfl
      exact hnew (List.mem_singleton.mp hg ▸ hf)⟩

/-! ## Which way a finger goes -/

/-- What the state of a finger says of it, given whether it is down before and after. -/
def Passes : Option TouchState → Prop → Prop → Prop
  | none, before, after => before ↔ after
  | some .pressed, before, after => ¬before ∧ after
  | some .updated, before, after => before ∧ after
  | some .stationary, before, after => before ∧ after
  | some .released, before, after => before ∧ ¬after

/-- **A group leads from the fingers down before it to those down after it.** -/
structure Group.Leads (before : Finset Int) (group : Group) (after : Finset Int) : Prop where
  going : group.cancelled = false
  distinct : (fingersOf group.points).Nodup
  passes : ∀ f, Passes (stateOf? f group.points) (f ∈ before) (f ∈ after)

/-- What a finger does that is listed in a state. -/
def deedsIn (finger : Int) : Option TouchState → List Deed
  | some .pressed => [.press finger]
  | some .released => [.lift finger]
  | _ => []

lemma deedsIn_recorded_updated (finger : Int) {old : Option TouchState}
    (hold : old ≠ some .released) :
    deedsIn finger (some (recorded old .updated)) = deedsIn finger old := by
  cases old with
  | none => rfl
  | some state =>
      cases state with
      | pressed | updated | stationary => rfl
      | released => exact absurd rfl hold

lemma deedsIn_recorded_released (finger : Int) {old : Option TouchState}
    (hpressed : old ≠ some .pressed) (hreleased : old ≠ some .released) :
    deedsIn finger (some (recorded old .released)) = deedsIn finger old ++ [.lift finger] := by
  rw [recorded_released]
  cases old with
  | none => rfl
  | some state =>
      cases state with
      | pressed => exact absurd rfl hpressed
      | updated | stationary => rfl
      | released => exact absurd rfl hreleased

/-- The finger of a deed, if it goes down or up. -/
def Deed.finger? : Deed → Option Int
  | .press finger | .lift finger => some finger
  | .move | .cancel => none

/-- What one finger does. -/
def deedsBy (finger : Int) (deeds : List Deed) : List Deed :=
  deeds.filter fun d => decide (d.finger? = some finger)

lemma deedsBy_append (finger : Int) (first second : List Deed) :
    deedsBy finger (first ++ second) = deedsBy finger first ++ deedsBy finger second :=
  List.filter_append first second

lemma deedsBy_map (finger : Int) (points : List TouchPoint) (h : (fingersOf points).Nodup)
    (deed : Int → Deed) (hdeed : ∀ f, (deed f).finger? = some f) :
    deedsBy finger (points.map fun p => deed p.finger)
      = if finger ∈ fingersOf points then [deed finger] else [] := by
  have hmap : (points.map fun p => deed p.finger) = (fingersOf points).map deed := by
    simp [fingersOf]
  rw [hmap]
  generalize fingersOf points = fingers at h
  simp only [deedsBy, List.filter_map, Function.comp_def, hdeed, Option.some.injEq]
  rw [List.filter_eq, List.map_replicate, h.count]
  split <;> rfl

/-- Deeds that are the same finger by finger are equally many. -/
lemma countP_eq_of_deedsBy {first second : List Deed}
    (h : ∀ f, deedsBy f first = deedsBy f second) {p : Deed → Bool}
    (hp : ∀ d, p d = true → d.finger?.isSome) : first.countP p = second.countP p := by
  have hcount : ∀ d, p d = true → first.count d = second.count d := by
    intro d hd
    obtain ⟨f, hf⟩ := Option.isSome_iff_exists.mp (hp d hd)
    have hcount := congrArg (List.count d) (h f)
    rwa [deedsBy, deedsBy, List.count_filter (by simpa using hf),
      List.count_filter (by simpa using hf)] at hcount
  have hperm : (first.filter p).Perm (second.filter p) := by
    refine List.perm_iff_count.mpr fun d => ?_
    by_cases hd : p d = true
    · rw [List.count_filter hd, List.count_filter hd, hcount d hd]
    · rw [List.count_eq_zero.mpr fun hm => hd (List.mem_filter.mp hm).2,
        List.count_eq_zero.mpr fun hm => hd (List.mem_filter.mp hm).2]
  rw [List.countP_eq_length_filter, List.countP_eq_length_filter, hperm.length_eq]

/-- **The deeds of points**, finger by finger. -/
lemma deedsBy_deedsOf {points : List TouchPoint} (h : (fingersOf points).Nodup) (finger : Int) :
    deedsBy finger (deedsOf points) = deedsIn finger (stateOf? finger points) := by
  have hnodup : ∀ state, (fingersOf (pointsIn state points)).Nodup := fun state =>
    h.sublist (List.filter_sublist.map _)
  have hpress := deedsBy_map finger _ (hnodup .pressed) .press fun _ => rfl
  have hlift := deedsBy_map finger (pointsIn .released points).reverse
    (by simpa [fingersOf] using hnodup .released) .lift fun _ => rfl
  have hmove : deedsBy finger (if points.any fun p => decide (p.state = .updated)
      then [.move] else []) = [] := by
    split <;> rfl
  have hreverse : finger ∈ fingersOf (pointsIn .released points).reverse
      ↔ stateOf? finger points = some .released := by
    rw [fingersOf, List.map_reverse, List.mem_reverse]
    exact mem_pointsIn_iff h
  simp only [mem_pointsIn_iff h] at hpress
  simp only [hreverse] at hlift
  rw [deedsOf, deedsBy_append, deedsBy_append, hpress, hmove, hlift]
  cases hs : stateOf? finger points with
  | none => rfl
  | some state => cases state <;> rfl

/-- What one finger does in a group. -/
def Group.deedsBy (group : Group) (finger : Int) : List Deed :=
  deedsIn finger (stateOf? finger group.points)

/-- Groups that lead one after another. -/
inductive LeadsAll : Finset Int → List Group → Finset Int → Prop
  | nil {before : Finset Int} : LeadsAll before [] before
  | cons {before mid after : Finset Int} {group : Group} {rest : List Group}
      (first : group.Leads before mid) (more : LeadsAll mid rest after) :
      LeadsAll before (group :: rest) after

lemma LeadsAll.concat {before mid after : Finset Int} {groups : List Group} {group : Group}
    (h : LeadsAll before groups mid) (hlast : group.Leads mid after) :
    LeadsAll before (groups ++ [group]) after := by
  induction h with
  | nil => exact .cons hlast .nil
  | cons first _ ih => exact .cons first (ih hlast)

lemma cancel_notMem_deedsOf (points : List TouchPoint) : .cancel ∉ deedsOf points := by
  have hmove : .cancel ∉ if points.any fun p => decide (p.state = .updated)
      then [Deed.move] else [] := by
    split <;> simp
  simp only [deedsOf, List.mem_append, not_or]
  exact ⟨⟨by simp, hmove⟩, by simp⟩

/-! ## From groups to batches -/

/-- **Batches relay what the fingers do** between those that are down before and after. -/
structure Relays (before : Finset Int) (batches : List TouchBatch) (after : Finset Int)
    (deeds : Int → List Deed) : Prop where
  wellFormed : (∀ batch ∈ batches, batch.points.length ≤ maxFingers) → WellFormed before batches
  downAfterAll : downAfterAll before batches = after
  cancel_notMem : .cancel ∉ streamDeeds before batches
  deedsBy : ∀ f, deedsBy f (streamDeeds before batches) = deeds f

lemma Relays.nil (before : Finset Int) : Relays before [] before fun _ => [] :=
  ⟨fun _ => trivial, rfl, List.not_mem_nil, fun _ => rfl⟩

lemma Relays.append {before mid after : Finset Int} {first second : List TouchBatch}
    {deeds further : Int → List Deed} (h : Relays before first mid deeds)
    (h' : Relays mid second after further) :
    Relays before (first ++ second) after fun f => deeds f ++ further f := by
  have hmid := h.downAfterAll
  subst hmid
  refine ⟨fun hfew => (wellFormed_append _ _ _).mpr ⟨h.wellFormed fun batch hb => ?_,
    h'.wellFormed fun batch hb => ?_⟩, ?_, ?_, fun f => ?_⟩
  · exact hfew batch (List.mem_append_left _ hb)
  · exact hfew batch (List.mem_append_right _ hb)
  · rw [downAfterAll_append, h'.downAfterAll]
  · rw [streamDeeds_append, List.mem_append, not_or]
    exact ⟨h.cancel_notMem, h'.cancel_notMem⟩
  · rw [streamDeeds_append, deedsBy_append, h.deedsBy, h'.deedsBy]

/-- Points that list every finger that is down, and say of each which way it goes. -/
structure Lists (before : Finset Int) (points : List TouchPoint) (after : Finset Int) : Prop where
  distinct : (fingersOf points).Nodup
  passes : ∀ f, Passes (stateOf? f points) (f ∈ before) (f ∈ after)
  complete : ∀ f ∈ before, f ∈ fingersOf points

lemma Lists.of_mem {before after : Finset Int} {points : List TouchPoint}
    (h : Lists before points after) {p : TouchPoint} (hp : p ∈ points) :
    Passes (some p.state) (p.finger ∈ before) (p.finger ∈ after) := by
  have hs := (stateOf?_eq_some_iff h.distinct).mpr ⟨p, hp, rfl, rfl⟩
  exact hs ▸ h.passes p.finger

/-- The fingers that stay or come. -/
lemma Lists.mem_after_iff {before after : Finset Int} {points : List TouchPoint}
    (h : Lists before points after) (f : Int) :
    f ∈ fingersOf (points.filter fun p => decide (p.state ≠ .released)) ↔ f ∈ after := by
  simp only [fingersOf, List.mem_map, List.mem_filter, decide_eq_true_eq]
  constructor
  · rintro ⟨p, ⟨hp, hs⟩, rfl⟩
    have hpasses := h.of_mem hp
    cases hstate : p.state with
    | released => exact absurd hstate hs
    | pressed | updated | stationary =>
        rw [hstate] at hpasses
        exact hpasses.2
  · intro hf
    have hpasses := h.passes f
    cases hs : stateOf? f points with
    | none =>
        rw [hs] at hpasses
        exact absurd (h.complete f (hpasses.mpr hf)) (stateOf?_eq_none_iff.mp hs)
    | some state =>
        obtain ⟨p, hp, rfl, rfl⟩ := (stateOf?_eq_some_iff h.distinct).mp hs
        refine ⟨p, ⟨hp, fun hreleased => ?_⟩, rfl⟩
        rw [hs, hreleased] at hpasses
        exact hpasses.2 hf

section Carried

open Grouping (carried batchKind close closeAll)

variable {live points : List TouchPoint} {group : Group} {after : Finset Int}

lemma fingersOf_append (first second : List TouchPoint) :
    fingersOf (first ++ second) = fingersOf first ++ fingersOf second := List.map_append

lemma fingersOf_carried (live points : List TouchPoint) : fingersOf (carried live points)
    = (fingersOf live).filter fun f => decide (f ∉ fingersOf points) := by
  have hany : ∀ f, (!points.any fun p => decide (p.finger = f))
      = decide (f ∉ fingersOf points) := by
    intro f
    rw [Bool.eq_iff_iff]
    simp [fingersOf]
  simp only [fingersOf, carried, List.map_map, List.filter_map, Function.comp_def, hany]

lemma nodup_append_carried (hlive : (fingersOf live).Nodup) (hpoints : (fingersOf points).Nodup) :
    (fingersOf (points ++ carried live points)).Nodup := by
  rw [fingersOf_append, fingersOf_carried]
  refine List.nodup_append.mpr ⟨hpoints, hlive.filter _, ?_⟩
  rintro f hf g hg rfl
  simpa [hf] using (List.mem_filter.mp hg).2

lemma mem_append_carried_iff (f : Int) : f ∈ fingersOf (points ++ carried live points) ↔
    f ∈ fingersOf points ∨ f ∈ fingersOf live := by
  rw [fingersOf_append, fingersOf_carried, List.mem_append, List.mem_filter, decide_eq_true_eq]
  by_cases hnew : f ∈ fingersOf points <;> simp [hnew]

/-- A finger that is carried along adds nothing to what is said of it. -/
lemma stateOf?_carried (hlive : (fingersOf live).Nodup) (finger : Int) :
    stateOf? finger (points ++ carried live points) = (stateOf? finger points).or
      (if finger ∈ fingersOf live ∧ finger ∉ fingersOf points then some .stationary else none) := by
  have hnodup : (fingersOf (carried live points)).Nodup := by
    rw [fingersOf_carried]
    exact hlive.filter _
  have hmem : finger ∈ fingersOf (carried live points)
      ↔ finger ∈ fingersOf live ∧ finger ∉ fingersOf points := by
    simp [fingersOf_carried]
  rw [stateOf?_append]
  congr 1
  split
  · rename_i h
    obtain ⟨p, hp, hf⟩ := List.mem_map.mp (hmem.mpr h)
    refine (stateOf?_eq_some_iff hnodup).mpr ⟨p, hp, hf, ?_⟩
    obtain ⟨q, -, rfl⟩ := List.mem_map.mp hp
    rfl
  · rename_i h
    exact stateOf?_eq_none_iff.mpr fun hf => h (hmem.mp hf)

lemma Group.Leads.lists (h : group.Leads (fingersOf live).toFinset after)
    (hlive : (fingersOf live).Nodup) :
    Lists (fingersOf live).toFinset (group.points ++ carried live group.points) after := by
  refine ⟨nodup_append_carried hlive h.distinct, fun f => ?_,
    fun f hf => (mem_append_carried_iff f).mpr (Or.inr (List.mem_toFinset.mp hf))⟩
  have hpasses := h.passes f
  rw [stateOf?_carried hlive]
  cases hs : stateOf? f group.points with
  | some state =>
      rw [hs] at hpasses
      exact hpasses
  | none =>
      rw [hs] at hpasses
      rw [Option.none_or]
      split
      · rename_i hcarried
        have hbefore := List.mem_toFinset.mpr hcarried.1
        exact ⟨hbefore, hpasses.mp hbefore⟩
      · exact hpasses

lemma batchKind_ne_cancelled (hadLive : Bool) (points : List TouchPoint) :
    batchKind hadLive false points ≠ .cancelled := by
  cases hadLive <;> simp [batchKind]
  split <;> simp

lemma batchKind_eq_began_iff (live points : List TouchPoint) :
    batchKind (!live.isEmpty) false points = .began ↔ live = [] := by
  cases live <;> simp [batchKind]
  split <;> simp

lemma batchKind_eq_ended_iff (live points : List TouchPoint) :
    batchKind (!live.isEmpty) false points = .ended ↔
      live ≠ [] ∧ ∀ p ∈ points, p.state = .released := by
  cases live <;> simp [batchKind]

/-- The batch of points that list every finger keeps to the protocol. -/
lemma Lists.fits (h : Lists (fingersOf live).toFinset points after) (hne : points ≠ [])
    (hfew : points.length ≤ maxFingers) (timestamp : Nat) :
    Fits (fingersOf live).toFinset
      { kind := batchKind (!live.isEmpty) false points, points := points
        timestamp := timestamp } where
  distinct := h.distinct
  few := hfew
  cancelled := fun hkind => absurd hkind (batchKind_ne_cancelled _ _)
  complete := fun _ => h.complete
  pressed := fun _ p hp => by
    have hpasses := h.of_mem hp
    cases hs : p.state with
    | pressed =>
        rw [hs] at hpasses
        simpa using hpasses.1
    | updated | stationary | released =>
        rw [hs] at hpasses
        simpa using hpasses.1
  began := fun _ => by
    rw [batchKind_eq_began_iff, List.toFinset_eq_empty_iff, List.map_eq_nil_iff]
  some := fun _ => hne
  ended := fun _ => by
    rw [batchKind_eq_ended_iff, and_iff_right_iff_imp]
    rintro hall rfl
    -- With no finger down there is none to release.
    obtain ⟨p, hp⟩ := List.exists_mem_of_ne_nil _ hne
    have hpasses := h.of_mem hp
    rw [hall p hp] at hpasses
    simpa using hpasses.1

/-- A group that lists a finger is not dropped: if none is down, then it presses one. -/
lemma Group.Leads.close_eq (h : group.Leads (fingersOf live).toFinset after)
    (hne : group.points ≠ []) (timestamp : Nat) :
    close live group timestamp =
      (some
        { kind := batchKind (!live.isEmpty) false (group.points ++ carried live group.points)
          points := group.points ++ carried live group.points, timestamp := timestamp },
       (group.points ++ carried live group.points).filter
        fun p => decide (p.state ≠ .released)) := by
  have hkept : (!(!live.isEmpty) && !false
      && !group.points.any fun p => decide (p.state = .pressed)) = false := by
    cases live with
    | cons a rest => simp
    | nil =>
        obtain ⟨p, hp⟩ := List.exists_mem_of_ne_nil _ hne
        have hpasses := h.passes p.finger
        rw [(stateOf?_eq_some_iff h.distinct).mpr ⟨p, hp, rfl, rfl⟩] at hpasses
        have hpressed : p.state = .pressed := by
          cases hs : p.state with
          | pressed => rfl
          | updated | stationary | released =>
              rw [hs] at hpasses
              exact absurd hpasses.1 (by simp)
        have hany : (group.points.any fun p => decide (p.state = .pressed)) = true :=
          List.any_eq_true.mpr ⟨p, hp, by simpa using hpressed⟩
        simp [hany]
  have hempty : group.points.isEmpty = false := by simpa using hne
  simp only [close, hempty, h.going, hkept, batchKind_ne_cancelled, Bool.false_eq_true, if_false]

/-- **The batch of a group** relays what the group says.  A group without a batch says nothing. -/
lemma close_spec (hlive : (fingersOf live).Nodup)
    (h : group.Leads (fingersOf live).toFinset after) (timestamp : Nat) :
    ∃ batch? live', close live group timestamp = (batch?, live') ∧ (fingersOf live').Nodup ∧
      (fingersOf live').toFinset = after ∧
      Relays (fingersOf live).toFinset batch?.toList after group.deedsBy := by
  by_cases hnil : group.points = []
  · have hsame : (fingersOf live).toFinset = after := by
      ext f
      have hpasses := h.passes f
      rw [hnil] at hpasses
      exact hpasses
    have hnone : group.deedsBy = fun _ => [] := by
      funext f
      rw [Group.deedsBy, hnil]
      rfl
    rw [hnone, ← hsame]
    exact ⟨none, live, by simp [close, hnil], hlive, rfl, Relays.nil _⟩
  · have hlists := h.lists hlive
    have hkind := batchKind_ne_cancelled (!live.isEmpty) (group.points ++ carried live group.points)
    have hne : group.points ++ carried live group.points ≠ [] := fun heq =>
      hnil (List.append_eq_nil_iff.mp heq).1
    have hafter : (fingersOf ((group.points ++ carried live group.points).filter
        fun p => decide (p.state ≠ .released))).toFinset = after := by
      ext f
      rw [List.mem_toFinset, hlists.mem_after_iff]
    refine ⟨_, _, h.close_eq hnil timestamp, ?_, hafter, ?_, ?_, ?_, ?_⟩
    · exact hlists.distinct.sublist (List.filter_sublist.map _)
    · intro hfew
      exact ⟨hlists.fits hne (hfew _ (List.mem_singleton_self _)) timestamp, trivial⟩
    · simpa [downAfterAll, downAfter, hkind] using hafter
    · simp only [Option.toList_some, streamDeeds, batchDeeds, hkind, if_false, List.append_nil]
      exact cancel_notMem_deedsOf _
    · intro f
      simp only [Option.toList_some, streamDeeds, batchDeeds, hkind, if_false, List.append_nil]
      rw [deedsBy_deedsOf hlists.distinct, stateOf?_carried hlive, Group.deedsBy]
      cases hs : stateOf? f group.points with
      | some state => rfl
      | none =>
          rw [Option.none_or]
          split <;> rfl

lemma closeAll_spec {live : List TouchPoint} {groups : List Group} {after : Finset Int}
    (hlive : (fingersOf live).Nodup) (h : LeadsAll (fingersOf live).toFinset groups after)
    (timestamp : Nat) :
    ∃ batches live', closeAll timestamp live groups = (batches, live') ∧
      (fingersOf live').Nodup ∧ (fingersOf live').toFinset = after ∧
      Relays (fingersOf live).toFinset batches after
        fun f => groups.flatMap fun group => group.deedsBy f := by
  induction groups generalizing live with
  | nil =>
      cases h
      exact ⟨[], live, rfl, hlive, rfl, Relays.nil _⟩
  | cons group rest ih =>
      cases h with
      | cons first more =>
          obtain ⟨batch?, mid, hclose, hmid, hfingers, hfirst⟩ := close_spec hlive first timestamp
          rw [← hfingers] at hfirst more
          obtain ⟨batches, live', hrest, hlive', hafter, hmore⟩ := ih hmid more
          refine ⟨batch?.toList ++ batches, live', ?_, hlive', hafter, hfirst.append hmore⟩
          simp only [closeAll, hclose, hrest]

end Carried

end ViewInput.Touch
