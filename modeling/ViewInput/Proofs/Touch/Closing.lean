import ViewInput.Proofs.Touch.Fingers

/-!
# A run as a list of groups

Whatever the fingers report, a run of the grouping is **a list of groups, closed one after another**
(`batches_eq`).  What a report adds to a group does not depend on the fingers that are down, and
what a group becomes depends on nothing else: it is dropped (`Drops`), or it becomes one batch
(`close_eq`).

No group lists a finger twice (`nodup_of_mem_groups`), and so no batch does.
-/

namespace ViewInput.Touch

open Device (TouchBatch TouchKind TouchPoint TouchState)
open Slots (fingersOf)

namespace Grouping

variable {live : List TouchPoint} {group : Group}

/-! ## Closing one group -/

/-- A group becomes no batch if it is empty, or if no finger is down and it neither presses one nor
cancels. -/
def Drops (live : List TouchPoint) (group : Group) : Prop :=
  group.points = [] ∨
    live = [] ∧ group.cancelled = false ∧ ∀ p ∈ group.points, p.state ≠ .pressed

instance (live : List TouchPoint) (group : Group) : Decidable (Drops live group) :=
  inferInstanceAs (Decidable (_ ∨ _ ∧ _ ∧ _))

/-- The batch of a group that is not dropped. -/
def batchOf (live : List TouchPoint) (group : Group) (timestamp : Nat) : TouchBatch :=
  let points := group.points ++ carried live group.points
  { kind := batchKind (!live.isEmpty) group.cancelled points
    points := points
    timestamp := timestamp }

/-- The points of the fingers that a batch leaves down. -/
def remaining (batch : TouchBatch) : List TouchPoint :=
  if batch.kind = .cancelled then [] else batch.points.filter fun p => decide (p.state ≠ .released)

@[simp] lemma points_batchOf (live : List TouchPoint) (group : Group) (timestamp : Nat) :
    (batchOf live group timestamp).points = group.points ++ carried live group.points := rfl

lemma batchOf_kind_eq_cancelled_iff (timestamp : Nat) :
    (batchOf live group timestamp).kind = .cancelled ↔ group.cancelled = true := by
  cases hcancelled : group.cancelled with
  | true => simp [batchOf, hcancelled, batchKind]
  | false => simp [batchOf, hcancelled, batchKind_ne_cancelled]

/-- **Closing a group.** -/
lemma close_eq (live : List TouchPoint) (group : Group) (timestamp : Nat) :
    close live group timestamp =
      if Drops live group then (none, live)
      else (some (batchOf live group timestamp), remaining (batchOf live group timestamp)) := by
  have hdrops : Drops live group ↔ group.points.isEmpty = true ∨
      (!(!live.isEmpty) && !group.cancelled
        && !group.points.any fun p => decide (p.state = .pressed)) = true := by
    simp [Drops, List.isEmpty_iff, and_assoc]
  rw [close]
  by_cases hempty : group.points.isEmpty = true
  · rw [if_pos hempty, if_pos (hdrops.mpr (Or.inl hempty))]
  · rw [if_neg hempty]
    by_cases hidle : (!(!live.isEmpty) && !group.cancelled
        && !group.points.any fun p => decide (p.state = .pressed)) = true
    · rw [if_pos hidle, if_pos (hdrops.mpr (Or.inr hidle))]
    · rw [if_neg hidle, if_neg fun h => (hdrops.mp h).elim hempty hidle]
      rfl

lemma nodup_remaining {batch : TouchBatch} (h : (fingersOf batch.points).Nodup) :
    (fingersOf (remaining batch)).Nodup := by
  rw [remaining]
  split
  · exact List.nodup_nil
  · exact h.sublist (List.filter_sublist.map _)

/-- The fingers that a batch leaves down. -/
lemma mem_remaining_iff {batch : TouchBatch} (h : (fingersOf batch.points).Nodup) (f : Int) :
    f ∈ fingersOf (remaining batch) ↔ batch.kind ≠ .cancelled ∧ f ∈ fingersOf batch.points ∧
      stateOf? f batch.points ≠ some .released := by
  rw [remaining]
  split
  · rename_i hkind
    simp [hkind]
  · rename_i hkind
    simp only [fingersOf, List.mem_map, List.mem_filter, decide_eq_true_eq]
    constructor
    · rintro ⟨p, ⟨hp, hstays⟩, rfl⟩
      refine ⟨hkind, ⟨p, hp, rfl⟩, ?_⟩
      rw [(stateOf?_eq_some_iff h).mpr ⟨p, hp, rfl, rfl⟩]
      exact fun hs => hstays (Option.some.inj hs)
    · rintro ⟨-, ⟨p, hp, rfl⟩, hstate⟩
      rw [(stateOf?_eq_some_iff h).mpr ⟨p, hp, rfl, rfl⟩] at hstate
      exact ⟨p, ⟨hp, fun hs => hstate (congrArg some hs)⟩, rfl⟩

/-! ## Closing groups one after another -/

/-- A group with the time of the delivery that closes it. -/
abbrev Dated := Group × Nat

/-- The batches of groups that are closed one after another, each with the fingers that are down
after it. -/
def closeEach : List TouchPoint → List Dated → List (TouchBatch × List TouchPoint)
  | _, [] => []
  | live, (group, timestamp) :: rest =>
    let (batch?, live) := close live group timestamp
    (batch?.map fun batch => (batch, live)).toList ++ closeEach live rest

/-- The fingers that are down after groups are closed. -/
def liveAfter (live : List TouchPoint) (groups : List Dated) : List TouchPoint :=
  groups.foldl (fun live dated => (close live dated.1 dated.2).2) live

/-- The groups that a run delivers. -/
def groups : Grouping → List Input → List Dated
  | _, [] => []
  | g, .report finger phase position pressure :: rest =>
    (g.report finger phase position pressure).groups rest
  | g, .deliver timestamp :: rest =>
    (g.closed ++ [g.pending]).map (fun group => (group, timestamp))
      ++ (g.finish timestamp).1.groups rest

lemma closeEach_of_drops (h : Drops live group) (timestamp : Nat) (rest : List Dated) :
    closeEach live ((group, timestamp) :: rest) = closeEach live rest := by
  rw [closeEach, close_eq, if_pos h]
  rfl

lemma closeEach_of_not_drops (h : ¬ Drops live group) (timestamp : Nat) (rest : List Dated) :
    closeEach live ((group, timestamp) :: rest) =
      (batchOf live group timestamp, remaining (batchOf live group timestamp))
        :: closeEach (remaining (batchOf live group timestamp)) rest := by
  rw [closeEach, close_eq, if_neg h]
  rfl

lemma closeEach_append (live : List TouchPoint) (first second : List Dated) :
    closeEach live (first ++ second)
      = closeEach live first ++ closeEach (liveAfter live first) second := by
  induction first generalizing live with
  | nil => rfl
  | cons dated rest ih => simp [closeEach, liveAfter, ih, List.append_assoc]

lemma closeAll_eq (live : List TouchPoint) (timestamp : Nat) (groups : List Group) :
    closeAll timestamp live groups =
      ((closeEach live (groups.map fun group => (group, timestamp))).map Prod.fst,
        liveAfter live (groups.map fun group => (group, timestamp))) := by
  induction groups generalizing live with
  | nil => rfl
  | cons group rest ih =>
      rw [closeAll, List.map_cons, closeEach, liveAfter, List.foldl_cons, ← liveAfter]
      simp only [ih, List.map_append]
      cases (close live group timestamp).1 <;> rfl

/-- **A run is a list of groups**, closed one after another. -/
theorem batches_eq (g : Grouping) (inputs : List Input) :
    g.batches inputs = (closeEach g.live (g.groups inputs)).map Prod.fst := by
  induction inputs generalizing g with
  | nil => rfl
  | cons input rest ih =>
      cases input with
      | report finger phase position pressure =>
          rw [batches, ih, next, groups, live_report]
          rfl
      | deliver timestamp =>
          rw [batches, next, groups, closeEach_append, List.map_append, ih]
          simp only [finish, closeAll_eq]

/-! ## Every group of a run -/

lemma exists_report_eq (g : Grouping) (finger : Int) (phase : FingerPhase) (position : Point)
    (pressure : Option Float32) :
    ∃ point, g.report finger phase position pressure
          = g.gather point (decide (phase = .cancelled)) ∨
      g.report finger phase position pressure
        = g.split.gather point (decide (phase = .cancelled)) := by
  simp only [report]
  split
  · exact ⟨_, Or.inr rfl⟩
  · exact ⟨_, Or.inl rfl⟩

/-- **What holds of every group of a run**: it holds of the group without reports, and every report
keeps it. -/
theorem forall_mem_groups {P : Group → Prop} (hnew : P {}) {inputs : List Input}
    (hreport : ∀ finger phase position pressure, .report finger phase position pressure ∈ inputs →
      ∀ (group : Group) (point : TouchPoint), P group →
        P (group.extend point (decide (phase = .cancelled))))
    {g : Grouping} (h : ∀ group ∈ g.closed ++ [g.pending], P group) :
    ∀ dated ∈ g.groups inputs, P dated.1 := by
  induction inputs generalizing g with
  | nil => exact nofun
  | cons input rest ih =>
      have hrest := fun finger phase position pressure hmem =>
        hreport finger phase position pressure (List.mem_cons_of_mem input hmem)
      cases input with
      | report finger phase position pressure =>
          have hone := hreport finger phase position pressure List.mem_cons_self
          rw [groups]
          refine ih hrest ?_
          obtain ⟨point, heq | heq⟩ := g.exists_report_eq finger phase position pressure
          · rw [heq]
            intro group hgroup
            rcases List.mem_append.mp hgroup with hgroup | hgroup
            · exact h group (List.mem_append_left _ hgroup)
            · rw [List.mem_singleton.mp hgroup]
              exact hone g.pending point (h g.pending (by simp))
          · rw [heq]
            intro group hgroup
            rcases List.mem_append.mp hgroup with hgroup | hgroup
            · exact h group hgroup
            · rw [List.mem_singleton.mp hgroup]
              exact hone {} point hnew
      | deliver timestamp =>
          intro dated hdated
          rcases List.mem_append.mp hdated with hdated | hdated
          · obtain ⟨group, hgroup, rfl⟩ := List.mem_map.mp hdated
            exact h group hgroup
          · refine ih hrest (fun group hgroup => ?_) dated hdated
            rw [List.mem_singleton.mp hgroup]
            exact hnew

/-- **No group of a run lists a finger twice**, whatever the fingers report. -/
lemma nodup_of_mem_groups (inputs : List Input) :
    ∀ dated ∈ groups {} inputs, (fingersOf dated.1.points).Nodup :=
  forall_mem_groups List.nodup_nil (fun _ _ _ _ _ _ point h => nodup_record h point)
    (by simp)

end Grouping

end ViewInput.Touch
