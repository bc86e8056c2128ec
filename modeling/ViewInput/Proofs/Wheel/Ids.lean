import Mathlib.Data.List.Flatten
import Mathlib.Data.List.Lattice
import Mathlib.Data.List.Perm.Subperm
import ViewInput.Proofs.Wheel.Blocks

/-!
# The ids that the wheel flow keeps

Every lane keeps the ids of the events that it sent and has to wait for, and of those that wait to
be sent.  With every call **the ids of all lanes together lose some and gain at most that of a new
event** (`Flow.Steady.submit`, `Flow.Steady.acknowledge`), however the event is merged, and whatever
lane takes another's place.

So ids that come from one counter are distinct, and an acknowledgement finds the one lane that waits
for it (`Flow.acknowledge_of_awaits`).
-/

namespace ViewInput.Wheel

open Page (EventId Target WheelEvent)

/-- **A lane awaits an acknowledgement**: of the event that is on its way, or of the last that ended
a scroll. -/
def Lane.Awaits (l : Lane) (id : EventId) : Prop := l.lastEnded = some id ∨ l.inFlight = some id

instance (l : Lane) (id : EventId) : Decidable (l.Awaits id) :=
  inferInstanceAs (Decidable (l.lastEnded = some id ∨ l.inFlight = some id))

namespace Lane

variable {l : Lane} {id : EventId}

lemma acknowledge?_eq_none_iff : l.acknowledge? id = none ↔ ¬ l.Awaits id := by
  unfold acknowledge? Awaits
  split
  · simp [*]
  · split <;> simp [*]

lemma ids_fresh (target : Target) : (fresh target).ids = [] := by cases target <;> rfl

lemma Awaits.mem_ids (h : l.Awaits id) : id ∈ l.ids := by
  rcases h with h | h <;> simp [ids, h]

end Lane

namespace Flow

/-- **The ids that a flow keeps.** -/
def ids (f : Flow) : List EventId := f.lanes.flatMap Lane.ids

/-- Lanes of which no two are for one slot, and in which nothing waits without reason. -/
structure Steady (f : Flow) : Prop where
  tidy : Tidy f.lanes
  idle : ∀ l ∈ f.lanes, l.inFlight = none → l.waiting = []

lemma steady_empty : Steady {} := ⟨List.nodup_nil, List.forall_mem_nil _⟩

variable {f : Flow}

/-! ## A new event -/

/-- A lane in the place of another keeps no more ids than that and some new ones, whichever ids of
a lane are counted. -/
lemma ids_put (kept : Lane → List EventId) {lane : Lane} (new : List EventId) (lanes : List Lane)
    (hplace : ∀ l ∈ lanes, l.slot = lane.slot → (kept lane).Subperm (kept l ++ new))
    (hend : (∀ l ∈ lanes, l.slot ≠ lane.slot) → (kept lane).Subperm new) :
    ((put lane lanes).flatMap kept).Subperm (lanes.flatMap kept ++ new) := by
  induction lanes with
  | nil => simpa [put] using hend (List.forall_mem_nil _)
  | cons l rest ih =>
      unfold put
      split
      · rename_i hslot
        have hl := hplace l List.mem_cons_self hslot
        refine ((List.subperm_append_right (rest.flatMap kept)).mpr hl).trans ?_
        simp only [List.flatMap_cons, List.append_assoc]
        exact ((List.subperm_append_left (kept l)).mpr List.perm_append_comm.subperm)
      · rename_i hslot
        have hrest := ih (fun a ha => hplace a (List.mem_cons_of_mem l ha))
          fun hnone => hend (List.forall_mem_cons.mpr ⟨hslot, hnone⟩)
        simp only [List.flatMap_cons, List.append_assoc]
        exact (List.subperm_append_left (kept l)).mpr hrest

/-- The lane that takes an event is that of the frame, or it is new. -/
lemma laneOf_cases (h : Tidy f.lanes) (target : Target) :
    f.laneOf target ∈ f.lanes ∨ f.laneOf target = .fresh target := by
  cases hlane : f.lane? target with
  | none => exact Or.inr (by simp [laneOf, hlane])
  | some l =>
      rw [laneOf_eq hlane]
      exact Or.inl ((lane?_eq_some_iff h).mp hlane).1

lemma Steady.idle_laneOf (h : f.Steady) (target : Target) :
    (f.laneOf target).inFlight = none → (f.laneOf target).waiting = [] := by
  rcases laneOf_cases h.tidy target with hmem | hfresh
  · exact h.idle _ hmem
  · rw [hfresh]
    exact fun _ => by cases target <;> rfl

/-- **A new event** adds no id but its own. -/
lemma Steady.submit (h : f.Steady) (target : Target) (event : WheelEvent) :
    (f.submit target event).1.Steady ∧
      (f.submit target event).1.ids.Subperm (f.ids ++ [event.id]) := by
  rcases submit_cases h.tidy target event with ⟨-, heq⟩ | ⟨-, heq⟩
  · rw [heq]
    exact ⟨h, (List.sublist_append_left _ _).subperm⟩
  · have hslot := Lane.slot_eq_of_target_eq (Lane.submit_target (f.laneOf target) event)
    obtain ⟨hidle, hsub⟩ := Lane.submit_ids (h.idle_laneOf target) event
    rw [heq]
    refine ⟨⟨tidy_put h.tidy _, fun l hl => ?_⟩,
      ids_put Lane.ids [event.id] f.lanes (fun l hl hs => ?_) fun hnone => ?_⟩
    · rcases (mem_put h.tidy _ l).mp hl with rfl | ⟨hl, -⟩
      · exact hidle
      · exact h.idle l hl
    · rcases laneOf_cases h.tidy target with hmem | hfresh
      · rw [h.tidy.eq_of_slot_eq hl hmem (hs.trans hslot)]
        exact hsub.subperm
      · rw [hfresh, Lane.ids_fresh] at hsub
        rw [hfresh]
        exact hsub.subperm.trans (List.sublist_append_right _ _).subperm
    · rcases laneOf_cases h.tidy target with hmem | hfresh
      · exact absurd hslot.symm (hnone _ hmem)
      · rw [hfresh, Lane.ids_fresh] at hsub
        rw [hfresh]
        exact hsub.subperm

/-! ## An acknowledgement -/

/-- An acknowledgement is for no lane, or the first lane that awaits it takes it. -/
lemma acknowledge_split (f : Flow) (id : EventId) :
    ((∀ l ∈ f.lanes, ¬ l.Awaits id) ∧ f.acknowledge id = (f, [], false)) ∨
    ∃ before l after l' sent, f.lanes = before ++ l :: after ∧ l.Awaits id ∧
      l.acknowledge? id = some (l', sent) ∧ f.acknowledge id
        = ({ lanes := before ++ l' :: after }, sent.map fun e => (l.target, e), true) := by
  rcases acknowledgeIn_cases id f.lanes with ⟨heq, hnone⟩ | ⟨before, l, after, l', sent, hlanes, hl,
    heq⟩
  · exact Or.inl ⟨fun l hl => Lane.acknowledge?_eq_none_iff.mp (hnone l hl), by
      simp [Flow.acknowledge, heq]⟩
  · have hawaits : l.Awaits id := by
      by_contra hnot
      simp [Lane.acknowledge?_eq_none_iff.mpr hnot] at hl
    refine Or.inr ⟨before, l, after, l', sent, hlanes, hawaits, hl, ?_⟩
    rw [← Lane.acknowledge?_target hl]
    simp [Flow.acknowledge, heq]

lemma acknowledge_of_not_awaits {id : EventId} (hnone : ∀ l ∈ f.lanes, ¬ l.Awaits id) :
    f.acknowledge id = (f, [], false) := by
  rcases f.acknowledge_split id with ⟨-, heq⟩ | ⟨before, l, after, l', sent, hlanes, hawaits, -⟩
  · exact heq
  · exact absurd hawaits (hnone l (by simp [hlanes]))

/-- An acknowledgement takes its id out of the flow, if a lane awaits it. -/
lemma Steady.acknowledge (h : f.Steady) (id : EventId) :
    ((∀ l ∈ f.lanes, ¬ l.Awaits id) ∧ f.acknowledge id = (f, [], false)) ∨
    (f.acknowledge id).2.2 = true ∧ (f.acknowledge id).1.Steady ∧
      (id :: (f.acknowledge id).1.ids).Subperm f.ids := by
  rcases f.acknowledge_split id with hnone | ⟨before, l, after, l', sent, hlanes, -, hl, heq⟩
  · exact Or.inl hnone
  · have hmem : l ∈ f.lanes := by simp [hlanes]
    obtain ⟨hidle, older, newer, hids, hsub⟩ := Lane.acknowledge?_ids (h.idle l hmem) hl
    have htidy := tidy_acknowledge h.tidy id
    rw [heq] at htidy ⊢
    refine Or.inr ⟨rfl, ⟨htidy, fun a ha => ?_⟩, ?_⟩
    · rcases List.mem_append.mp ha with ha | ha
      · exact h.idle a (by simp [hlanes, ha])
      · rcases List.mem_cons.mp ha with rfl | ha
        · exact hidle
        · exact h.idle a (by simp [hlanes, ha])
    · have hlane : (id :: l'.ids).Subperm l.ids := by
        rw [hids]
        exact ((List.subperm_cons id).mpr hsub.subperm).trans List.perm_middle.symm.subperm
      simp only [ids, hlanes, List.flatMap_append, List.flatMap_cons]
      refine (List.perm_middle.symm.subperm).trans ((List.subperm_append_left _).mpr ?_)
      exact (List.subperm_append_right (after.flatMap Lane.ids)).mpr hlane

/-- With distinct ids, an id leads to its lane. -/
lemma eq_of_mem_ids (hids : f.ids.Nodup) {l l' : Lane} (hl : l ∈ f.lanes) (hl' : l' ∈ f.lanes)
    {id : EventId} (hid : id ∈ l.ids) (hid' : id ∈ l'.ids) : l = l' := by
  by_contra hne
  have hsymm : Std.Symm (Function.onFun List.Disjoint Lane.ids) := ⟨fun _ _ => List.Disjoint.symm⟩
  exact (List.nodup_flatMap.mp hids).2.forall hl hl' hne hid hid'

/-- **An acknowledgement that a lane awaits** is for that lane alone, and sends what waits in it. -/
lemma acknowledge_of_awaits (hids : f.ids.Nodup) {l : Lane} (hl : l ∈ f.lanes) {id : EventId}
    (hawaits : l.Awaits id) : ∃ before after l' sent, f.lanes = before ++ l :: after ∧
      l'.target = l.target ∧ l.waiting = sent ++ l'.waiting ∧
      f.acknowledge id
        = ({ lanes := before ++ l' :: after }, sent.map fun e => (l.target, e), true) := by
  rcases f.acknowledge_split id with ⟨hnone, -⟩ | ⟨before, a, after, a', sent, hlanes, hawaits', ha,
    heq⟩
  · exact absurd hawaits (hnone l hl)
  · have hmem : a ∈ f.lanes := by simp [hlanes]
    obtain rfl := eq_of_mem_ids hids hl hmem hawaits.mem_ids hawaits'.mem_ids
    exact ⟨before, after, a', sent, hlanes, Lane.acknowledge?_target ha,
      (Lane.acknowledge?_append_waiting ha).symm, heq⟩

/-! ## What waits to be sent -/

/-- The ids of the events that wait to be sent. -/
def waitingIds (f : Flow) : List EventId := f.lanes.flatMap fun l => l.waiting.map (·.id)

/-- A new event is sent or waits, and nothing else is new. -/
lemma Steady.submit_waitingIds (h : f.Steady) (target : Target) (event : WheelEvent) :
    ((f.submit target event).2.map (·.2.id) ++ (f.submit target event).1.waitingIds).Subperm
      (f.waitingIds ++ [event.id]) := by
  rcases submit_cases h.tidy target event with ⟨-, heq⟩ | ⟨-, heq⟩
  · rw [heq]
    exact List.perm_append_comm.subperm
  · have hslot := Lane.slot_eq_of_target_eq (Lane.submit_target (f.laneOf target) event)
    rw [heq]
    cases hin : (f.laneOf target).inFlight with
    | none =>
        have hwaiting : ((f.laneOf target).submit event).1.waiting = [] := by
          simpa [Lane.submit, hin, Lane.send, apply_ite Lane.waiting] using h.idle_laneOf target hin
        have hnone : ∀ ids : List EventId,
            (((f.laneOf target).submit event).1.waiting.map (·.id)).Subperm ids := fun ids => by
          rw [hwaiting]
          exact List.nil_subperm
        have hput := ids_put (fun l => l.waiting.map (·.id)) [] f.lanes (fun _ _ _ => hnone _)
          fun _ => hnone []
        rw [List.append_nil] at hput
        simp only [Lane.submit, hin] at hput ⊢
        exact ((List.subperm_append_left [event.id]).mpr hput).trans List.perm_append_comm.subperm
    | some id =>
        have hmem : f.laneOf target ∈ f.lanes := by
          rcases laneOf_cases h.tidy target with hmem | hfresh
          · exact hmem
          · rw [hfresh] at hin
            cases target <;> cases hin
        have hline : ((f.laneOf target).submit event).1.waiting
            = enqueue event (f.laneOf target).waiting := by simp [Lane.submit, hin]
        have hput := ids_put (fun l => l.waiting.map (·.id)) [event.id] f.lanes
          (fun l hl hs => by
            rw [h.tidy.eq_of_slot_eq hl hmem (hs.trans hslot), hline]
            exact (Lane.enqueue_ids event _).subperm)
          fun hnone => absurd hslot.symm (hnone _ hmem)
        simpa [Lane.submit, hin, waitingIds] using hput

/-- What an acknowledgement sends is what waited. -/
lemma acknowledge_waitingIds (f : Flow) (id : EventId) :
    ((f.acknowledge id).2.1.map (·.2.id) ++ (f.acknowledge id).1.waitingIds).Perm f.waitingIds := by
  rcases f.acknowledge_split id with ⟨-, heq⟩ | ⟨before, l, after, l', sent, hlanes, -, hl, heq⟩
  · rw [heq]
    exact List.Perm.refl _
  · have hline := Lane.acknowledge?_append_waiting hl
    rw [heq]
    simp only [waitingIds, hlanes, List.flatMap_append, List.flatMap_cons, List.map_map,
      Function.comp_def, ← hline, List.map_append, List.append_assoc]
    exact List.perm_append_comm_assoc _ _ _

/-! ## A fresh start -/

lemma Steady.reset (h : f.Steady) : f.reset.Steady ∧ f.reset.ids.Subperm f.ids := by
  have hsub : f.reset.lanes.Sublist f.lanes := List.filter_sublist
  exact ⟨⟨h.tidy.sublist (hsub.map _), fun l hl => h.idle l (hsub.subset hl)⟩,
    (hsub.flatMap Lane.ids).subperm⟩

end Flow

end ViewInput.Wheel
