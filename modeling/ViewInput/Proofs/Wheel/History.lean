import Mathlib.Data.List.Nodup
import Mathlib.Data.List.Infix
import ViewInput.Wheel.Flow

/-!
# Runs of the wheel flow

A run is a list of calls, wheel events for frames and acknowledgements of the engine, in any order.
`history` plays it from the start and keeps a log of what went to the engine and what came back.

Lanes do not interfere.  For a frame that is never stale (`NeverStale`), its lane and what is sent
to it change **only by its own events and by acknowledgements of its own events**.  This is
`history_induction`, and everything that holds of one lane by itself follows from it for the whole
flow.  No frame is ever stale if no slot changes hands (`neverStale_of_one_generation`).
-/

namespace ViewInput.Wheel

open Page (EventId Target WheelEvent)

/-! ## Calls and logs -/

/-- One call of the flow. -/
inductive Call where
  | submit (target : Target) (event : WheelEvent)
  | acknowledge (id : EventId)

/-- One line of a log. -/
inductive Entry where
  /-- An event went to the engine. -/
  | routed (target : Target) (event : WheelEvent)
  /-- The engine acknowledged an id. -/
  | acknowledged (id : EventId)
deriving DecidableEq

/-- The event of a line about a frame. -/
def Entry.routed? (target : Target) : Entry → Option WheelEvent
  | .routed t event => if t = target then some event else none
  | .acknowledged _ => none

/-- What went to a frame. -/
def routedTo (target : Target) (log : List Entry) : List WheelEvent :=
  log.filterMap (Entry.routed? target)

/-- The event of a call for a frame. -/
def Call.input? (target : Target) : Call → Option WheelEvent
  | .submit t event => if t = target then some event else none
  | .acknowledge _ => none

/-- The events of a run for a frame. -/
def inputs (target : Target) (calls : List Call) : List WheelEvent :=
  calls.filterMap (Call.input? target)

/-- The event of a call, with its frame. -/
def Call.submitted? : Call → Option Sent
  | .submit t event => some (t, event)
  | .acknowledge _ => none

/-- The ids of all events of a run. -/
def allIds (calls : List Call) : List EventId := (calls.filterMap Call.submitted?).map (·.2.id)

/-- A turn of the wheel that says nothing but its phase. -/
def turn (id : EventId) (phase : Page.WheelPhase) : WheelEvent :=
  { delta := .zero, ticks := .zero, phase := phase, position := .zero, globalPosition := .zero
    id := id, time := id }

/-- The flow with the log of how it came about. -/
structure History where
  flow : Flow := {}
  log : List Entry := []

/-- A history with one call more. -/
def History.next (h : History) : Call → History
  | .submit target event =>
    { flow := (h.flow.submit target event).1
      log := h.log ++ (h.flow.submit target event).2.map fun s => .routed s.1 s.2 }
  | .acknowledge id =>
    { flow := (h.flow.acknowledge id).1
      log := h.log ++ .acknowledged id ::
        (h.flow.acknowledge id).2.1.map fun s => .routed s.1 s.2 }

/-- **The history of a run** from the start. -/
def history (calls : List Call) : History := calls.foldl History.next {}

lemma history_concat (calls : List Call) (call : Call) :
    history (calls ++ [call]) = (history calls).next call := by
  simp [history]

@[simp] lemma inputs_submit (target : Target) (calls : List Call) (event : WheelEvent) :
    inputs target (calls ++ [.submit target event]) = inputs target calls ++ [event] := by
  simp [inputs, Call.input?]

lemma inputs_submit_other {target other : Target} (h : other ≠ target) (calls : List Call)
    (event : WheelEvent) : inputs target (calls ++ [.submit other event]) = inputs target calls := by
  simp [inputs, Call.input?, h]

@[simp] lemma inputs_acknowledge (target : Target) (calls : List Call) (id : EventId) :
    inputs target (calls ++ [.acknowledge id]) = inputs target calls := by
  simp [inputs, Call.input?]

lemma inputs_ids_sublist (target : Target) (calls : List Call) :
    ((inputs target calls).map (·.id)).Sublist (allIds calls) := by
  induction calls with
  | nil => exact .refl _
  | cons call rest ih =>
      cases call with
      | acknowledge id => exact ih
      | submit t event =>
          by_cases ht : t = target
          · simpa [inputs, allIds, Call.input?, Call.submitted?, ht] using ih
          · simpa [inputs, allIds, Call.input?, Call.submitted?, ht] using ih.cons event.id

lemma mem_inputs {target : Target} {calls : List Call} {event : WheelEvent} :
    event ∈ inputs target calls ↔ (target, event) ∈ calls.filterMap Call.submitted? := by
  simp only [inputs, List.mem_filterMap]
  refine exists_congr fun call => and_congr_right fun _ => ?_
  cases call <;> simp [Call.input?, Call.submitted?]

/-- With distinct ids, an id leads to its frame. -/
lemma target_eq_of_id_eq {calls : List Call} (hids : (allIds calls).Nodup) {t t' : Target}
    {e e' : WheelEvent} (h : e ∈ inputs t calls) (h' : e' ∈ inputs t' calls) (hid : e.id = e'.id) :
    t = t' :=
  congrArg Prod.fst (List.inj_on_of_nodup_map hids (mem_inputs.mp h) (mem_inputs.mp h') hid)

lemma routedTo_append (target : Target) (log more : List Entry) :
    routedTo target (log ++ more) = routedTo target log ++ routedTo target more :=
  List.filterMap_append

@[simp] lemma routedTo_nil (target : Target) : routedTo target [] = [] := rfl

@[simp] lemma routedTo_acknowledged (target : Target) (id : EventId) (log : List Entry) :
    routedTo target (.acknowledged id :: log) = routedTo target log := rfl

@[simp] lemma routedTo_map (target : Target) (events : List WheelEvent) :
    routedTo target (events.map (.routed target)) = events := by
  induction events with
  | nil => rfl
  | cons e rest ih => simpa [routedTo, Entry.routed?] using ih

lemma routedTo_other {target other : Target} (h : other ≠ target) (event : WheelEvent) :
    routedTo target [.routed other event] = [] := by
  simp [routedTo, Entry.routed?, h]

/-! ## One lane -/

namespace Lane

/-- A lane with no past. -/
def fresh : Target → Lane
  | .null => { slot := 0, generation := 0 }
  | .frame slot generation => { slot := slot, generation := generation }

lemma send_target (l : Lane) (event : WheelEvent) : (l.send event).target = l.target := by
  unfold send
  split <;> rfl

lemma submit_target (l : Lane) (event : WheelEvent) : (l.submit event).1.target = l.target := by
  unfold submit
  split
  · exact l.send_target event
  · rfl

lemma drain_target (l : Lane) (line : List WheelEvent) : (l.drain line).1.target = l.target := by
  induction line generalizing l with
  | nil => rfl
  | cons event rest ih =>
      unfold drain
      split
      · exact (ih _).trans (l.send_target event)
      · exact l.send_target event

lemma acknowledge?_target {l l' : Lane} {id : EventId} {sent : List WheelEvent}
    (h : l.acknowledge? id = some (l', sent)) : l'.target = l.target := by
  unfold acknowledge? at h
  split at h
  · cases h
    rfl
  · split at h
    · have hdrain := drain_target { l with inFlight := none } l.waiting
      rw [Option.some.inj h] at hdrain
      exact hdrain
    · cases h

lemma slot_eq_of_target_eq {l l' : Lane} (h : l'.target = l.target) : l'.slot = l.slot := by
  simp only [target, Target.frame.injEq] at h
  exact h.1

/-- The ids that a lane keeps, from the oldest event to the latest. -/
def ids (l : Lane) : List EventId :=
  l.lastEnded.toList ++ l.inFlight.toList ++ l.waiting.map (·.id)

/-- A lane in which nothing waits without reason, and which keeps ids **in the order of the events**
that it got. -/
structure Orderly (ins : List WheelEvent) (l : Lane) : Prop where
  idle : l.inFlight = none → l.waiting = []
  sublist : l.ids.Sublist (ins.map (·.id))

lemma orderly_fresh (ins : List WheelEvent) (t : Target) : Orderly ins (fresh t) := by
  cases t <;> exact ⟨fun _ => rfl, List.nil_sublist _⟩

lemma acknowledge?_fresh (t : Target) (id : EventId) : (fresh t).acknowledge? id = none := by
  cases t <;> rfl

lemma enqueue_ids (event : WheelEvent) (line : List WheelEvent) :
    ((enqueue event line).map (·.id)).Sublist (line.map (·.id) ++ [event.id]) := by
  induction line with
  | nil => exact List.Sublist.refl _
  | cons a rest ih =>
      cases rest with
      | nil =>
          unfold enqueue
          split
          · exact List.sublist_append_left [a.id] [event.id]
          · exact List.Sublist.refl _
      | cons b rest => exact ih.cons_cons a.id

/-- A new event has the latest id that the lane keeps. -/
lemma submit_ids {l : Lane} (hidle : l.inFlight = none → l.waiting = []) (event : WheelEvent) :
    ((l.submit event).1.inFlight = none → (l.submit event).1.waiting = []) ∧
      (l.submit event).1.ids.Sublist (l.ids ++ [event.id]) := by
  cases hin : l.inFlight with
  | none =>
      have hwaiting := hidle hin
      refine ⟨fun _ => ?_, ?_⟩
      · simpa [Lane.submit, hin, send, apply_ite Lane.waiting] using hwaiting
      · cases hended : event.isEnded <;> simp [Lane.submit, hin, send, ids, hwaiting, hended]
  | some id =>
      refine ⟨fun hnone => by simp [Lane.submit, hin] at hnone, ?_⟩
      simpa [Lane.submit, hin, ids] using enqueue_ids event l.waiting

lemma drain_orderly {l : Lane} (hidle : l.inFlight = none) (line : List WheelEvent) :
    ((l.drain line).1.inFlight = none → (l.drain line).1.waiting = []) ∧
      (l.drain line).1.ids.Sublist (l.lastEnded.toList ++ line.map (·.id)) := by
  induction line generalizing l with
  | nil => simp [drain, ids, hidle]
  | cons event rest ih =>
      unfold drain
      split
      · rename_i hended
        have hsend : l.send event = { l with lastEnded := some event.id } := by
          simp [send, hended]
        obtain ⟨hstuck, hsub⟩ := ih (l := l.send event) (by simp [hsend, hidle])
        refine ⟨hstuck, hsub.trans ?_⟩
        simp [hsend]
      · rename_i hended
        simp [send, hended, ids]

/-- An acknowledgement takes its id out of the lane. -/
lemma acknowledge?_ids {l l' : Lane} {id : EventId} {sent : List WheelEvent}
    (hidle : l.inFlight = none → l.waiting = []) (hack : l.acknowledge? id = some (l', sent)) :
    (l'.inFlight = none → l'.waiting = []) ∧
      ∃ older newer, l.ids = older ++ id :: newer ∧ l'.ids.Sublist (older ++ newer) := by
  unfold acknowledge? at hack
  split at hack
  · rename_i hended
    cases hack
    exact ⟨hidle, [], l.inFlight.toList ++ l.waiting.map (·.id), by simp [ids, hended],
      by simp [ids]⟩
  · split at hack
    · rename_i hin
      obtain ⟨hstuck, hsub⟩ := drain_orderly (l := { l with inFlight := none }) rfl l.waiting
      rw [Option.some.inj hack] at hstuck hsub
      exact ⟨hstuck, l.lastEnded.toList, l.waiting.map (·.id), by simp [ids, hin], hsub⟩
    · cases hack

lemma Orderly.submit {ins : List WheelEvent} {l : Lane} (h : Orderly ins l) (event : WheelEvent) :
    Orderly (ins ++ [event]) (l.submit event).1 := by
  obtain ⟨hidle, hsub⟩ := submit_ids h.idle event
  exact ⟨hidle, hsub.trans (by simpa using h.sublist)⟩

lemma Orderly.acknowledge {ins : List WheelEvent} {l l' : Lane} {id : EventId}
    {sent : List WheelEvent} (h : Orderly ins l) (hack : l.acknowledge? id = some (l', sent)) :
    Orderly ins l' := by
  obtain ⟨hidle, older, newer, hids, hsub⟩ := acknowledge?_ids h.idle hack
  have hkept := (List.sublist_cons_self id newer).append_left older
  exact ⟨hidle, (hsub.trans (hids ▸ hkept)).trans h.sublist⟩

end Lane

/-! ## All lanes -/

namespace Flow

/-- No slot has two lanes. -/
def Tidy (lanes : List Lane) : Prop := (lanes.map (·.slot)).Nodup

lemma Tidy.eq_of_slot_eq {lanes : List Lane} (h : Tidy lanes) {l l' : Lane} (hl : l ∈ lanes)
    (hl' : l' ∈ lanes) (hs : l.slot = l'.slot) : l = l' :=
  List.inj_on_of_nodup_map h hl hl' hs

/-- A search that only a lane of one slot can answer finds that lane. -/
lemma Tidy.find? {lanes : List Lane} (h : Tidy lanes) {l : Lane} (hl : l ∈ lanes)
    {p : Lane → Bool} (hp : p l = true) (hslot : ∀ l', p l' = true → l'.slot = l.slot) :
    lanes.find? p = some l := by
  cases hfind : lanes.find? p with
  | none => exact absurd hp (List.find?_eq_none.mp hfind l hl)
  | some l' =>
      rw [h.eq_of_slot_eq (List.mem_of_find?_eq_some hfind) hl
        (hslot l' (List.find?_some hfind))]

lemma mem_put {lanes : List Lane} (h : Tidy lanes) (lane l : Lane) :
    l ∈ put lane lanes ↔ l = lane ∨ (l ∈ lanes ∧ l.slot ≠ lane.slot) := by
  induction lanes with
  | nil => simp [put]
  | cons a rest ih =>
      simp only [Tidy, List.map_cons, List.nodup_cons] at h
      unfold put
      split
      · rename_i ha
        have hrest : ∀ l ∈ rest, l.slot ≠ lane.slot := fun l hl hs =>
          h.1 (ha ▸ hs ▸ List.mem_map.mpr ⟨l, hl, rfl⟩)
        simp only [List.mem_cons]
        constructor
        · rintro (rfl | hl)
          · exact Or.inl rfl
          · exact Or.inr ⟨Or.inr hl, hrest l hl⟩
        · rintro (rfl | ⟨rfl | hl, hs⟩)
          · exact Or.inl rfl
          · exact absurd ha hs
          · exact Or.inr hl
      · rename_i ha
        simp only [List.mem_cons, ih h.2]
        constructor
        · rintro (rfl | rfl | ⟨hl, hs⟩)
          · exact Or.inr ⟨Or.inl rfl, ha⟩
          · exact Or.inl rfl
          · exact Or.inr ⟨Or.inr hl, hs⟩
        · rintro (rfl | ⟨rfl | hl, hs⟩)
          · exact Or.inr (Or.inl rfl)
          · exact Or.inl rfl
          · exact Or.inr (Or.inr ⟨hl, hs⟩)

lemma tidy_put {lanes : List Lane} (h : Tidy lanes) (lane : Lane) : Tidy (put lane lanes) := by
  induction lanes with
  | nil => simp [Tidy, put]
  | cons a rest ih =>
      have hrest : Tidy rest := (List.nodup_cons.mp h).2
      unfold put
      split
      · rename_i ha
        simpa [Tidy, ha] using h
      · rename_i ha
        refine List.nodup_cons.mpr ⟨fun hmem => ?_, ih hrest⟩
        obtain ⟨l, hl, hs⟩ := List.mem_map.mp hmem
        rcases (mem_put hrest lane l).mp hl with rfl | ⟨hl, -⟩
        · exact ha hs.symm
        · exact (List.nodup_cons.mp h).1 (List.mem_map.mpr ⟨l, hl, hs⟩)

variable {f : Flow}

lemma lane?_eq_some_iff (h : Tidy f.lanes) {target : Target} {l : Lane} :
    f.lane? target = some l ↔ l ∈ f.lanes ∧ l.target = target := by
  cases target with
  | null => simp [lane?, Lane.target]
  | frame slot generation =>
      simp only [lane?, Lane.target, Target.frame.injEq]
      constructor
      · intro hfind
        exact ⟨List.mem_of_find?_eq_some hfind, by simpa using List.find?_some hfind⟩
      · rintro ⟨hl, hs, hg⟩
        exact h.find? hl (by simp [hs, hg]) fun l' hl' => by
          have := of_decide_eq_true hl'
          rw [this.1, hs]

/-- The lane of a frame, a fresh one if it has none yet. -/
def laneOf (f : Flow) (target : Target) : Lane := (f.lane? target).getD (.fresh target)

lemma laneOf_eq {target : Target} {l : Lane} (h : f.lane? target = some l) :
    f.laneOf target = l := by
  simp [laneOf, h]

lemma isAwaiting_eq (f : Flow) (target : Target) :
    f.isAwaiting target = (f.laneOf target).inFlight.isSome := by
  cases h : f.lane? target with
  | none => cases target <;> simp [isAwaiting, laneOf, h, Lane.fresh]
  | some l => simp [isAwaiting, laneOf, h]

/-- The events for a frame that wait to be sent. -/
def waitingFor (f : Flow) (target : Target) : List WheelEvent :=
  ((f.lane? target).map fun l => l.waiting).getD []

lemma waitingFor_eq (f : Flow) (target : Target) :
    f.waitingFor target = (f.laneOf target).waiting := by
  cases h : f.lane? target with
  | none => cases target <;> simp [waitingFor, laneOf, h, Lane.fresh]
  | some l => simp [waitingFor, laneOf, h]

lemma waitingCount_eq (f : Flow) (target : Target) :
    f.waitingCount target = (f.waitingFor target).length := by
  cases h : f.lane? target <;> simp [waitingCount, waitingFor, h]

/-- The lane that takes an event is that of the frame. -/
lemma laneFor?_eq_some (h : Tidy f.lanes) {target : Target} {l : Lane}
    (hl : f.laneFor? target = some l) : l = f.laneOf target ∧ l.target = target := by
  cases target with
  | null => simp [laneFor?] at hl
  | frame slot generation =>
      simp only [laneFor?] at hl
      split at hl
      · cases hl
      · cases hcur : (f.lanes.find? fun l => decide (l.slot = slot)).filter
            fun l => decide (l.generation = generation) with
        | some lane =>
            rw [hcur] at hl
            cases hl
            obtain ⟨hfind, hg⟩ := Option.filter_eq_some_iff.mp hcur
            have hs : l.slot = slot := by simpa using List.find?_some hfind
            have ht : l.target = .frame slot generation := by
              simpa [Lane.target, hs] using hg
            exact ⟨(laneOf_eq ((lane?_eq_some_iff h).mpr
              ⟨List.mem_of_find?_eq_some hfind, ht⟩)).symm, ht⟩
        | none =>
            rw [hcur] at hl
            cases hl
            refine ⟨?_, rfl⟩
            have hnone : f.lane? (.frame slot generation) = none := by
              refine Option.eq_none_iff_forall_ne_some.mpr fun lane hlane => ?_
              obtain ⟨hmem, ht⟩ := (lane?_eq_some_iff h).mp hlane
              simp only [Lane.target, Target.frame.injEq] at ht
              have hfind : (f.lanes.find? fun l => decide (l.slot = slot)) = some lane :=
                h.find? hmem (by simp [ht.1]) fun l' hl' => by
                  rw [of_decide_eq_true hl', ht.1]
              simp [hfind, Option.filter, ht.2] at hcur
            simp [laneOf, hnone, Lane.fresh]

/-- A frame is not refused if the slot has no lane of another generation. -/
lemma laneFor?_isSome_of_generation {slot generation : Nat}
    (hsame : ∀ l ∈ f.lanes, l.slot = slot → l.generation = generation)
    (hfirst : (∀ l ∈ f.lanes, l.slot ≠ slot) → isEarlier generation 0 = false) :
    (f.laneFor? (.frame slot generation)).isSome := by
  have hcurrent : isEarlier generation (((f.lanes.find? fun l => decide (l.slot = slot)).map
      (·.generation)).getD 0) = false := by
    cases hfind : f.lanes.find? fun l => decide (l.slot = slot) with
    | none => exact hfirst (by simpa using hfind)
    | some l =>
        have hl := hsame l (List.mem_of_find?_eq_some hfind) (by simpa using List.find?_some hfind)
        simp [hl, isEarlier]
  simp only [laneFor?, hcurrent, Bool.false_eq_true, if_false]
  split <;> rfl

/-- A frame that has a lane is not refused. -/
lemma laneFor?_isSome (h : Tidy f.lanes) {target : Target} {l : Lane}
    (hl : f.lane? target = some l) : (f.laneFor? target).isSome := by
  obtain ⟨hmem, rfl⟩ := (lane?_eq_some_iff h).mp hl
  refine laneFor?_isSome_of_generation (fun a ha hs => ?_) fun hnone => absurd rfl (hnone l hmem)
  rw [h.eq_of_slot_eq ha hmem hs]

/-! ### A new event -/

/-- What a new event does: the frame is refused, or its lane takes the event. -/
lemma submit_cases (h : Tidy f.lanes) (target : Target) (event : WheelEvent) :
    (f.laneFor? target = none ∧ f.submit target event = (f, [(target, event)])) ∨
    (((f.laneOf target).submit event).1.target = target ∧
      f.submit target event = ({ lanes := put ((f.laneOf target).submit event).1 f.lanes },
        ((f.laneOf target).submit event).2.map fun e => (target, e))) := by
  cases hlane : f.laneFor? target with
  | none => exact Or.inl ⟨rfl, by simp [submit, hlane]⟩
  | some lane =>
      obtain ⟨rfl, ht⟩ := laneFor?_eq_some h hlane
      exact Or.inr ⟨(Lane.submit_target _ _).trans ht, by simp [submit, hlane]⟩

lemma tidy_submit (h : Tidy f.lanes) (target : Target) (event : WheelEvent) :
    Tidy (f.submit target event).1.lanes := by
  rcases submit_cases h target event with ⟨-, heq⟩ | ⟨-, heq⟩
  · rw [heq]
    exact h
  · rw [heq]
    exact tidy_put h _

/-- An event for a frame that keeps its lane goes through the lane. -/
lemma submit_self (h : Tidy f.lanes) {target : Target} {event : WheelEvent}
    (hkept : ((f.submit target event).1.lane? target).isSome) :
    (f.submit target event).1.laneOf target = ((f.laneOf target).submit event).1 ∧
      (f.submit target event).2 = ((f.laneOf target).submit event).2.map fun e => (target, e) := by
  rcases submit_cases h target event with ⟨hnone, heq⟩ | ⟨ht, heq⟩
  · rw [heq] at hkept
    obtain ⟨l, hl⟩ := Option.isSome_iff_exists.mp hkept
    have hsome := laneFor?_isSome h hl
    simp [hnone] at hsome
  · rw [heq]
    refine ⟨laneOf_eq ((lane?_eq_some_iff (tidy_put h _)).mpr ⟨?_, ht⟩), rfl⟩
    exact (mem_put h _ _).mpr (Or.inl rfl)

/-- A frame that is not refused has its lane afterwards. -/
lemma lane?_submit_self (h : Tidy f.lanes) {target : Target} (event : WheelEvent)
    (hopen : (f.laneFor? target).isSome) : ((f.submit target event).1.lane? target).isSome := by
  rcases submit_cases h target event with ⟨hnone, -⟩ | ⟨ht, heq⟩
  · simp [hnone] at hopen
  · rw [heq]
    exact Option.isSome_iff_exists.mpr
      ⟨_, (lane?_eq_some_iff (tidy_put h _)).mpr ⟨(mem_put h _ _).mpr (Or.inl rfl), ht⟩⟩

/-- A frame keeps its lane in an event for another slot. -/
lemma lane?_submit_of_slot_ne (h : Tidy f.lanes) {slot generation : Nat} (event : WheelEvent)
    {l : Lane} (hl : l ∈ f.lanes) (hslot : l.slot ≠ slot) :
    ((f.submit (.frame slot generation) event).1.lane? l.target).isSome := by
  rcases submit_cases h (.frame slot generation) event with ⟨-, heq⟩ | ⟨ht, heq⟩
  · rw [heq]
    exact Option.isSome_iff_exists.mpr ⟨l, (lane?_eq_some_iff h).mpr ⟨hl, rfl⟩⟩
  · rw [heq]
    simp only [Lane.target, Target.frame.injEq] at ht
    have hkept : l.slot ≠ ((f.laneOf (.frame slot generation)).submit event).1.slot :=
      fun hs => hslot (hs.trans ht.1)
    exact Option.isSome_iff_exists.mpr ⟨l, (lane?_eq_some_iff (tidy_put h _)).mpr
      ⟨(mem_put h _ _).mpr (Or.inr ⟨hl, hkept⟩), rfl⟩⟩

/-- An event for another frame changes nothing for a frame that keeps its lane. -/
lemma submit_other (h : Tidy f.lanes) {target other : Target} (event : WheelEvent)
    (hne : other ≠ target)
    (hkept : (f.lane? target).isSome → ((f.submit other event).1.lane? target).isSome) :
    (f.submit other event).1.lane? target = f.lane? target ∧
      ∀ s ∈ (f.submit other event).2, s.1 ≠ target := by
  rcases submit_cases h other event with ⟨-, heq⟩ | ⟨ht, heq⟩
  · rw [heq]
    exact ⟨rfl, by simp [hne]⟩
  · rw [heq] at hkept ⊢
    refine ⟨?_, by simp [hne]⟩
    have hiff : ∀ l : Lane, Flow.lane? { lanes := put ((f.laneOf other).submit event).1 f.lanes }
        target = some l → f.lane? target = some l := by
      intro l hl
      obtain ⟨hmem, hlt⟩ := (lane?_eq_some_iff (tidy_put h _)).mp hl
      rcases (mem_put h _ l).mp hmem with rfl | ⟨hmem, -⟩
      · exact absurd (ht.symm.trans hlt) hne
      · exact (lane?_eq_some_iff h).mpr ⟨hmem, hlt⟩
    cases hbefore : f.lane? target with
    | none =>
        refine Option.eq_none_iff_forall_ne_some.mpr fun l hl => ?_
        have hl' := hiff l hl
        rw [hbefore] at hl'
        cases hl'
    | some l =>
        obtain ⟨l', hl'⟩ := Option.isSome_iff_exists.mp (hkept (by simp [hbefore]))
        rw [hl', ← hbefore, hiff l' hl']

/-! ### An acknowledgement -/

/-- An acknowledgement goes to the first lane that waits for it, or to none. -/
lemma acknowledgeIn_cases (id : EventId) (lanes : List Lane) :
    (acknowledgeIn id lanes = none ∧ ∀ l ∈ lanes, l.acknowledge? id = none) ∨
    ∃ before l after l' sent, lanes = before ++ l :: after ∧ l.acknowledge? id = some (l', sent) ∧
      acknowledgeIn id lanes
        = some (before ++ l' :: after, sent.map fun e => (l'.target, e)) := by
  induction lanes with
  | nil => exact Or.inl ⟨rfl, by simp⟩
  | cons l rest ih =>
      cases hl : l.acknowledge? id with
      | some result =>
          obtain ⟨l', sent⟩ := result
          exact Or.inr ⟨[], l, rest, l', sent, rfl, hl, by simp [acknowledgeIn, hl]⟩
      | none =>
          rcases ih with ⟨hnone, hall⟩ | ⟨before, a, after, a', sent, rfl, ha, heq⟩
          · exact Or.inl ⟨by simp [acknowledgeIn, hl, hnone], by simpa [hl] using hall⟩
          · exact Or.inr ⟨l :: before, a, after, a', sent, rfl, ha, by
              simp [acknowledgeIn, hl, heq]⟩

/-- What an acknowledgement does to the flow: nothing, or one lane takes it. -/
lemma acknowledge_cases (h : Tidy f.lanes) (id : EventId) :
    (f.acknowledge id = (f, [], false) ∧ ∀ l ∈ f.lanes, l.acknowledge? id = none) ∨
    ∃ l l' sent, l ∈ f.lanes ∧ l.acknowledge? id = some (l', sent) ∧
      (f.acknowledge id).2.1 = (sent.map fun e => (l'.target, e)) ∧
      Tidy (f.acknowledge id).1.lanes ∧
      ∀ a, a ∈ (f.acknowledge id).1.lanes ↔ a = l' ∨ (a ∈ f.lanes ∧ a.slot ≠ l.slot) := by
  rcases acknowledgeIn_cases id f.lanes with ⟨hnone, hall⟩ | ⟨before, l, after, l', sent, hlanes,
    hl, heq⟩
  · exact Or.inl ⟨by simp [acknowledge, hnone], hall⟩
  · have hslot : l'.slot = l.slot := Lane.slot_eq_of_target_eq (Lane.acknowledge?_target hl)
    have hf : f.acknowledge id
        = ({ lanes := before ++ l' :: after }, sent.map fun e => (l'.target, e), true) := by
      simp [acknowledge, heq]
    refine Or.inr ⟨l, l', sent, by simp [hlanes], hl, by rw [hf], ?_, fun a => ?_⟩
    · rw [hf]
      simpa [Tidy, hlanes, hslot] using h
    · have hothers : ∀ a ∈ before ++ after, a.slot ≠ l.slot := by
        have hperm : (before ++ l :: after).Perm (l :: (before ++ after)) := List.perm_middle
        have hnd := (hperm.map (·.slot)).nodup_iff.mp (hlanes ▸ h)
        intro a ha hs
        exact (List.nodup_cons.mp hnd).1 (List.mem_map.mpr ⟨a, ha, hs⟩)
      have hmem : ∀ b : Lane, a ∈ before ++ b :: after ↔ a = b ∨ a ∈ before ++ after := by
        intro b
        simp only [List.mem_append, List.mem_cons]
        tauto
      rw [hf, hlanes]
      simp only [hmem]
      constructor
      · rintro (rfl | ha)
        · exact Or.inl rfl
        · exact Or.inr ⟨Or.inr ha, hothers a ha⟩
      · rintro (rfl | ⟨rfl | ha, hs⟩)
        · exact Or.inl rfl
        · exact absurd rfl hs
        · exact Or.inr ha

lemma tidy_acknowledge (h : Tidy f.lanes) (id : EventId) : Tidy (f.acknowledge id).1.lanes := by
  rcases acknowledge_cases h id with ⟨heq, -⟩ | ⟨l, l', sent, -, -, -, htidy, -⟩
  · rw [heq]
    exact h
  · exact htidy

/-- For one frame, an acknowledgement is taken by its lane, or it changes nothing, and if its lane
could have taken it then that of another frame did. -/
lemma acknowledge_lane (h : Tidy f.lanes) (id : EventId) (target : Target) :
    ((f.acknowledge id).1.lane? target = f.lane? target ∧
      (∀ s ∈ (f.acknowledge id).2.1, s.1 ≠ target) ∧
      ∀ l, f.lane? target = some l → (l.acknowledge? id).isSome →
        ∃ a ∈ f.lanes, a.target ≠ target ∧ (a.acknowledge? id).isSome) ∨
    ∃ l l' sent, f.lane? target = some l ∧ l.acknowledge? id = some (l', sent) ∧
      (f.acknowledge id).1.lane? target = some l' ∧
      (f.acknowledge id).2.1 = sent.map fun e => (target, e) := by
  rcases acknowledge_cases h id with ⟨heq, hnone⟩ | ⟨l, l', sent, hmem, hl, hsent, htidy, hlanes⟩
  · rw [heq]
    refine Or.inl ⟨rfl, by simp, fun l hl hack => ?_⟩
    simp [hnone l ((lane?_eq_some_iff h).mp hl).1] at hack
  · have ht := Lane.acknowledge?_target hl
    by_cases htarget : l.target = target
    · refine Or.inr ⟨l, l', sent, (lane?_eq_some_iff h).mpr ⟨hmem, htarget⟩, hl, ?_, ?_⟩
      · exact (lane?_eq_some_iff htidy).mpr ⟨(hlanes l').mpr (Or.inl rfl), ht.trans htarget⟩
      · rw [hsent, ht, htarget]
    · refine Or.inl ⟨Option.ext fun a => ?_, ?_, fun _ _ _ => ⟨l, hmem, htarget, by simp [hl]⟩⟩
      · rw [lane?_eq_some_iff htidy, lane?_eq_some_iff h, hlanes]
        constructor
        · rintro ⟨rfl | ⟨ha, -⟩, hat⟩
          · exact absurd (ht.symm.trans hat) htarget
          · exact ⟨ha, hat⟩
        · rintro ⟨ha, hat⟩
          refine ⟨Or.inr ⟨ha, fun hs => htarget ?_⟩, hat⟩
          rw [← h.eq_of_slot_eq ha hmem hs]
          exact hat
      · rw [hsent, ht]
        simp [htarget]

end Flow

/-! ## Lanes in a run -/

lemma tidy_history (calls : List Call) : Flow.Tidy (history calls).flow.lanes := by
  induction calls using List.reverseRecOn with
  | nil => exact List.nodup_nil
  | append_singleton calls call ih =>
      rw [history_concat]
      cases call with
      | submit target event => exact Flow.tidy_submit ih target event
      | acknowledge id => exact Flow.tidy_acknowledge ih id

/-- **What holds of every lane in a run.**  A lane starts with an event for its frame, and goes on
with further events for it and with acknowledgements that it takes. -/
theorem lanes_induction {P : List WheelEvent → Lane → Prop}
    (first : ∀ ins t event, P (ins ++ [event]) ((Lane.fresh t).submit event).1)
    (more : ∀ ins l event, P ins l → P (ins ++ [event]) (l.submit event).1)
    (acked : ∀ ins l id l' sent, l.acknowledge? id = some (l', sent) → P ins l → P ins l')
    (calls : List Call) : ∀ l ∈ (history calls).flow.lanes, P (inputs l.target calls) l := by
  induction calls using List.reverseRecOn with
  | nil => exact fun l hl => absurd hl List.not_mem_nil
  | append_singleton calls call ih =>
      have htidy := tidy_history calls
      rw [history_concat]
      intro l hl
      cases call with
      | submit target event =>
          simp only [History.next] at hl
          rcases Flow.submit_cases htidy target event with ⟨hnone, heq⟩ | ⟨ht, heq⟩
          · rw [heq] at hl
            -- A frame that is refused has no lane.
            have hother : target ≠ l.target := fun h => by
              have := Flow.laneFor?_isSome htidy ((Flow.lane?_eq_some_iff htidy).mpr ⟨hl, h.symm⟩)
              simp [hnone] at this
            rw [inputs_submit_other hother]
            exact ih l hl
          · rw [heq] at hl
            rcases (Flow.mem_put htidy _ l).mp hl with rfl | ⟨hl, hslot⟩
            · rw [ht, inputs_submit]
              cases hlane : (history calls).flow.lane? target with
              | none =>
                  rw [Flow.laneOf, hlane]
                  exact first _ _ _
              | some l =>
                  obtain ⟨hmem, rfl⟩ := (Flow.lane?_eq_some_iff htidy).mp hlane
                  rw [Flow.laneOf_eq hlane]
                  exact more _ _ _ (ih l hmem)
            · have hother : target ≠ l.target := fun h =>
                hslot (Lane.slot_eq_of_target_eq (h.symm.trans ht.symm))
              rw [inputs_submit_other hother]
              exact ih l hl
      | acknowledge id =>
          rw [inputs_acknowledge]
          simp only [History.next] at hl
          rcases Flow.acknowledge_cases htidy id with ⟨heq, -⟩ | ⟨a, a', sent, hmem, ha, -, -, hiff⟩
          · rw [heq] at hl
            exact ih l hl
          · rcases (hiff l).mp hl with rfl | ⟨hl, -⟩
            · rw [Lane.acknowledge?_target ha]
              exact acked _ _ _ _ _ ha (ih a hmem)
            · exact ih l hl

lemma lanes_orderly (calls : List Call) : ∀ l ∈ (history calls).flow.lanes,
    inputs l.target calls ≠ [] ∧ l.Orderly (inputs l.target calls) := by
  refine lanes_induction (P := fun ins l => ins ≠ [] ∧ l.Orderly ins) ?_ ?_ ?_ calls
  · exact fun ins t event => ⟨by simp, (Lane.orderly_fresh ins t).submit event⟩
  · exact fun ins l event h => ⟨by simp, h.2.submit event⟩
  · exact fun ins l id l' sent hack h => ⟨h.1, h.2.acknowledge hack⟩

lemma laneOf_orderly (calls : List Call) (t : Target) :
    ((history calls).flow.laneOf t).Orderly (inputs t calls) := by
  cases hlane : (history calls).flow.lane? t with
  | none => simpa [Flow.laneOf, hlane] using Lane.orderly_fresh (inputs t calls) t
  | some l =>
      obtain ⟨hmem, rfl⟩ := (Flow.lane?_eq_some_iff (tidy_history calls)).mp hlane
      rw [Flow.laneOf_eq hlane]
      exact (lanes_orderly calls l hmem).2

/-- A lane takes only acknowledgements of events for its frame. -/
lemma exists_input_of_acknowledge? {calls : List Call} {l : Lane}
    (hl : l ∈ (history calls).flow.lanes) {id : EventId} (hack : (l.acknowledge? id).isSome) :
    ∃ e ∈ inputs l.target calls, e.id = id := by
  obtain ⟨⟨l', sent⟩, hack⟩ := Option.isSome_iff_exists.mp hack
  have horderly := (lanes_orderly calls l hl).2
  obtain ⟨-, older, newer, hids, -⟩ := Lane.acknowledge?_ids horderly.idle hack
  refine List.mem_map.mp (horderly.sublist.subset ?_)
  simp [hids]

/-- **An acknowledgement of one frame's event is not for another frame.**  Lanes may be searched in
any order. -/
lemma acknowledge_own {calls : List Call} (hids : (allIds calls).Nodup) {l l' : Lane}
    (hl : l ∈ (history calls).flow.lanes) (hl' : l' ∈ (history calls).flow.lanes) {id : EventId}
    (hack : (l.acknowledge? id).isSome) (hack' : (l'.acknowledge? id).isSome) :
    l.target = l'.target := by
  obtain ⟨e, he, hid⟩ := exists_input_of_acknowledge? hl hack
  obtain ⟨e', he', hid'⟩ := exists_input_of_acknowledge? hl' hack'
  exact target_eq_of_id_eq hids he he' (hid.trans hid'.symm)

/-- With distinct ids, the lane of a frame does not know an acknowledgement that it did not get. -/
lemma acknowledge?_laneOf {calls : List Call} (hids : (allIds calls).Nodup) {t : Target}
    {id : EventId}
    (hother : ∀ l, (history calls).flow.lane? t = some l → (l.acknowledge? id).isSome →
      ∃ a ∈ (history calls).flow.lanes, a.target ≠ t ∧ (a.acknowledge? id).isSome) :
    ((history calls).flow.laneOf t).acknowledge? id = none := by
  cases hl : (history calls).flow.lane? t with
  | none =>
      rw [Flow.laneOf, hl]
      exact Lane.acknowledge?_fresh t id
  | some l =>
      rw [Flow.laneOf_eq hl]
      by_contra hsome
      have hack : (l.acknowledge? id).isSome := Option.isSome_iff_ne_none.mpr hsome
      obtain ⟨a, ha, hne, hack'⟩ := hother l hl hack
      obtain ⟨hmem, rfl⟩ := (Flow.lane?_eq_some_iff (tidy_history calls)).mp hl
      exact hne (acknowledge_own hids ha hmem hack' hack)

/-! ## Frames that are never stale -/

/-- The frame is never stale in a run: it has its lane from its first event on. -/
def NeverStale (target : Target) (calls : List Call) : Prop :=
  ∀ before ∈ calls.inits, inputs target before ≠ [] →
    ((history before).flow.lane? target).isSome

instance (target : Target) (calls : List Call) : Decidable (NeverStale target calls) :=
  inferInstanceAs (Decidable (∀ before ∈ calls.inits, _))

/-- A lane of a run belongs to a frame that had an event. -/
lemma exists_submitted_of_mem {calls : List Call} {l : Lane}
    (hl : l ∈ (history calls).flow.lanes) :
    ∃ event, (l.target, event) ∈ calls.filterMap Call.submitted? := by
  obtain ⟨event, hevent⟩ := List.exists_mem_of_ne_nil _ (lanes_orderly calls l hl).1
  exact ⟨event, mem_inputs.mp hevent⟩

/-- The frame is of the generation that its slot has. -/
def IsCurrent (generation : Nat → Nat) : Target → Prop
  | .null => False
  | .frame slot own => own = generation slot

instance (generation : Nat → Nat) : DecidablePred (IsCurrent generation)
  | .null => .isFalse id
  | .frame slot own => inferInstanceAs (Decidable (own = generation slot))

lemma IsCurrent.exists_slot {generation : Nat → Nat} {t : Target} (h : IsCurrent generation t) :
    ∃ slot, t = .frame slot (generation slot) := by
  cases t with
  | null => exact h.elim
  | frame slot own => exact ⟨slot, by rw [show own = generation slot from h]⟩

/-- If every slot has one generation throughout, and none that comes before that of a new slot, then
no frame is ever stale. -/
theorem neverStale_of_one_generation (generation : Nat → Nat) {calls : List Call}
    (hone : ∀ s ∈ calls.filterMap Call.submitted?, IsCurrent generation s.1)
    (hlate : ∀ slot, isEarlier (generation slot) 0 = false) (t : Target) :
    NeverStale t calls := by
  intro before hbefore
  replace hbefore := (List.mem_inits _ _).mp hbefore
  induction before using List.reverseRecOn with
  | nil => exact fun h => absurd rfl h
  | append_singleton before call ih =>
      have hpre := (List.prefix_append before [call]).trans hbefore
      have htidy := tidy_history before
      have hgeneration : ∀ l ∈ (history before).flow.lanes, l.generation = generation l.slot := by
        intro l hl
        obtain ⟨event, hevent⟩ := exists_submitted_of_mem hl
        exact hone _ ((hpre.sublist.filterMap _).subset hevent)
      rw [history_concat]
      intro hinputs
      cases call with
      | submit other event =>
          have hmade : (other, event) ∈ calls.filterMap Call.submitted? :=
            List.mem_filterMap.mpr
              ⟨_, hbefore.subset (List.mem_append_right _ List.mem_cons_self), rfl⟩
          obtain ⟨slot, rfl⟩ := (hone _ hmade).exists_slot
          by_cases hother : Target.frame slot (generation slot) = t
          · subst hother
            refine Flow.lane?_submit_self htidy event
              (Flow.laneFor?_isSome_of_generation (fun l hl hs => ?_) fun _ => hlate slot)
            rw [hgeneration l hl, hs]
          · rw [inputs_submit_other hother] at hinputs
            obtain ⟨l, hl⟩ := Option.isSome_iff_exists.mp (ih hpre hinputs)
            obtain ⟨hmem, rfl⟩ := (Flow.lane?_eq_some_iff htidy).mp hl
            refine Flow.lane?_submit_of_slot_ne htidy event hmem fun hs => hother ?_
            rw [Lane.target, hgeneration l hmem, hs]
      | acknowledge id =>
          rw [inputs_acknowledge] at hinputs
          rcases Flow.acknowledge_lane htidy id t with ⟨hlane, -⟩ | ⟨l, l', sent, -, -, hlane, -⟩
          · simp only [History.next, hlane]
            exact ih hpre hinputs
          · simp only [History.next, hlane, Option.isSome_some]

/-- **What holds of a frame that is never stale.**  Its lane and the log come about by its events,
by what goes to other frames, and by acknowledgements that its lane takes or does not know. -/
theorem history_induction {t : Target} {calls : List Call}
    {P : List WheelEvent → List Entry → Lane → Prop}
    (start : P [] [] (.fresh t))
    (submitted : ∀ ins log l event, P ins log l →
      P (ins ++ [event]) (log ++ (l.submit event).2.map (.routed t)) (l.submit event).1)
    (elsewhere : ∀ ins log l other event, other ≠ t → P ins log l →
      P ins (log ++ [.routed other event]) l)
    (unknown : ∀ ins log l id, ((allIds calls).Nodup → l.acknowledge? id = none) → P ins log l →
      P ins (log ++ [.acknowledged id]) l)
    (acknowledged : ∀ ins log l id l' sent, l.acknowledge? id = some (l', sent) → P ins log l →
      P ins (log ++ .acknowledged id :: sent.map (.routed t)) l')
    (hstale : NeverStale t calls) :
    P (inputs t calls) (history calls).log ((history calls).flow.laneOf t) := by
  have others : ∀ ins l (sent : List Sent) log, (∀ s ∈ sent, s.1 ≠ t) → P ins log l →
      P ins (log ++ sent.map fun s => .routed s.1 s.2) l := by
    intro ins l sent
    induction sent with
    | nil => exact fun log _ h => by simpa using h
    | cons s rest ih =>
        intro log hne h
        have hs := elsewhere ins log l s.1 s.2 (hne s (by simp)) h
        simpa using ih _ (fun s hs => hne s (List.mem_cons_of_mem _ hs)) hs
  suffices h : ∀ before, before <+: calls →
      P (inputs t before) (history before).log ((history before).flow.laneOf t) from
    h calls (List.prefix_refl calls)
  intro before hbefore
  induction before using List.reverseRecOn with
  | nil => cases t <;> exact start
  | append_singleton before call ih =>
      have hpre := (List.prefix_append before [call]).trans hbefore
      have hP := ih hpre
      have htidy := tidy_history before
      have hkept := hstale _ ((List.mem_inits _ _).mpr hbefore)
      rw [history_concat] at hkept ⊢
      cases call with
      | submit other event =>
          by_cases hother : other = t
          · subst hother
            obtain ⟨hlane, hsent⟩ := Flow.submit_self htidy (hkept (by simp))
            simp only [History.next, hlane, hsent, inputs_submit, List.map_map]
            exact submitted _ _ _ event hP
          · rw [inputs_submit_other hother] at hkept ⊢
            obtain ⟨hlane, hsent⟩ := Flow.submit_other htidy event hother fun hl => by
              obtain ⟨l, hl⟩ := Option.isSome_iff_exists.mp hl
              obtain ⟨hmem, rfl⟩ := (Flow.lane?_eq_some_iff htidy).mp hl
              exact hkept (lanes_orderly before l hmem).1
            simp only [History.next, Flow.laneOf, hlane]
            exact others _ _ _ _ hsent hP
      | acknowledge id =>
          rw [inputs_acknowledge]
          rcases Flow.acknowledge_lane htidy id t with ⟨hlane, hsent, hother⟩ | ⟨l, l', sent, hl,
            hack, hlane, hsent⟩
          · simp only [History.next, Flow.laneOf, hlane]
            rw [← List.singleton_append, ← List.append_assoc]
            refine others _ _ _ _ hsent (unknown _ _ _ id (fun hids => ?_) hP)
            exact acknowledge?_laneOf (hids.sublist ((hpre.sublist.filterMap _).map _)) hother
          · simp only [History.next, Flow.laneOf_eq hlane, hsent, List.map_map]
            rw [Flow.laneOf_eq hl] at hP
            exact acknowledged _ _ _ id l' sent hack hP

end ViewInput.Wheel
