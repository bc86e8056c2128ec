import ViewInput.Proofs.Wheel.Ids

/-!
# Frames by themselves

All frames share one flow, and an acknowledgement is offered to one lane after another until one of
them takes it.  Still a frame sees nothing of the others.

A call concerns a frame if it is an event for it, or the acknowledgement of an event that came for
it.  The lane of the frame meets these calls **as if it were alone** (`Lane.meet`), and all other
calls leave it as it is and send nothing to the frame.  So what a frame sees of a run is what its
lane by itself makes of its share of the calls (`alone_share`), and two runs in which it has the
same share look the same to it (`same_share_same_sights`).
-/

namespace ViewInput.Wheel

open Page (EventId Target WheelEvent)

/-! ## What a frame has to do with -/

/-- Whether a call concerns a frame, after some others: it is an event for the frame, or the
acknowledgement of an event that came for it. -/
def Call.concerns (t : Target) (before : List Call) : Call → Bool
  | .submit other _ => decide (other = t)
  | .acknowledge id => decide (id ∈ (inputs t before).map (·.id))

/-- The calls that concern a frame, each with all those before it. -/
def concerning (t : Target) (before : List Call) : List Call → List (List Call × Call)
  | [] => []
  | call :: rest =>
    if call.concerns t before then (before, call) :: concerning t (before ++ [call]) rest
    else concerning t (before ++ [call]) rest

/-- **The share of a frame** in a run: the calls that concern it. -/
def share (t : Target) (calls : List Call) : List Call := (concerning t [] calls).map Prod.snd

/-- What a call makes of the flow: the flow, what is sent, and whether an acknowledgement was waited
for. -/
def Flow.take (f : Flow) : Call → Flow × List Sent × Bool
  | .submit target event => ((f.submit target event).1, (f.submit target event).2, false)
  | .acknowledge id => f.acknowledge id

/-- The events for a frame among those sent. -/
def eventsFor (t : Target) (sent : List Sent) : List WheelEvent :=
  sent.filterMap fun s => if s.1 = t then some s.2 else none

/-- **What a frame sees of a call**: what is sent to it and whether an acknowledgement was waited
for, and then whether an event is on its way to it, and how many wait. -/
structure Sight where
  sent : List WheelEvent
  recognized : Bool
  awaiting : Bool
  waiting : Nat
deriving DecidableEq

def sight (t : Target) (before : List Call) (call : Call) : Sight :=
  let taken := (history before).flow.take call
  { sent := eventsFor t taken.2.1
    recognized := taken.2.2
    awaiting := taken.1.isAwaiting t
    waiting := taken.1.waitingCount t }

/-- What a frame sees of a run, call by call of its share. -/
def sights (t : Target) (calls : List Call) : List Sight :=
  (concerning t [] calls).map fun moment => sight t moment.1 moment.2

variable {t : Target} {calls : List Call} {call : Call}

lemma concerning_concat (t : Target) (before calls : List Call) (call : Call) :
    concerning t before (calls ++ [call]) = concerning t before calls
      ++ if call.concerns t (before ++ calls) then [(before ++ calls, call)] else [] := by
  induction calls generalizing before with
  | nil =>
      rw [List.append_nil]
      rfl
  | cons first rest ih =>
      have hnext := ih (before ++ [first])
      rw [List.append_assoc, List.singleton_append] at hnext
      simp only [List.cons_append, concerning, hnext]
      split <;> rfl

lemma share_concat (t : Target) (calls : List Call) (call : Call) :
    share t (calls ++ [call])
      = share t calls ++ if call.concerns t calls then [call] else [] := by
  rw [share, concerning_concat, List.nil_append, List.map_append, share]
  split <;> rfl

lemma sights_concat (t : Target) (calls : List Call) (call : Call) :
    sights t (calls ++ [call])
      = sights t calls ++ if call.concerns t calls then [sight t calls call] else [] := by
  rw [sights, concerning_concat, List.nil_append, List.map_append, sights]
  split <;> rfl

@[simp] lemma eventsFor_own (t : Target) (events : List WheelEvent) :
    eventsFor t (events.map fun e => (t, e)) = events := by
  simp [eventsFor, List.filterMap_map]

lemma eventsFor_eq_nil {sent : List Sent} (h : ∀ s ∈ sent, s.1 ≠ t) : eventsFor t sent = [] := by
  simpa [eventsFor, List.filterMap_eq_nil_iff] using h

lemma flow_history_concat (calls : List Call) (call : Call) :
    (history (calls ++ [call])).flow = ((history calls).flow.take call).1 := by
  rw [history_concat]
  cases call <;> rfl

lemma routedTo_history_concat (t : Target) (calls : List Call) (call : Call) :
    routedTo t (history (calls ++ [call])).log = routedTo t (history calls).log
      ++ eventsFor t ((history calls).flow.take call).2.1 := by
  have hsent : ∀ sent : List Sent,
      routedTo t (sent.map fun s => .routed s.1 s.2) = eventsFor t sent := fun sent => by
    rw [routedTo, List.filterMap_map]
    rfl
  rw [history_concat]
  cases call with
  | submit target event => exact (routedTo_append t _ _).trans (congrArg _ (hsent _))
  | acknowledge id => exact (routedTo_append t _ _).trans (congrArg _ (hsent _))

/-! ## A lane alone -/

/-- **A lane alone** meets a call that concerns its frame. -/
def Lane.meet (l : Lane) : Call → Lane × List WheelEvent × Bool
  | .submit _ event => ((l.submit event).1, (l.submit event).2, false)
  | .acknowledge id =>
    match l.acknowledge? id with
    | some (l', sent) => (l', sent, true)
    | none => (l, [], false)

/-- What a frame would see of a call if it were alone. -/
def Lane.sight (l : Lane) (call : Call) : Sight :=
  { sent := (l.meet call).2.1
    recognized := (l.meet call).2.2
    awaiting := (l.meet call).1.inFlight.isSome
    waiting := (l.meet call).1.waiting.length }

/-- A lane with all that its frame saw. -/
structure Alone where
  lane : Lane
  seen : List Sight := []

def Alone.next (a : Alone) (call : Call) : Alone :=
  { lane := (a.lane.meet call).1
    seen := a.seen ++ [a.lane.sight call] }

/-- The lane of a frame after some calls that concern it, if it were alone. -/
def alone (t : Target) (calls : List Call) : Alone :=
  calls.foldl Alone.next { lane := .fresh t }

lemma alone_concat (t : Target) (calls : List Call) (call : Call) :
    alone t (calls ++ [call]) = (alone t calls).next call := by
  simp [alone]

/-! ## One call -/

/-- A lane takes only acknowledgements that concern its frame. -/
lemma concerns_of_acknowledge? {l : Lane} (hl : l ∈ (history calls).flow.lanes) {id : EventId}
    (hack : (l.acknowledge? id).isSome) :
    (Call.acknowledge id).concerns l.target calls = true :=
  decide_eq_true (List.mem_map.mpr (exists_input_of_acknowledge? hl hack))

/-- An acknowledgement that comes before any event that it could be for is recognized by nobody. -/
lemma not_recognized_of_unmade {id : EventId} (hid : id ∉ allIds calls) :
    ((history calls).flow.acknowledge id).2.2 = false := by
  rcases (history calls).flow.acknowledge_split id with ⟨-, heq⟩ | ⟨first, l, last, l', sent,
    hlanes, -, hl, -⟩
  · rw [heq]
  · have hmem : l ∈ (history calls).flow.lanes := by simp [hlanes]
    have htaken : (l.acknowledge? id).isSome := by simp [hl]
    obtain ⟨e, he, rfl⟩ := exists_input_of_acknowledge? hmem htaken
    exact absurd ((inputs_ids_sublist l.target calls).subset (List.mem_map.mpr ⟨e, he, rfl⟩)) hid

/-- With distinct ids, an acknowledgement that concerns a frame is for no other. -/
lemma target_eq_of_concerns (hids : (allIds calls).Nodup) {l : Lane}
    (hl : l ∈ (history calls).flow.lanes) {id : EventId} (hack : (l.acknowledge? id).isSome)
    (hown : (Call.acknowledge id).concerns t calls = true) : l.target = t := by
  obtain ⟨e, he, hid⟩ := exists_input_of_acknowledge? hl hack
  obtain ⟨e', he', hid'⟩ := List.mem_map.mp (of_decide_eq_true hown)
  exact target_eq_of_id_eq hids he he' (hid.trans hid'.symm)

/-- The lane of a frame after a call, and what the call sends to the frame and answers. -/
structure Meets (t : Target) (calls : List Call) (call : Call) (met : Lane × List WheelEvent × Bool) :
    Prop where
  lane : ((history calls).flow.take call).1.laneOf t = met.1
  sent : eventsFor t ((history calls).flow.take call).2.1 = met.2.1
  recognized : ((history calls).flow.take call).2.2 = met.2.2

lemma Meets.sight_eq (h : Meets t calls call (((history calls).flow.laneOf t).meet call)) :
    sight t calls call = ((history calls).flow.laneOf t).sight call := by
  rw [sight, Flow.isAwaiting_eq, Flow.waitingCount_eq, Flow.waitingFor_eq, h.lane, h.sent,
    h.recognized]
  rfl

/-- **A call that concerns a frame** is met by its lane as if that were alone. -/
lemma meets_of_concerns (hids : (allIds calls).Nodup) (hstale : NeverStale t (calls ++ [call]))
    (hown : call.concerns t calls = true) :
    Meets t calls call (((history calls).flow.laneOf t).meet call) := by
  have htidy := tidy_history calls
  cases call with
  | submit other event =>
      obtain rfl : other = t := of_decide_eq_true hown
      have hkept := hstale _ ((List.mem_inits _ _).mpr (List.prefix_refl _)) (by simp)
      rw [flow_history_concat] at hkept
      obtain ⟨hlane, hsent⟩ := Flow.submit_self htidy hkept
      exact ⟨hlane, (congrArg (eventsFor other) hsent).trans (eventsFor_own other _), rfl⟩
  | acknowledge id =>
      rcases (history calls).flow.acknowledge_split id with ⟨hnone, heq⟩ | ⟨first, l, last, l', sent,
        hlanes, -, hl, heq⟩
      · have hdeaf : ((history calls).flow.laneOf t).acknowledge? id = none := by
          rcases Flow.laneOf_cases htidy t with hmem | hfresh
          · exact Lane.acknowledge?_eq_none_iff.mpr (hnone _ hmem)
          · rw [hfresh]
            exact Lane.acknowledge?_fresh t id
        simp only [Lane.meet, hdeaf]
        exact ⟨by rw [Flow.take, heq], by rw [Flow.take, heq]; rfl, by rw [Flow.take, heq]⟩
      · have hmem : l ∈ (history calls).flow.lanes := by simp [hlanes]
        obtain rfl := target_eq_of_concerns hids hmem (by simp [hl]) hown
        have hbefore : (history calls).flow.laneOf l.target = l :=
          Flow.laneOf_eq ((Flow.lane?_eq_some_iff htidy).mpr ⟨hmem, rfl⟩)
        have htidy' := Flow.tidy_acknowledge htidy id
        rw [heq] at htidy'
        have hafter : Flow.laneOf { lanes := first ++ l' :: last } l.target = l' :=
          Flow.laneOf_eq ((Flow.lane?_eq_some_iff htidy').mpr
            ⟨by simp, Lane.acknowledge?_target hl⟩)
        simp only [Lane.meet, hbefore, hl]
        exact ⟨by rw [Flow.take, heq, hafter], by rw [Flow.take, heq, eventsFor_own],
          by rw [Flow.take, heq]⟩

/-- **Any other call** leaves the lane as it is, and sends nothing to the frame. -/
lemma aside_of_not_concerns (hstale : NeverStale t (calls ++ [call]))
    (hother : call.concerns t calls = false) :
    ((history calls).flow.take call).1.laneOf t = (history calls).flow.laneOf t ∧
      eventsFor t ((history calls).flow.take call).2.1 = [] := by
  have htidy := tidy_history calls
  cases call with
  | submit other event =>
      have hne : other ≠ t := of_decide_eq_false hother
      have hkept := hstale _ ((List.mem_inits _ _).mpr (List.prefix_refl _))
      rw [inputs_submit_other hne, flow_history_concat] at hkept
      obtain ⟨hlane, hsent⟩ := Flow.submit_other htidy event hne fun hl => by
        obtain ⟨l, hl⟩ := Option.isSome_iff_exists.mp hl
        obtain ⟨hmem, rfl⟩ := (Flow.lane?_eq_some_iff htidy).mp hl
        exact hkept (lanes_orderly calls l hmem).1
      exact ⟨congrArg (·.getD (.fresh t)) hlane, eventsFor_eq_nil hsent⟩
  | acknowledge id =>
      rcases Flow.acknowledge_lane htidy id t with ⟨hlane, hsent, -⟩ | ⟨l, l', sent, hl, hack, -⟩
      · exact ⟨congrArg (·.getD (.fresh t)) hlane, eventsFor_eq_nil hsent⟩
      · obtain ⟨hmem, rfl⟩ := (Flow.lane?_eq_some_iff htidy).mp hl
        have htaken : (l.acknowledge? id).isSome := by simp [hack]
        exact Bool.noConfusion (hother.symm.trans (concerns_of_acknowledge? hmem htaken))

/-! ## Runs -/

lemma NeverStale.of_concat (h : NeverStale t (calls ++ [call])) : NeverStale t calls :=
  fun before hbefore => h before ((List.mem_inits _ _).mpr
    (((List.mem_inits _ _).mp hbefore).trans (List.prefix_append calls [call])))

/-- **A frame is alone with its share**: its lane and what it sees are those of a lane that meets
only the calls that concern it. -/
lemma alone_share (hids : (allIds calls).Nodup) (hstale : NeverStale t calls) :
    alone t (share t calls) = ⟨(history calls).flow.laneOf t, sights t calls⟩ := by
  induction calls using List.reverseRecOn with
  | nil => cases t <;> rfl
  | append_singleton calls call ih =>
      have hids' : (allIds calls).Nodup :=
        hids.sublist (((List.sublist_append_left calls [call]).filterMap _).map _)
      have hcalls := ih hids' hstale.of_concat
      rw [share_concat, sights_concat, flow_history_concat]
      cases hown : call.concerns t calls with
      | true =>
          have hmeets := meets_of_concerns hids' hstale hown
          simp only [if_true]
          rw [alone_concat, hcalls, Alone.next, hmeets.lane, hmeets.sight_eq]
      | false =>
          simp only [Bool.false_eq_true, if_false, List.append_nil]
          rw [hcalls, (aside_of_not_concerns hstale hown).1]

/-- All that is sent to a frame is sent by calls that concern it. -/
lemma routedTo_eq_sights (hstale : NeverStale t calls) :
    routedTo t (history calls).log = (sights t calls).flatMap (·.sent) := by
  induction calls using List.reverseRecOn with
  | nil => rfl
  | append_singleton calls call ih =>
      rw [routedTo_history_concat, sights_concat, ih hstale.of_concat, List.flatMap_append]
      cases hown : call.concerns t calls with
      | true => simp [sight]
      | false => simp [(aside_of_not_concerns hstale hown).2]

/-- **Frames are isolated from each other.**  Take two runs with distinct ids in each, and a frame
that is never stale in either.  If the same calls concern it in the same order, then whatever other
calls come in between, the frame sees the same, call by call: what is sent to it, which
acknowledgements are recognized, whether an event is on its way to it, and how many wait.  Nothing
else is sent to it, and in the end it waits for the same.

An acknowledgement that comes before the event that it would be for is recognized in no run. -/
theorem same_share_same_sights {calls calls' : List Call} {t : Target}
    (hids : (allIds calls).Nodup) (hids' : (allIds calls').Nodup) (hstale : NeverStale t calls)
    (hstale' : NeverStale t calls') (hshare : share t calls = share t calls') :
    sights t calls = sights t calls' ∧
    routedTo t (history calls).log = routedTo t (history calls').log ∧
    (history calls).flow.waitingCount t = (history calls').flow.waitingCount t ∧
    (history calls).flow.isAwaiting t = (history calls').flow.isAwaiting t ∧
    ∀ before id, id ∉ allIds before →
      ((history before).flow.acknowledge id).2.2 = false := by
  have halone := alone_share hids hstale
  rw [hshare, alone_share hids' hstale', Alone.mk.injEq] at halone
  obtain ⟨hlane, hseen⟩ := halone
  refine ⟨hseen.symm, ?_, ?_, ?_, fun before id => not_recognized_of_unmade⟩
  · rw [routedTo_eq_sights hstale, routedTo_eq_sights hstale', hseen]
  · simp only [Flow.waitingCount_eq, Flow.waitingFor_eq, hlane]
  · simp only [Flow.isAwaiting_eq, hlane]

/-- A frame scrolls by itself. -/
def scrollAlone : List Call :=
  [.submit (.frame 1 1) (turn 1 .began), .submit (.frame 1 1) (turn 3 .changed),
   .submit (.frame 1 1) (turn 4 .changed), .acknowledge 1, .acknowledge 1,
   .submit (.frame 1 1) (turn 6 .ended), .acknowledge 3]

/-- The same among others.  An id comes back before its event was made, and one that nobody has. -/
def scrollAmongOthers : List Call :=
  [.submit (.frame 2 3) (turn 2 .changed), .acknowledge 4, .submit (.frame 1 1) (turn 1 .began),
   .submit (.frame 2 3) (turn 5 .changed), .submit (.frame 1 1) (turn 3 .changed),
   .submit (.frame 1 1) (turn 4 .changed), .acknowledge 2, .acknowledge 9, .acknowledge 1,
   .acknowledge 1, .submit (.frame 3 1) (turn 7 .ended), .submit (.frame 1 1) (turn 6 .ended),
   .acknowledge 5, .acknowledge 7, .acknowledge 3]

theorem same_share_same_sights_scroll :
    (allIds scrollAlone).Nodup ∧ (allIds scrollAmongOthers).Nodup ∧
    NeverStale (.frame 1 1) scrollAlone ∧ NeverStale (.frame 1 1) scrollAmongOthers ∧
    share (.frame 1 1) scrollAlone = share (.frame 1 1) scrollAmongOthers ∧
    sights (.frame 1 1) scrollAmongOthers
      = [⟨[turn 1 .began], false, true, 0⟩, ⟨[], false, true, 1⟩, ⟨[], false, true, 1⟩,
         ⟨[merge (turn 3 .changed) (turn 4 .changed)], true, true, 0⟩, ⟨[], false, true, 0⟩,
         ⟨[], false, true, 1⟩, ⟨[turn 6 .ended], true, false, 0⟩] ∧
    ((history (scrollAmongOthers.take 1)).flow.acknowledge 4).2.2 = false := by
  have hids : (allIds scrollAlone).Nodup := by decide
  have hids' : (allIds scrollAmongOthers).Nodup := by decide
  have hstale : NeverStale (.frame 1 1) scrollAlone := by decide
  have hstale' : NeverStale (.frame 1 1) scrollAmongOthers := by decide
  have hshare : share (.frame 1 1) scrollAlone = share (.frame 1 1) scrollAmongOthers := rfl
  have halone : sights (.frame 1 1) scrollAlone
      = [⟨[turn 1 .began], false, true, 0⟩, ⟨[], false, true, 1⟩, ⟨[], false, true, 1⟩,
         ⟨[merge (turn 3 .changed) (turn 4 .changed)], true, true, 0⟩, ⟨[], false, true, 0⟩,
         ⟨[], false, true, 1⟩, ⟨[turn 6 .ended], true, false, 0⟩] := by
    decide
  obtain ⟨hsights, -, -, -, hearly⟩ := same_share_same_sights hids hids' hstale hstale' hshare
  exact ⟨hids, hids', hstale, hstale', hshare, hsights ▸ halone, hearly _ 4 (by decide)⟩

end ViewInput.Wheel
