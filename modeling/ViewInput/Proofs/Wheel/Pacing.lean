import ViewInput.Proofs.Wheel.History

/-!
# One wheel event at a time

The log of a run tells what a frame waits for, without any look at the flow: an event that does not
end a scroll is awaited from the moment it goes out until its acknowledgement.  The lane of the
frame **keeps just that** (`Paced`), and nothing goes out while something is awaited, save in the
one go in which scrolls end.
-/

namespace ViewInput.Wheel

open Page (EventId Target WheelEvent)

variable {t : Target} {log : List Entry} {l : Lane}

/-! ## What a log leaves a frame waiting for -/

/-- What is awaited after one more line. -/
def await (t : Target) (awaited : Option EventId) : Entry → Option EventId
  | .routed other event => if other = t ∧ event.isEnded = false then some event.id else awaited
  | .acknowledged id => if awaited = some id then none else awaited

/-- What is awaited after a log. -/
def awaited (t : Target) (log : List Entry) : Option EventId := log.foldl (await t) none

lemma awaited_concat (t : Target) (log : List Entry) (entry : Entry) :
    awaited t (log ++ [entry]) = await t (awaited t log) entry := by
  simp [awaited]

/-- The last event that has to be acknowledged, which was not. -/
def AwaitedIn (t : Target) (id : EventId) (log : List Entry) : Prop :=
  ∃ before event after, log = before ++ .routed t event :: after ∧ event.id = id ∧
    event.isEnded = false ∧ (∀ later, .routed t later ∈ after → later.isEnded = true) ∧
    .acknowledged id ∉ after

lemma AwaitedIn.concat {id : EventId} (h : AwaitedIn t id log) {entry : Entry}
    (hrouted : ∀ event, entry = .routed t event → event.isEnded = true)
    (hack : entry ≠ .acknowledged id) : AwaitedIn t id (log ++ [entry]) := by
  obtain ⟨before, event, after, rfl, hid, hopen, hlater, hunheard⟩ := h
  refine ⟨before, event, after ++ [entry], by simp, hid, hopen, fun later hmem => ?_, ?_⟩
  · rcases List.mem_append.mp hmem with hmem | hmem
    · exact hlater later hmem
    · exact hrouted later (List.mem_singleton.mp hmem).symm
  · simpa using ⟨hunheard, fun h => hack h.symm⟩

lemma awaitedIn_of_awaited {id : EventId} (h : awaited t log = some id) : AwaitedIn t id log := by
  induction log using List.reverseRecOn with
  | nil => cases h
  | append_singleton log entry ih =>
      rw [awaited_concat] at h
      cases entry with
      | routed other event =>
          simp only [await] at h
          split at h
          · rename_i hsent
            obtain ⟨rfl, hopen⟩ := hsent
            exact ⟨log, event, [], rfl, by simpa using h, hopen, by simp, by simp⟩
          · rename_i hnot
            refine (ih h).concat (fun e he => ?_) (by simp)
            cases he
            simpa using hnot
      | acknowledged id' =>
          simp only [await] at h
          split at h
          · cases h
          · rename_i hnot
            refine (ih h).concat (by simp) fun heq => hnot ?_
            cases heq
            exact h

/-! ## Logs that keep the pace -/

/-- A log in which an event that has to be acknowledged goes out only if none is awaited. -/
def InTurn (t : Target) (log : List Entry) : Prop :=
  ∀ before event after, log = before ++ .routed t event :: after → event.isEnded = false →
    awaited t before = none

lemma inTurn_nil (t : Target) : InTurn t [] :=
  fun _ _ _ h => absurd h (by simp)

lemma InTurn.concat (h : InTurn t log) {entry : Entry}
    (hturn : ∀ event, entry = .routed t event → event.isEnded = false → awaited t log = none) :
    InTurn t (log ++ [entry]) := by
  intro before event after heq hopen
  rcases List.eq_nil_or_concat after with rfl | ⟨after, last, rfl⟩
  · obtain ⟨rfl, hentry⟩ := List.append_inj' heq rfl
    exact hturn event (List.singleton_inj.mp hentry) hopen
  · rw [List.concat_eq_append, ← List.cons_append, ← List.append_assoc] at heq
    exact h before event after (List.append_inj' heq rfl).1 hopen

lemma InTurn.of_append {before after : List Entry} (h : InTurn t (before ++ after)) :
    InTurn t before := by
  rintro first event rest rfl hopen
  exact h first event (rest ++ after) (by simp) hopen

/-- An event stays awaited until it is acknowledged. -/
lemma InTurn.awaited_eq {before after : List Entry} {event : WheelEvent}
    (h : InTurn t (before ++ .routed t event :: after)) (hopen : event.isEnded = false)
    (hunheard : .acknowledged event.id ∉ after) :
    awaited t (before ++ .routed t event :: after) = some event.id := by
  induction after using List.reverseRecOn with
  | nil => simp [awaited_concat, await, hopen]
  | append_singleton after entry ih =>
      rw [← List.cons_append, ← List.append_assoc] at h ⊢
      have hmid := ih h.of_append fun hmem => hunheard (List.mem_append_left _ hmem)
      rw [awaited_concat, hmid]
      cases entry with
      | routed other e =>
          simp only [await]
          refine if_neg fun hsent => ?_
          obtain ⟨rfl, he⟩ := hsent
          -- Another event would have gone out of turn.
          simp [h _ e [] rfl he] at hmid
      | acknowledged id =>
          refine if_neg fun heq => hunheard ?_
          simp [Option.some.inj heq]

/-- Between two events that have to be acknowledged, the first is. -/
lemma InTurn.acknowledged_mem {first between last : List Entry} {a b : WheelEvent}
    (h : InTurn t (first ++ .routed t a :: between ++ .routed t b :: last))
    (ha : a.isEnded = false) (hb : b.isEnded = false) : .acknowledged a.id ∈ between := by
  by_contra hunheard
  have hfirst := h.of_append.awaited_eq ha hunheard
  rw [h _ b last rfl hb] at hfirst
  cases hfirst

/-! ## The lane of a frame -/

/-- A log that keeps its turns and leaves the frame waiting for what its lane has on its way. -/
structure Paced (t : Target) (log : List Entry) (inFlight : Option EventId) : Prop where
  inTurn : InTurn t log
  inFlight_eq : inFlight = awaited t log

namespace Paced

lemma routed_elsewhere {inFlight : Option EventId} (h : Paced t log inFlight) {other : Target}
    (hne : other ≠ t) (event : WheelEvent) : Paced t (log ++ [.routed other event]) inFlight where
  inTurn := h.inTurn.concat fun e he => absurd (by cases he; rfl) hne
  inFlight_eq := by simp [awaited_concat, await, hne, h.inFlight_eq]

lemma acknowledged {inFlight : Option EventId} (h : Paced t log inFlight) (id : EventId) :
    Paced t (log ++ [.acknowledged id]) (if inFlight = some id then none else inFlight) where
  inTurn := h.inTurn.concat (by simp)
  inFlight_eq := by rw [awaited_concat, await, ← h.inFlight_eq]

lemma send (h : Paced t log l.inFlight) (hidle : l.inFlight = none) (event : WheelEvent) :
    Paced t (log ++ [.routed t event]) (l.send event).inFlight where
  inTurn := h.inTurn.concat fun _ _ _ => h.inFlight_eq.symm.trans hidle
  inFlight_eq := by
    rw [awaited_concat, ← h.inFlight_eq]
    cases hended : event.isEnded <;> simp [Lane.send, await, hended]

lemma submit (h : Paced t log l.inFlight) (event : WheelEvent) :
    Paced t (log ++ (l.submit event).2.map (.routed t)) (l.submit event).1.inFlight := by
  cases hin : l.inFlight with
  | none => simpa [Lane.submit, hin] using h.send hin event
  | some id => simpa [Lane.submit, hin] using hin ▸ h

lemma drain (h : Paced t log l.inFlight) (hidle : l.inFlight = none) (line : List WheelEvent) :
    Paced t (log ++ (l.drain line).2.map (.routed t)) (l.drain line).1.inFlight := by
  induction line generalizing log l with
  | nil => simpa [Lane.drain] using h
  | cons event rest ih =>
      have hsend := h.send hidle event
      cases hended : event.isEnded with
      | true =>
          have hstill : (l.send event).inFlight = none := by simp [Lane.send, hended, hidle]
          simpa [Lane.drain, hended] using ih hsend hstill
      | false => simpa [Lane.drain, hended] using hsend

lemma acknowledge (h : Paced t log l.inFlight) (hids : l.ids.Nodup) {l' : Lane} {id : EventId}
    {sent : List WheelEvent} (hack : l.acknowledge? id = some (l', sent)) :
    Paced t (log ++ .acknowledged id :: sent.map (.routed t)) l'.inFlight := by
  have hheard := h.acknowledged id
  unfold Lane.acknowledge? at hack
  split at hack
  · rename_i hended
    -- The id is not that of the event on its way, since both are kept.
    have hother : l.inFlight ≠ some id := fun hin => by simp [Lane.ids, hended, hin] at hids
    rw [if_neg hother] at hheard
    cases hack
    exact hheard
  · split at hack
    · rename_i hin
      rw [if_pos hin] at hheard
      have hdrain := drain (l := { l with inFlight := none }) hheard rfl l.waiting
      rw [Option.some.inj hack] at hdrain
      simpa using hdrain
    · cases hack

end Paced

/-- With distinct ids, the lane of a frame that is never stale keeps the pace of the log. -/
lemma paced_history {calls : List Call} (hids : (allIds calls).Nodup)
    (hstale : NeverStale t calls) :
    Paced t (history calls).log ((history calls).flow.laneOf t).inFlight := by
  suffices h : ((history calls).flow.laneOf t).Orderly (inputs t calls) ∧
      (((inputs t calls).map (·.id)).Nodup →
        Paced t (history calls).log ((history calls).flow.laneOf t).inFlight) from
    h.2 (hids.sublist (inputs_ids_sublist t calls))
  refine history_induction (P := fun ins log l => l.Orderly ins ∧
    ((ins.map (·.id)).Nodup → Paced t log l.inFlight)) ?_ ?_ ?_ ?_ ?_ hstale
  · refine ⟨Lane.orderly_fresh [] t, fun _ => ⟨inTurn_nil t, ?_⟩⟩
    cases t <;> rfl
  · intro ins log l event h
    refine ⟨h.1.submit event, fun hnd => ?_⟩
    rw [List.map_append] at hnd
    exact (h.2 hnd.of_append_left).submit event
  · exact fun ins log l other event hne h => ⟨h.1, fun hnd => (h.2 hnd).routed_elsewhere hne event⟩
  · intro ins log l id hunknown h
    refine ⟨h.1, fun hnd => ?_⟩
    have hother : l.inFlight ≠ some id := fun hin => by
      have hnone := hunknown hids
      simp only [Lane.acknowledge?, hin, if_true] at hnone
      split at hnone <;> cases hnone
    simpa [hother] using (h.2 hnd).acknowledged id
  · exact fun ins log l id l' sent hack h => ⟨h.1.acknowledge hack, fun hnd =>
      (h.2 hnd).acknowledge (hnd.sublist h.1.sublist) hack⟩

/-- **At most one wheel event of a frame is on its way**, not counting those that end a scroll.
With distinct ids, and for a frame that is never stale: between two of its events the engine
acknowledged the first, the flow waits just for the last if that is not acknowledged, and nothing
waits in line without it. -/
theorem flow_control {calls : List Call} (hids : (allIds calls).Nodup) (t : Target)
    (hstale : NeverStale t calls) :
    (∀ first a between b last,
      (history calls).log = first ++ .routed t a :: between ++ .routed t b :: last →
      a.isEnded = false → b.isEnded = false → .acknowledged a.id ∈ between) ∧
    ((history calls).flow.isAwaiting t = true ↔ ∃ id, AwaitedIn t id (history calls).log) ∧
    (0 < (history calls).flow.waitingCount t → (history calls).flow.isAwaiting t = true) := by
  have hpaced := paced_history hids hstale
  refine ⟨fun first a between b last heq => ?_, ?_, ?_⟩
  · exact (heq ▸ hpaced.inTurn).acknowledged_mem
  · rw [Flow.isAwaiting_eq, hpaced.inFlight_eq, Option.isSome_iff_exists]
    refine exists_congr fun id => ⟨awaitedIn_of_awaited, ?_⟩
    rintro ⟨before, event, after, heq, rfl, hopen, -, hunheard⟩
    rw [heq]
    exact (heq ▸ hpaced.inTurn).awaited_eq hopen hunheard
  · rw [Flow.isAwaiting_eq, Flow.waitingCount_eq, Flow.waitingFor_eq, Option.isSome_iff_ne_none]
    intro hwaiting hidle
    rw [(laneOf_orderly calls t).idle hidle] at hwaiting
    exact absurd hwaiting (Nat.lt_irrefl 0)

/-- Two frames scroll.  In one, turns are merged and an end follows them out; ids come back that
nothing waits for. -/
def twoScrolls : List Call :=
  [.submit (.frame 1 1) (turn 1 .began), .submit (.frame 2 3) (turn 2 .changed),
   .submit (.frame 1 1) (turn 3 .changed), .submit (.frame 1 1) (turn 4 .changed),
   .acknowledge 4, .submit (.frame 1 1) (turn 5 .ended), .acknowledge 1, .acknowledge 1,
   .acknowledge 3, .submit (.frame 1 1) (turn 6 .began), .acknowledge 5, .acknowledge 2]

theorem flow_control_twoScrolls :
    (allIds twoScrolls).Nodup ∧ NeverStale (.frame 1 1) twoScrolls ∧
    (∀ first a between b last,
      (history twoScrolls).log
        = first ++ .routed (.frame 1 1) a :: between ++ .routed (.frame 1 1) b :: last →
      a.isEnded = false → b.isEnded = false → .acknowledged a.id ∈ between) ∧
    ∃ id, AwaitedIn (.frame 1 1) id (history twoScrolls).log := by
  have hids : (allIds twoScrolls).Nodup := by decide
  have hstale : NeverStale (.frame 1 1) twoScrolls :=
    neverStale_of_one_generation (fun slot => if slot = 2 then 3 else 1) (by decide)
      (fun slot => by split <;> rfl) _
  obtain ⟨hturns, hawaiting, -⟩ := flow_control hids (.frame 1 1) hstale
  exact ⟨hids, hstale, hturns, hawaiting.mp (by decide)⟩

end ViewInput.Wheel
