import Mathlib.Data.List.Chain
import ViewInput.Proofs.Wheel.History

/-!
# No wheel input is lost

What goes to a frame, and what waits for it, is the input of the frame **in blocks**: consecutive
events that are alike are sent as one, and nothing is dropped, sent twice or overtaken.  Distances
are added from the left, in the order of the events, and no law of addition is used.
-/

namespace ViewInput.Wheel

open Page (EventId Target WheelEvent)

/-! ## Blocks -/

/-- Events that differ at most in the distance, the place, the id and the time. -/
def Alike (a b : WheelEvent) : Prop :=
  a.phase = b.phase ∧ a.momentum = b.momentum ∧ a.modifiers = b.modifiers ∧ a.precise = b.precise

lemma Alike.symm {a b : WheelEvent} (h : Alike a b) : Alike b a :=
  ⟨h.1.symm, h.2.1.symm, h.2.2.1.symm, h.2.2.2.symm⟩

lemma Alike.trans {a b c : WheelEvent} (h : Alike a b) (h' : Alike b c) : Alike a c :=
  ⟨h.1.trans h'.1, h.2.1.trans h'.2.1, h.2.2.1.trans h'.2.2.1, h.2.2.2.trans h'.2.2.2⟩

lemma compatible_iff {a b : WheelEvent} : compatible a b = true ↔ Alike a b := by
  simp [compatible, Alike, and_assoc]

/-- Distances added to one, from the left. -/
def added (first : Point) (rest : List Point) : Point :=
  rest.foldl (fun p q => ⟨p.x + q.x, p.y + q.y⟩) first

/-- Consecutive events that are sent as one. -/
structure Block where
  first : WheelEvent
  rest : List WheelEvent := []

namespace Block

def events (b : Block) : List WheelEvent := b.first :: b.rest

def last (b : Block) : WheelEvent := b.rest.getLastD b.first

/-- The one event that is sent. -/
def merged (b : Block) : WheelEvent := b.rest.foldl merge b.first

/-- A block with one event more. -/
def extend (b : Block) (event : WheelEvent) : Block := { b with rest := b.rest ++ [event] }

lemma extend_events (b : Block) (event : WheelEvent) :
    (b.extend event).events = b.events ++ [event] := rfl

lemma extend_merged (b : Block) (event : WheelEvent) :
    (b.extend event).merged = merge b.merged event := by
  simp [extend, merged]

lemma extend_last (b : Block) (event : WheelEvent) : (b.extend event).last = event := by
  simp [extend, last]

/-- What merging adds up, a block adds up from the left. -/
lemma merged_added (b : Block) {part : WheelEvent → Point}
    (hpart : ∀ a e, part (merge a e) = ⟨(part a).x + (part e).x, (part a).y + (part e).y⟩) :
    part b.merged = added (part b.first) (b.rest.map part) := by
  rw [added, List.foldl_map]
  exact (List.foldl_hom part fun a e => (hpart a e).symm).symm

/-- What is sent for a block has the id of the first event and the place and time of the last, and
is like the first in the rest. -/
structure Sound (b : Block) : Prop where
  alike : ∀ a ∈ b.events, Alike b.first a
  id : b.merged.id = b.first.id
  position : b.merged.position = b.last.position
  globalPosition : b.merged.globalPosition = b.last.globalPosition
  time : b.merged.time = b.last.time
  merged_alike : Alike b.first b.merged

lemma sound_single (event : WheelEvent) : Sound ⟨event, []⟩ where
  alike := by simp [events, Alike]
  id := rfl
  position := rfl
  globalPosition := rfl
  time := rfl
  merged_alike := ⟨rfl, rfl, rfl, rfl⟩

lemma Sound.extend {b : Block} (h : b.Sound) {event : WheelEvent}
    (hcompatible : compatible b.merged event = true) : (b.extend event).Sound := by
  have hfirst : Alike b.first event := h.merged_alike.trans (compatible_iff.mp hcompatible)
  refine ⟨?_, ?_, ?_, ?_, ?_, ?_⟩
  · intro a ha
    rw [extend_events, List.mem_append, List.mem_singleton] at ha
    rcases ha with ha | rfl
    · exact h.alike a ha
    · exact hfirst
  · rw [extend_merged]
    exact h.id
  · rw [extend_merged, extend_last]
    rfl
  · rw [extend_merged, extend_last]
    rfl
  · rw [extend_merged, extend_last]
    rfl
  · rw [extend_merged]
    exact h.merged_alike

end Block

/-! ## The line -/

lemma enqueue_concat (event last : WheelEvent) (line : List WheelEvent) :
    enqueue event (line ++ [last])
      = line ++ if compatible last event then [merge last event] else [last, event] := by
  induction line with
  | nil => rfl
  | cons a rest ih =>
      cases rest with
      | nil => rfl
      | cons b rest => simpa [enqueue] using ih

/-- No event of a line could have been merged into the one before it. -/
def Separate (line : List WheelEvent) : Prop :=
  line.IsChain fun a b => compatible a b = false

lemma Separate.enqueue {line : List WheelEvent} (h : Separate line) (event : WheelEvent) :
    Separate (enqueue event line) := by
  rcases List.eq_nil_or_concat line with rfl | ⟨front, last, rfl⟩
  · exact List.isChain_singleton event
  · rw [List.concat_eq_append] at h ⊢
    rw [enqueue_concat]
    split
    · obtain ⟨hfront, -, hlast⟩ := List.isChain_append.mp h
      refine List.isChain_append.mpr ⟨hfront, List.isChain_singleton _, fun a ha b hb => ?_⟩
      cases hb
      exact hlast a ha last rfl
    · rename_i hcompatible
      rw [List.append_cons]
      refine List.isChain_append.mpr ⟨h, List.isChain_singleton _, fun a ha b hb => ?_⟩
      simp only [List.getLast?_concat, Option.mem_def, Option.some.injEq, List.head?_cons] at ha hb
      subst ha hb
      simpa using hcompatible

/-- What is drained is the front of the line. -/
lemma Lane.drain_append_waiting (l : Lane) (line : List WheelEvent) :
    (l.drain line).2 ++ (l.drain line).1.waiting = line := by
  induction line generalizing l with
  | nil => rfl
  | cons event rest ih =>
      cases hended : event.isEnded with
      | true => simpa [Lane.drain, hended] using ih (l.send event)
      | false => simp [Lane.drain, hended]

lemma Lane.acknowledge?_append_waiting {l l' : Lane} {id : EventId} {sent : List WheelEvent}
    (hack : l.acknowledge? id = some (l', sent)) : sent ++ l'.waiting = l.waiting := by
  unfold Lane.acknowledge? at hack
  split at hack
  · cases hack
    rfl
  · split at hack
    · have hdrain := Lane.drain_append_waiting { l with inFlight := none } l.waiting
      rw [Option.some.inj hack] at hdrain
      exact hdrain
    · cases hack

/-! ## The input in blocks -/

/-- A list of events is made by sending some input in blocks. -/
def InBlocks (ins outs : List WheelEvent) : Prop :=
  ∃ blocks : List Block, blocks.flatMap Block.events = ins ∧ blocks.map Block.merged = outs ∧
    ∀ b ∈ blocks, b.Sound

namespace InBlocks

variable {ins outs : List WheelEvent}

lemma concat (h : InBlocks ins outs) (event : WheelEvent) :
    InBlocks (ins ++ [event]) (outs ++ [event]) := by
  obtain ⟨blocks, rfl, rfl, hsound⟩ := h
  refine ⟨blocks ++ [⟨event, []⟩], by simp [Block.events], by simp [Block.merged], ?_⟩
  intro b hb
  rcases List.mem_append.mp hb with hb | hb
  · exact hsound b hb
  · rw [List.mem_singleton.mp hb]
    exact Block.sound_single event

lemma merge {last event : WheelEvent} (h : InBlocks ins (outs ++ [last]))
    (hcompatible : compatible last event = true) :
    InBlocks (ins ++ [event]) (outs ++ [Wheel.merge last event]) := by
  obtain ⟨blocks, rfl, hmerged, hsound⟩ := h
  obtain ⟨front, tail, rfl, rfl, htail⟩ := List.map_eq_append_iff.mp hmerged
  obtain ⟨b, rfl, rfl⟩ := List.map_eq_singleton_iff.mp htail
  refine ⟨front ++ [b.extend event], ?_, ?_, ?_⟩
  · simp [Block.extend_events]
  · simp [Block.extend_merged]
  · intro c hc
    rcases List.mem_append.mp hc with hc | hc
    · exact hsound c (List.mem_append_left _ hc)
    · rw [List.mem_singleton.mp hc]
      exact (hsound b (by simp)).extend hcompatible

lemma enqueue {sent line : List WheelEvent} (h : InBlocks ins (sent ++ line))
    (event : WheelEvent) : InBlocks (ins ++ [event]) (sent ++ Wheel.enqueue event line) := by
  rcases List.eq_nil_or_concat line with rfl | ⟨front, last, rfl⟩
  · rw [List.append_nil] at h
    exact h.concat event
  · rw [List.concat_eq_append, ← List.append_assoc] at h
    rw [List.concat_eq_append, enqueue_concat, ← List.append_assoc]
    split
    · rename_i hcompatible
      exact h.merge hcompatible
    · simpa using h.concat event

lemma ids_sublist (h : InBlocks ins outs) :
    (outs.map (·.id)).Sublist (ins.map (·.id)) := by
  obtain ⟨blocks, rfl, rfl, hsound⟩ := h
  induction blocks with
  | nil => exact List.Sublist.refl _
  | cons b rest ih =>
      have hrest := ih fun b hb => hsound b (List.mem_cons_of_mem _ hb)
      have hid := (hsound b List.mem_cons_self).id
      simp only [List.map_cons, List.flatMap_cons, List.map_append, Block.events, hid]
      exact (hrest.trans (List.sublist_append_right _ _)).cons_cons b.first.id

end InBlocks

/-! ## A whole run -/

/-- How far a lane got with the input of its frame. -/
structure Progress (ins outs : List WheelEvent) (l : Lane) : Prop where
  orderly : l.Orderly ins
  inBlocks : InBlocks ins (outs ++ l.waiting)
  separate : Separate l.waiting

namespace Progress

variable {ins outs : List WheelEvent} {l : Lane}

lemma fresh (t : Target) : Progress [] [] (.fresh t) where
  orderly := Lane.orderly_fresh [] t
  inBlocks := ⟨[], rfl, by cases t <;> rfl, by simp⟩
  separate := by cases t <;> exact List.isChain_nil

lemma submit (h : Progress ins outs l) (event : WheelEvent) :
    Progress (ins ++ [event]) (outs ++ (l.submit event).2) (l.submit event).1 := by
  cases hin : l.inFlight with
  | none =>
      have hwaiting := h.orderly.idle hin
      have hstill : (l.send event).waiting = [] := by
        simpa [Lane.send, apply_ite Lane.waiting] using hwaiting
      have hblocks := h.inBlocks.concat event
      rw [hwaiting, List.append_nil] at hblocks
      have hline : (l.submit event).1.waiting = [] := by simpa [Lane.submit, hin] using hstill
      refine ⟨h.orderly.submit event, ?_, ?_⟩
      · rw [hline]
        simpa [Lane.submit, hin] using hblocks
      · rw [hline]
        exact List.isChain_nil
  | some id =>
      refine ⟨h.orderly.submit event, ?_, ?_⟩
      · simpa [Lane.submit, hin] using h.inBlocks.enqueue event
      · simpa [Lane.submit, hin] using h.separate.enqueue event

lemma acknowledge (h : Progress ins outs l) {l' : Lane} {id : EventId} {sent : List WheelEvent}
    (hack : l.acknowledge? id = some (l', sent)) : Progress ins (outs ++ sent) l' := by
  have hline := Lane.acknowledge?_append_waiting hack
  refine ⟨h.orderly.acknowledge hack, ?_, ?_⟩
  · rw [List.append_assoc, hline]
    exact h.inBlocks
  · refine List.IsChain.suffix h.separate ?_
    rw [← hline]
    exact List.suffix_append sent l'.waiting

end Progress

lemma progress_history {t : Target} {calls : List Call} (hstale : NeverStale t calls) :
    Progress (inputs t calls) (routedTo t (history calls).log)
      ((history calls).flow.laneOf t) := by
  refine history_induction (P := fun ins log l => Progress ins (routedTo t log) l)
    (.fresh t) ?_ ?_ ?_ ?_ hstale
  · intro ins log l event h
    simpa [routedTo_append] using h.submit event
  · intro ins log l other event hne h
    simpa [routedTo_append, routedTo_other hne] using h
  · intro ins log l id _ h
    simpa [routedTo_append] using h
  · intro ins log l id l' sent hack h
    simpa [routedTo_append] using h.acknowledge hack

/-- **No wheel input is lost, doubled or overtaken.**  For a frame that is never stale, what went to
it and what waits for it is its input in blocks of events that are alike.  Each is sent with the id
of the first of its block, at the place and time of the last, and with the distances and steps of
all of them added from the left.  No two neighbours that wait could have been merged, and if the ids
of the input go up then so do those that are sent. -/
theorem input_in_blocks {t : Target} {calls : List Call} (hstale : NeverStale t calls) :
    ∃ blocks : List Block,
      blocks.flatMap Block.events = inputs t calls ∧
      blocks.map Block.merged
        = routedTo t (history calls).log ++ (history calls).flow.waitingFor t ∧
      (∀ b ∈ blocks, (∀ a ∈ b.events, ∀ c ∈ b.events, Alike a c) ∧
        b.merged.id = b.first.id ∧ b.merged.position = b.last.position ∧
        b.merged.globalPosition = b.last.globalPosition ∧ b.merged.time = b.last.time ∧
        b.merged.delta = added b.first.delta (b.rest.map (·.delta)) ∧
        b.merged.ticks = added b.first.ticks (b.rest.map (·.ticks))) ∧
      ((history calls).flow.waitingFor t).IsChain (fun a c => compatible a c = false) ∧
      (((inputs t calls).map (·.id)).Pairwise (· < ·) →
        ((routedTo t (history calls).log).map (·.id)).Pairwise (· < ·)) := by
  have hprogress := progress_history hstale
  have hids := hprogress.inBlocks.ids_sublist
  obtain ⟨blocks, hins, houts, hsound⟩ := hprogress.inBlocks
  rw [Flow.waitingFor_eq]
  refine ⟨blocks, hins, houts, fun b hb => ⟨fun a ha c hc => ?_, ?_⟩, hprogress.separate, ?_⟩
  · exact ((hsound b hb).alike a ha).symm.trans ((hsound b hb).alike c hc)
  · exact ⟨(hsound b hb).id, (hsound b hb).position, (hsound b hb).globalPosition,
      (hsound b hb).time, b.merged_added fun _ _ => rfl, b.merged_added fun _ _ => rfl⟩
  · intro hinc
    rw [List.map_append] at hids
    exact hinc.sublist ((List.sublist_append_left _ _).trans hids)

/-- A turn in the middle of a scroll, by some distance in some steps. -/
def turnBy (id : EventId) (distance steps : Float32) : WheelEvent :=
  { turn id .changed with delta := ⟨0, distance⟩, ticks := ⟨steps, 0⟩ }

/-- Turns that are merged while the first is on its way, and an end behind them.  The first of them
is so far that one more pixel is lost on it. -/
def pushedTurns : List Call :=
  [.submit (.frame 1 1) (turn 1 .began), .submit (.frame 1 1) (turnBy 2 16777216 1),
   .submit (.frame 2 1) (turnBy 3 5 5), .submit (.frame 1 1) (turnBy 4 1 0.5),
   .submit (.frame 1 1) (turnBy 5 1 0.25), .submit (.frame 1 1) (turn 6 .ended), .acknowledge 1,
   .submit (.frame 1 1) (turn 7 .began)]

theorem input_in_blocks_pushedTurns :
    NeverStale (.frame 1 1) pushedTurns ∧
      ((inputs (.frame 1 1) pushedTurns).map (·.id)).Pairwise (· < ·) ∧
      (∃ blocks : List Block,
        blocks.flatMap Block.events
          = [turn 1 .began, turnBy 2 16777216 1, turnBy 4 1 0.5, turnBy 5 1 0.25, turn 6 .ended,
             turn 7 .began] ∧
        blocks.map Block.merged = routedTo (.frame 1 1) (history pushedTurns).log
          ++ (history pushedTurns).flow.waitingFor (.frame 1 1)) ∧
      (routedTo (.frame 1 1) (history pushedTurns).log).map (fun e => (e.id, e.delta, e.ticks))
        = [(1, ⟨0, 0⟩, ⟨0, 0⟩), (2, ⟨0, 16777216⟩, ⟨1.75, 0⟩)] ∧
      ((routedTo (.frame 1 1) (history pushedTurns).log).map (·.id)).Pairwise (· < ·) := by
  have hstale : NeverStale (.frame 1 1) pushedTurns :=
    neverStale_of_one_generation (fun _ => 1) (by decide) (fun _ => rfl) _
  have hinc : ((inputs (.frame 1 1) pushedTurns).map (·.id)).Pairwise (· < ·) := by decide
  obtain ⟨blocks, hins, houts, -, -, hids⟩ := input_in_blocks hstale
  exact ⟨hstale, hinc, ⟨blocks, hins, houts⟩, by decide +kernel, hids hinc⟩

end ViewInput.Wheel
