import ViewInput.Proofs.Wheel.Ids

/-!
# Which acknowledgements are recognized

The engine acknowledges every wheel event that it gets.  A lane knows the event that holds up the
others, and **the last one that ended a scroll**.  An event that ends a scroll holds up nothing, so
another may go out before it is acknowledged.  Then the lane knows only the later, and the
acknowledgement of the earlier comes as if from nowhere (`second_end_hides_first`).

What the lanes know is told by the log alone.  An event is **outstanding** from the moment it goes
out until it is acknowledged or another displaces it: one that ends a scroll by the next of its
frame that does, and every event by one for another frame of its slot.  Each entry of the log does
the same to the lanes as to the outstanding events (`Ledger`), and the acknowledgements that are
recognized are those of outstanding events (`recognized_iff_undisturbed`).
-/

namespace ViewInput.Wheel

open Page (EventId Target WheelEvent)

/-! ## Outstanding events -/

/-- The slot of a frame. -/
def slot? : Target → Option Nat
  | .null => none
  | .frame slot _ => some slot

/-- **An event displaces an earlier one** of its slot: it is for another frame, or both end a
scroll. -/
def Displaces (t' : Target) (e' : WheelEvent) (t : Target) (e : WheelEvent) : Prop :=
  slot? t' = slot? t ∧ (t' ≠ t ∨ (e.isEnded = true ∧ e'.isEnded = true))

instance (t' : Target) (e' : WheelEvent) (t : Target) (e : WheelEvent) :
    Decidable (Displaces t' e' t e) :=
  inferInstanceAs (Decidable (_ ∧ _))

/-- Whether an entry acknowledges an event or displaces it. -/
def Entry.disturbs (t : Target) (e : WheelEvent) : Entry → Bool
  | .routed t' e' => decide (Displaces t' e' t e)
  | .acknowledged id => decide (id = e.id)

/-- Entries that neither acknowledge an event nor displace it. -/
def Undisturbed (t : Target) (e : WheelEvent) (entries : List Entry) : Prop :=
  ∀ entry ∈ entries, entry.disturbs t e = false

instance (t : Target) (e : WheelEvent) (entries : List Entry) :
    Decidable (Undisturbed t e entries) :=
  inferInstanceAs (Decidable (∀ entry ∈ entries, _))

/-- An event went out, and nothing has disturbed it since. -/
def Outstanding (log : List Entry) (t : Target) (e : WheelEvent) : Prop :=
  ∃ before after, log = before ++ .routed t e :: after ∧ Undisturbed t e after

variable {t : Target} {e : WheelEvent} {log : List Entry}

lemma undisturbed_nil (t : Target) (e : WheelEvent) : Undisturbed t e [] :=
  List.forall_mem_nil _

lemma undisturbed_append {entries more : List Entry} :
    Undisturbed t e (entries ++ more) ↔ Undisturbed t e entries ∧ Undisturbed t e more :=
  List.forall_mem_append

@[simp] lemma undisturbed_routed {t' : Target} {e' : WheelEvent} :
    Undisturbed t e [.routed t' e'] ↔ ¬ Displaces t' e' t e := by
  simp [Undisturbed, Entry.disturbs]

@[simp] lemma undisturbed_acknowledged {id : EventId} :
    Undisturbed t e [.acknowledged id] ↔ e.id ≠ id := by
  simp only [Undisturbed, List.forall_mem_singleton, Entry.disturbs, decide_eq_false_iff_not]
  exact ne_comm

lemma not_outstanding_nil : ¬ Outstanding [] t e := by
  rintro ⟨before, after, heq, -⟩
  simp at heq

/-- An event is outstanding after one more entry if that is the event, or if it was and is not
disturbed. -/
lemma outstanding_concat {entry : Entry} :
    Outstanding (log ++ [entry]) t e
      ↔ entry = .routed t e ∨ (Outstanding log t e ∧ Undisturbed t e [entry]) := by
  constructor
  · rintro ⟨before, after, heq, hafter⟩
    rcases List.eq_nil_or_concat after with rfl | ⟨after, last, rfl⟩
    · exact Or.inl (List.singleton_inj.mp (List.append_inj' heq rfl).2)
    · rw [List.concat_eq_append, ← List.cons_append, ← List.append_assoc] at heq
      obtain ⟨rfl, hlast⟩ := List.append_inj' heq rfl
      rw [List.concat_eq_append, undisturbed_append, ← hlast] at hafter
      exact Or.inr ⟨⟨before, after, rfl, hafter.1⟩, hafter.2⟩
  · rintro (rfl | ⟨⟨before, after, rfl, hafter⟩, hentry⟩)
    · exact ⟨log, [], rfl, undisturbed_nil t e⟩
    · exact ⟨before, after ++ [entry], by simp, undisturbed_append.mpr ⟨hafter, hentry⟩⟩

/-- What is outstanding after some entries is one of them, or it was before. -/
lemma Outstanding.of_append {more : List Entry} (h : Outstanding (log ++ more) t e) :
    .routed t e ∈ more ∨ Outstanding log t e := by
  induction more using List.reverseRecOn with
  | nil => exact Or.inr (by simpa using h)
  | append_singleton more entry ih =>
      rw [← List.append_assoc, outstanding_concat] at h
      rcases h with rfl | ⟨hold, -⟩
      · exact Or.inl (by simp)
      · exact (ih hold).imp_left fun hmem => List.mem_append_left _ hmem

lemma target_eq_of_mem_routed {s : Target} {events : List WheelEvent}
    (h : .routed t e ∈ events.map (Entry.routed s)) : t = s := by
  obtain ⟨event, -, hrouted⟩ := List.mem_map.mp h
  cases hrouted
  rfl

/-- Events for one slot do not touch another. -/
lemma outstanding_append_routed {s : Target} (hslot : slot? s ≠ slot? t)
    (events : List WheelEvent) :
    Outstanding (log ++ events.map (.routed s)) t e ↔ Outstanding log t e := by
  induction events using List.reverseRecOn with
  | nil => simp
  | append_singleton events event ih =>
      have hne : s ≠ t := fun heq => hslot (congrArg slot? heq)
      have hkept : ¬ Displaces s event t e := fun hd => hslot hd.1
      rw [List.map_append, List.map_singleton, ← List.append_assoc, outstanding_concat,
        undisturbed_routed, ih]
      simp [hne, hkept]

/-! ## What a lane knows -/

namespace Lane

variable {l : Lane} {id : EventId}

@[simp] lemma slot?_target (l : Lane) : slot? l.target = some l.slot := rfl

/-- What a lane waits for, of the events that end a scroll and of the others. -/
def known? (l : Lane) (ended : Bool) : Option EventId := if ended then l.lastEnded else l.inFlight

lemma awaits_iff_known? : l.Awaits id ↔ ∃ ended, l.known? ended = some id := by
  simp [Awaits, known?, or_comm]

lemma known?_send (l : Lane) (event : WheelEvent) (ended : Bool) :
    (l.send event).known? ended
      = if event.isEnded = ended then some event.id else l.known? ended := by
  cases hended : event.isEnded <;> cases ended <;> simp [send, known?, hended]

/-- **A lane knows the outstanding events of its frame**, and nothing else. -/
def Records (l : Lane) (log : List Entry) : Prop :=
  ∀ ended id, l.known? ended = some id ↔
    ∃ e, Outstanding log l.target e ∧ e.isEnded = ended ∧ e.id = id

/-- An event for another slot. -/
lemma Records.elsewhere (h : l.Records log) {s : Target} (hslot : slot? s ≠ slot? l.target)
    (events : List WheelEvent) : l.Records (log ++ events.map (.routed s)) := by
  intro ended id
  simp only [outstanding_append_routed hslot]
  exact h ended id

/-- An acknowledgement takes its id out of what a lane knows, if it was there. -/
lemma Records.acknowledged (h : l.Records log) {l' : Lane} (htarget : l'.target = l.target)
    (hknown : ∀ ended other, l'.known? ended = some other
      ↔ l.known? ended = some other ∧ other ≠ id) :
    l'.Records (log ++ [.acknowledged id]) := by
  intro ended other
  rw [hknown, h ended other, htarget]
  simp only [outstanding_concat, undisturbed_acknowledged]
  constructor
  · rintro ⟨⟨e, hout, hended, rfl⟩, hne⟩
    exact ⟨e, Or.inr ⟨hout, hne⟩, hended, rfl⟩
  · rintro ⟨e, heq | ⟨hout, hne⟩, hended, rfl⟩
    · cases heq
    · exact ⟨⟨e, hout, hended, rfl⟩, hne⟩

/-- An acknowledgement for no event of the lane. -/
lemma Records.unknown (h : l.Records log) (hnot : ¬ l.Awaits id) :
    l.Records (log ++ [.acknowledged id]) := by
  refine h.acknowledged rfl fun ended other => ⟨fun hother => ⟨hother, ?_⟩, And.left⟩
  rintro rfl
  exact hnot (awaits_iff_known?.mpr ⟨ended, hother⟩)

/-- An event goes out while nothing holds it up. -/
lemma Records.send (h : l.Records log) (hidle : l.inFlight = none) (event : WheelEvent) :
    (l.send event).Records (log ++ [.routed l.target event]) := by
  -- Nothing is outstanding but the last event that ended a scroll.
  have hended : ∀ e, Outstanding log l.target e → e.isEnded = true := by
    intro e hout
    by_contra hopen
    rw [Bool.not_eq_true] at hopen
    have hknown := (h false e.id).mpr ⟨e, hout, hopen, rfl⟩
    simp [known?, hidle] at hknown
  intro ended id
  rw [known?_send, send_target]
  simp only [outstanding_concat, undisturbed_routed]
  split
  · rename_i hkind
    constructor
    · intro hid
      exact ⟨event, Or.inl rfl, hkind, Option.some.inj hid⟩
    · rintro ⟨e, heq | ⟨hout, hkept⟩, rfl, rfl⟩
      · cases heq
        rfl
      · exact absurd ⟨rfl, Or.inr ⟨hended e hout, hkind.trans (hended e hout)⟩⟩ hkept
  · rename_i hkind
    rw [h ended id]
    constructor
    · rintro ⟨e, hout, rfl, rfl⟩
      refine ⟨e, Or.inr ⟨hout, fun hd => ?_⟩, rfl, rfl⟩
      rcases hd.2 with hne | ⟨he, hevent⟩
      · exact hne rfl
      · exact hkind (hevent.trans he.symm)
    · rintro ⟨e, heq | ⟨hout, -⟩, rfl, rfl⟩
      · cases heq
        exact absurd rfl hkind
      · exact ⟨e, hout, rfl, rfl⟩

lemma Records.drain (h : l.Records log) (hidle : l.inFlight = none) (line : List WheelEvent) :
    (l.drain line).1.Records (log ++ (l.drain line).2.map (.routed l.target)) := by
  induction line generalizing log l with
  | nil => simpa [Lane.drain, Records, known?, Lane.target] using h
  | cons event rest ih =>
      have hsend := h.send hidle event
      cases hended : event.isEnded with
      | true =>
          have hstill : (l.send event).inFlight = none := by simp [Lane.send, hended, hidle]
          simpa [Lane.drain, hended, send_target] using ih hsend hstill
      | false => simpa [Lane.drain, hended, Records, known?, Lane.target] using hsend

lemma Records.submit (h : l.Records log) (event : WheelEvent) :
    (l.submit event).1.Records (log ++ (l.submit event).2.map (.routed l.target)) := by
  cases hin : l.inFlight with
  | none => simpa [Lane.submit, hin] using h.send hin event
  | some id => simpa [Lane.submit, hin, Records, known?, Lane.target] using h

/-- A lane takes an acknowledgement. -/
lemma Records.acknowledge (h : l.Records log) (hids : l.ids.Nodup) {l' : Lane}
    {sent : List WheelEvent} (hack : l.acknowledge? id = some (l', sent)) :
    l'.Records (log ++ .acknowledged id :: sent.map (.routed l.target)) := by
  unfold Lane.acknowledge? at hack
  split at hack
  · rename_i hlast
    cases hack
    -- The id is not that of the event on its way, since both are kept.
    have hother : l.inFlight ≠ some id := fun hin => by simp [Lane.ids, hlast, hin] at hids
    refine h.acknowledged rfl fun ended other => ?_
    cases ended with
    | true => simp [known?, hlast, eq_comm]
    | false =>
        refine ⟨fun hknown => ⟨hknown, ?_⟩, And.left⟩
        rintro rfl
        exact hother hknown
  · split at hack
    · rename_i hlast hin
      have hheard : Records { l with inFlight := none } (log ++ [.acknowledged id]) := by
        refine h.acknowledged rfl fun ended other => ?_
        cases ended with
        | false => simp [known?, hin, eq_comm]
        | true =>
            refine ⟨fun hknown => ⟨hknown, ?_⟩, And.left⟩
            rintro rfl
            exact hlast hknown
      have hdrain := hheard.drain rfl l.waiting
      rw [Option.some.inj hack] at hdrain
      simpa [Lane.target] using hdrain
    · cases hack

/-- A frame of which nothing is outstanding has a fresh lane. -/
lemma records_fresh {slot generation : Nat}
    (hnone : ∀ e, ¬ Outstanding log (.frame slot generation) e) :
    (fresh (.frame slot generation)).Records log := by
  intro ended id
  constructor
  · intro hknown
    cases ended <;> cases hknown
  · rintro ⟨e, hout, -⟩
    exact absurd hout (hnone e)

end Lane

/-! ## What all lanes know -/

/-- **The lanes keep a ledger of a log**: each knows the outstanding events of its frame, and no
other frame has any. -/
structure Ledger (f : Flow) (log : List Entry) : Prop where
  records : ∀ l ∈ f.lanes, l.Records log
  held : ∀ t e, Outstanding log t e → ∃ l ∈ f.lanes, l.target = t

namespace Ledger

variable {f : Flow}

lemma empty : Ledger {} [] :=
  ⟨by simp, fun _ _ hout => absurd hout not_outstanding_nil⟩

/-- Some entries change one lane, and the log of no other slot. -/
lemma replace (h : Ledger f log) {f' : Flow} {lane : Lane} {more : List Entry}
    (hmem : ∀ a, a ∈ f'.lanes ↔ a = lane ∨ (a ∈ f.lanes ∧ a.slot ≠ lane.slot))
    (hlane : lane.Records (log ++ more))
    (hothers : ∀ a ∈ f.lanes, a.slot ≠ lane.slot → a.Records (log ++ more))
    (hmore : ∀ t e, .routed t e ∈ more → t = lane.target)
    (hheld : ∀ t e, Outstanding (log ++ more) t e → slot? t = some lane.slot → t = lane.target) :
    Ledger f' (log ++ more) where
  records := by
    intro a ha
    rcases (hmem a).mp ha with rfl | ⟨ha, hslot⟩
    · exact hlane
    · exact hothers a ha hslot
  held := by
    intro t e hout
    by_cases hslot : slot? t = some lane.slot
    · exact ⟨lane, (hmem lane).mpr (Or.inl rfl), (hheld t e hout hslot).symm⟩
    · rcases hout.of_append with hrouted | hold
      · exact ⟨lane, (hmem lane).mpr (Or.inl rfl), (hmore t e hrouted).symm⟩
      · obtain ⟨a, ha, rfl⟩ := h.held t e hold
        exact ⟨a, (hmem a).mpr (Or.inr ⟨ha, fun hs => hslot (congrArg some hs)⟩), rfl⟩

/-- The lane that takes an event knows what is outstanding of its frame, new or not. -/
lemma records_laneOf (h : Ledger f log) (htidy : Flow.Tidy f.lanes) {target : Target}
    (hopen : (f.laneFor? target).isSome = true) : (f.laneOf target).Records log := by
  cases hlane : f.lane? target with
  | some l =>
      rw [Flow.laneOf_eq hlane]
      exact h.records l ((Flow.lane?_eq_some_iff htidy).mp hlane).1
  | none =>
      rw [Flow.laneOf, hlane]
      cases target with
      | null => simp [Flow.laneFor?] at hopen
      | frame slot generation =>
          refine Lane.records_fresh fun e hout => ?_
          obtain ⟨l, hl, ht⟩ := h.held _ e hout
          simp [(Flow.lane?_eq_some_iff htidy).mpr ⟨hl, ht⟩] at hlane

/-- After an event came for a frame, nothing is outstanding of others of its slot. -/
lemma target_eq_of_submit (h : Ledger f log) (hsteady : f.Steady) {target : Target}
    (hlane : (f.laneOf target).target = target) {event : WheelEvent}
    (hout : Outstanding (log ++ ((f.laneOf target).submit event).2.map (.routed target)) t e)
    (hslot : slot? t = slot? target) : t = target := by
  by_contra hne
  cases hin : (f.laneOf target).inFlight with
  | none =>
      -- The event goes out and displaces what was outstanding of other frames.
      simp only [Lane.submit, hin, List.map_cons, List.map_nil, outstanding_concat,
        undisturbed_routed] at hout
      rcases hout with hrouted | ⟨-, hkept⟩
      · cases hrouted
        exact hne rfl
      · exact hkept ⟨hslot.symm, Or.inl fun heq => hne heq.symm⟩
  | some id =>
      -- The lane is that of the slot, and so no other frame has one.
      simp only [Lane.submit, hin, List.map_nil, List.append_nil] at hout
      obtain ⟨a, ha, rfl⟩ := h.held t e hout
      rcases Flow.laneOf_cases hsteady.tidy target with hmem | hfresh
      · have hsame : a.slot = (f.laneOf target).slot := by
          rw [← hlane] at hslot
          exact Option.some.inj hslot
        rw [hsteady.tidy.eq_of_slot_eq ha hmem hsame] at hne
        exact hne hlane
      · rw [hfresh] at hin
        cases target <;> cases hin

/-- **A new event** for a frame that is not stale. -/
lemma submit (h : Ledger f log) (hsteady : f.Steady) {target : Target}
    (hopen : (f.laneFor? target).isSome = true) (event : WheelEvent) :
    Ledger (f.submit target event).1
      (log ++ (f.submit target event).2.map fun s => .routed s.1 s.2) := by
  rcases Flow.submit_cases hsteady.tidy target event with ⟨hnone, -⟩ | ⟨ht, heq⟩
  · simp [hnone] at hopen
  · have hlane : (f.laneOf target).target = target := (Lane.submit_target _ event).symm.trans ht
    have hslot : slot? target = some ((f.laneOf target).submit event).1.slot := by
      rw [← Lane.slot?_target, ht]
    have hrecords := (h.records_laneOf hsteady.tidy hopen).submit event
    rw [hlane] at hrecords
    rw [heq]
    simp only [List.map_map, Function.comp_def]
    refine h.replace (Flow.mem_put hsteady.tidy _) hrecords (fun a ha hne => ?_)
      (fun t e hmem => (target_eq_of_mem_routed hmem).trans ht.symm) fun t e hout ht' => ?_
    · exact (h.records a ha).elsewhere (by simpa [hslot] using hne.symm) _
    · exact (h.target_eq_of_submit hsteady hlane hout (ht'.trans hslot.symm)).trans ht.symm

/-- **An acknowledgement.** -/
lemma acknowledge (h : Ledger f log) (hsteady : f.Steady) (hids : f.ids.Nodup) (id : EventId) :
    Ledger (f.acknowledge id).1
      (log ++ .acknowledged id :: (f.acknowledge id).2.1.map fun s => .routed s.1 s.2) := by
  rcases Flow.acknowledge_cases hsteady.tidy id with ⟨heq, hnone⟩ |
    ⟨l, l', sent, hmem, hl, hsent, -, hiff⟩
  · rw [heq]
    refine ⟨fun a ha => ?_, fun t e hout => ?_⟩
    · exact (h.records a ha).unknown (Lane.acknowledge?_eq_none_iff.mp (hnone a ha))
    · rcases hout.of_append with hrouted | hold
      · simp at hrouted
      · exact h.held t e hold
  · have ht := Lane.acknowledge?_target hl
    have hslot : l'.slot = l.slot := Lane.slot_eq_of_target_eq ht
    have hawaits : l.Awaits id := by
      by_contra hnot
      simp [Lane.acknowledge?_eq_none_iff.mpr hnot] at hl
    have hlane := (h.records l hmem).acknowledge ((List.nodup_flatMap.mp hids).1 l hmem) hl
    rw [hsent]
    simp only [List.map_map, Function.comp_def]
    rw [← ht] at hlane
    have hmore : ∀ t e, Entry.routed t e ∈ .acknowledged id :: sent.map (.routed l'.target) →
        t = l'.target := by
      intro t e hmem
      rcases List.mem_cons.mp hmem with hack | hmem
      · cases hack
      · exact target_eq_of_mem_routed hmem
    refine h.replace (fun a => hslot.symm ▸ hiff a) hlane (fun a ha hne => ?_) hmore
      fun t e hout ht' => ?_
    · -- The id belongs to one lane.
      have hnot : ¬ a.Awaits id := fun hawaits' => hne <| by
        rw [Flow.eq_of_mem_ids hids ha hmem hawaits'.mem_ids hawaits.mem_ids, hslot]
      rw [List.append_cons]
      exact ((h.records a ha).unknown hnot).elsewhere (by simpa using hne.symm) sent
    · rcases hout.of_append with hrouted | hold
      · exact hmore t e hrouted
      · obtain ⟨a, ha, rfl⟩ := h.held t e hold
        rw [hsteady.tidy.eq_of_slot_eq ha hmem ((Option.some.inj ht').trans hslot), ht]

lemma exists_awaits_iff (h : Ledger f log) (id : EventId) :
    (∃ l ∈ f.lanes, l.Awaits id) ↔ ∃ t e, Outstanding log t e ∧ e.id = id := by
  constructor
  · rintro ⟨l, hl, hawaits⟩
    obtain ⟨ended, hknown⟩ := Lane.awaits_iff_known?.mp hawaits
    obtain ⟨e, hout, -, hid⟩ := (h.records l hl ended id).mp hknown
    exact ⟨l.target, e, hout, hid⟩
  · rintro ⟨t, e, hout, hid⟩
    obtain ⟨l, hl, rfl⟩ := h.held t e hout
    have hknown := (h.records l hl e.isEnded id).mpr ⟨e, hout, rfl, hid⟩
    exact ⟨l, hl, Lane.awaits_iff_known?.mpr ⟨e.isEnded, hknown⟩⟩

end Ledger

/-- An acknowledgement is recognized if a lane awaits it. -/
lemma Flow.acknowledge_recognized_iff (f : Flow) (id : EventId) :
    (f.acknowledge id).2.2 = true ↔ ∃ l ∈ f.lanes, l.Awaits id := by
  rcases f.acknowledge_split id with ⟨hnone, heq⟩ | ⟨before, l, after, l', sent, hlanes, hawaits, -,
    heq⟩
  · rw [heq]
    simpa using hnone
  · rw [heq]
    exact iff_of_true rfl ⟨l, by simp [hlanes], hawaits⟩

/-! ## Runs -/

/-- **No event of a run is for a stale frame**: its slot belongs to no later frame when it comes. -/
def NoneStale (calls : List Call) : Prop :=
  ∀ before t event, before ++ [.submit t event] <+: calls →
    ((history before).flow.laneFor? t).isSome = true

/-- The events of a run are the last calls of its beginnings. -/
instance (calls : List Call) : Decidable (NoneStale calls) :=
  decidable_of_iff (∀ before ∈ calls.inits, ∀ s ∈ before.getLast?.bind Call.submitted?,
      ((history before.dropLast).flow.laneFor? s.1).isSome = true) <| by
    constructor
    · intro h before t event hbegins
      simpa using h _ ((List.mem_inits _ _).mpr hbegins) (t, event) (by simp [Call.submitted?])
    · rintro h before hbefore ⟨t, event⟩ hlast
      obtain ⟨call, hcall, hsubmitted⟩ := Option.bind_eq_some_iff.mp hlast
      have hsplit := List.dropLast_append_getLast? call hcall
      cases call with
      | acknowledge id => cases hsubmitted
      | submit t event =>
          cases hsubmitted
          exact h _ t event (hsplit.symm ▸ (List.mem_inits _ _).mp hbefore)

lemma NoneStale.of_concat {calls : List Call} {call : Call} (h : NoneStale (calls ++ [call])) :
    NoneStale calls :=
  fun before t event hbegins => h before t event (hbegins.trans (List.prefix_append calls [call]))

lemma allIds_submit (calls : List Call) (t : Target) (event : WheelEvent) :
    allIds (calls ++ [.submit t event]) = allIds calls ++ [event.id] := by
  simp [allIds, Call.submitted?]

lemma allIds_acknowledge (calls : List Call) (id : EventId) :
    allIds (calls ++ [.acknowledge id]) = allIds calls := by
  simp [allIds, Call.submitted?]

lemma steady_history (calls : List Call) :
    (history calls).flow.Steady ∧ (history calls).flow.ids.Subperm (allIds calls) := by
  induction calls using List.reverseRecOn with
  | nil => exact ⟨Flow.steady_empty, List.nil_subperm⟩
  | append_singleton calls call ih =>
      obtain ⟨hsteady, hsub⟩ := ih
      rw [history_concat]
      cases call with
      | submit t event =>
          obtain ⟨hsteady', hsub'⟩ := hsteady.submit t event
          rw [allIds_submit]
          exact ⟨hsteady', hsub'.trans ((List.subperm_append_right [event.id]).mpr hsub)⟩
      | acknowledge id =>
          rw [allIds_acknowledge]
          rcases hsteady.acknowledge id with ⟨-, heq⟩ | ⟨-, hsteady', hsub'⟩
          · simp only [History.next, heq]
            exact ⟨hsteady, hsub⟩
          · exact ⟨hsteady', ((List.sublist_cons_self id _).subperm.trans hsub').trans hsub⟩

lemma ledger_history {calls : List Call} (hids : (allIds calls).Nodup) (hstale : NoneStale calls) :
    Ledger (history calls).flow (history calls).log := by
  induction calls using List.reverseRecOn with
  | nil => exact .empty
  | append_singleton calls call ih =>
      obtain ⟨hsteady, hsub⟩ := steady_history calls
      rw [history_concat]
      cases call with
      | submit t event =>
          rw [allIds_submit] at hids
          exact (ih hids.of_append_left hstale.of_concat).submit hsteady
            (hstale calls t event (List.prefix_refl _)) event
      | acknowledge id =>
          rw [allIds_acknowledge] at hids
          have hkept : (history calls).flow.ids.Nodup := by
            obtain ⟨ids, hperm, hsublist⟩ := hsub
            exact hperm.nodup_iff.mp (hids.sublist hsublist)
          exact (ih hids hstale.of_concat).acknowledge hsteady hkept id

/-! ## No id goes out twice -/

/-- The ids of the events of a log that went out. -/
def sentIds (log : List Entry) : List EventId :=
  log.filterMap fun
    | .routed _ event => some event.id
    | .acknowledged _ => none

lemma sentIds_append (more : List Entry) : sentIds (log ++ more) = sentIds log ++ sentIds more :=
  List.filterMap_append

@[simp] lemma sentIds_routed (t : Target) (event : WheelEvent) (log : List Entry) :
    sentIds (.routed t event :: log) = event.id :: sentIds log := rfl

@[simp] lemma sentIds_acknowledged (id : EventId) (log : List Entry) :
    sentIds (.acknowledged id :: log) = sentIds log := rfl

lemma sentIds_map_routed (sent : List Sent) :
    sentIds (sent.map fun s => .routed s.1 s.2) = sent.map (·.2.id) := by
  induction sent with
  | nil => rfl
  | cons s rest ih => rw [List.map_cons, sentIds_routed, ih, List.map_cons]

lemma mem_sentIds {event : WheelEvent} (h : .routed t event ∈ log) : event.id ∈ sentIds log :=
  List.mem_filterMap.mpr ⟨_, h, rfl⟩

lemma sentIds_history (calls : List Call) :
    (sentIds (history calls).log ++ (history calls).flow.waitingIds).Subperm (allIds calls) := by
  induction calls using List.reverseRecOn with
  | nil => exact List.nil_subperm
  | append_singleton calls call ih =>
      obtain ⟨hsteady, -⟩ := steady_history calls
      rw [history_concat]
      cases call with
      | submit t event =>
          have hnew := hsteady.submit_waitingIds t event
          simp only [History.next, sentIds_append, sentIds_map_routed, allIds_submit,
            List.append_assoc]
          refine ((List.subperm_append_left _).mpr hnew).trans ?_
          rw [← List.append_assoc]
          exact (List.subperm_append_right [event.id]).mpr ih
      | acknowledge id =>
          have hsame := (history calls).flow.acknowledge_waitingIds id
          simp only [History.next, sentIds_append, sentIds_acknowledged, sentIds_map_routed,
            allIds_acknowledge, List.append_assoc]
          exact ((hsame.append_left _).subperm).trans ih

lemma nodup_sentIds {calls : List Call} (hids : (allIds calls).Nodup) :
    (sentIds (history calls).log).Nodup := by
  obtain ⟨ids, hperm, hsublist⟩ := sentIds_history calls
  exact (hperm.nodup_iff.mp (hids.sublist hsublist)).of_append_left

/-- What goes out later has another id. -/
lemma id_ne_of_later {before after : List Entry}
    (hids : (sentIds (before ++ .routed t e :: after)).Nodup) {t' : Target} {e' : WheelEvent}
    (hlater : .routed t' e' ∈ after) : e'.id ≠ e.id := by
  rw [sentIds_append, sentIds_routed] at hids
  intro heq
  exact (List.nodup_cons.mp hids.of_append_right).1 (heq ▸ mem_sentIds hlater)

/-- An id goes out at one place of the log. -/
lemma after_eq_of_id_eq {before after before' after' : List Entry}
    (hids : (sentIds (before ++ .routed t e :: after)).Nodup) {t' : Target} {e' : WheelEvent}
    (heq : before ++ .routed t e :: after = before' ++ .routed t' e' :: after')
    (hid : e'.id = e.id) : t' = t ∧ e' = e ∧ after' = after := by
  rcases List.append_eq_append_iff.mp heq with ⟨between, rfl, hsplit⟩ | ⟨between, rfl, hsplit⟩
  · cases between with
    | nil =>
        cases hsplit
        exact ⟨rfl, rfl, rfl⟩
    | cons entry between =>
        obtain ⟨-, rfl⟩ := List.cons.inj hsplit
        have hlater : .routed t' e' ∈ between ++ .routed t' e' :: after' := by simp
        exact absurd hid (id_ne_of_later hids hlater)
  · cases between with
    | nil =>
        cases hsplit
        exact ⟨rfl, rfl, rfl⟩
    | cons entry between =>
        obtain ⟨-, rfl⟩ := List.cons.inj hsplit
        have hlater : .routed t e ∈ between ++ .routed t e :: after := by simp
        rw [heq] at hids
        exact absurd hid.symm (id_ne_of_later hids hlater)

lemma outstanding_iff_undisturbed {before after : List Entry}
    (hids : (sentIds (before ++ .routed t e :: after)).Nodup) :
    (∃ t' e', Outstanding (before ++ .routed t e :: after) t' e' ∧ e'.id = e.id)
      ↔ Undisturbed t e after := by
  constructor
  · rintro ⟨t', e', ⟨before', after', heq, hafter⟩, hid⟩
    obtain ⟨rfl, rfl, rfl⟩ := after_eq_of_id_eq hids heq hid
    exact hafter
  · intro hafter
    exact ⟨t, e, ⟨before, after, rfl, hafter⟩, rfl⟩

/-- **Which acknowledgements are recognized.**  With distinct ids, and with no event for a stale
frame: the acknowledgement of an event that went out is recognized exactly if it is the first, and
no event went out since that displaces it.  So it is missed if another event of the frame ended a
scroll after this one did, or if the slot went to another frame.  No other acknowledgement is
recognized. -/
theorem recognized_iff_undisturbed {calls : List Call} (hids : (allIds calls).Nodup)
    (hstale : NoneStale calls) :
    (∀ before t e after, (history calls).log = before ++ .routed t e :: after →
      (((history calls).flow.acknowledge e.id).2.2 = true ↔ Undisturbed t e after)) ∧
    (∀ id, (∀ t e, .routed t e ∈ (history calls).log → e.id ≠ id) →
      ((history calls).flow.acknowledge id).2.2 = false) := by
  have hledger := ledger_history hids hstale
  have hsent := nodup_sentIds hids
  refine ⟨fun before t e after heq => ?_, fun id hnever => ?_⟩
  · rw [Flow.acknowledge_recognized_iff, hledger.exists_awaits_iff, heq]
    exact outstanding_iff_undisturbed (heq ▸ hsent)
  · rw [← Bool.not_eq_true, Flow.acknowledge_recognized_iff, hledger.exists_awaits_iff]
    rintro ⟨t, e, ⟨before, after, heq, -⟩, hid⟩
    exact hnever t e (by simp [heq]) hid

/-- Two scrolls end before the end of the first is acknowledged, and one more is merged away.  A
slot goes to another frame. -/
def quickScrolls : List Call :=
  [.submit (.frame 1 1) (turn 1 .began), .submit (.frame 1 1) (turn 2 .ended),
   .submit (.frame 1 1) (turn 3 .ended), .submit (.frame 1 1) (turn 4 .changed),
   .submit (.frame 2 1) (turn 5 .changed), .submit (.frame 1 1) (turn 6 .ended),
   .acknowledge 1, .acknowledge 4, .submit (.frame 2 3) (turn 7 .changed)]

theorem recognized_iff_undisturbed_quickScrolls :
    (allIds quickScrolls).Nodup ∧ NoneStale quickScrolls ∧
    ((history quickScrolls).flow.acknowledge 6).2.2 = true ∧
    ((history quickScrolls).flow.acknowledge 2).2.2 = false ∧
    ((history quickScrolls).flow.acknowledge 3).2.2 = false ∧
    ((history quickScrolls).flow.acknowledge 5).2.2 = false := by
  have hids : (allIds quickScrolls).Nodup := by decide
  have hstale : NoneStale quickScrolls := by decide
  obtain ⟨hsent, hnever⟩ := recognized_iff_undisturbed hids hstale
  have hlog : (history quickScrolls).log
      = [.routed (.frame 1 1) (turn 1 .began), .routed (.frame 2 1) (turn 5 .changed),
         .acknowledged 1, .routed (.frame 1 1) (merge (turn 2 .ended) (turn 3 .ended)),
         .routed (.frame 1 1) (turn 4 .changed), .acknowledged 4,
         .routed (.frame 1 1) (turn 6 .ended), .routed (.frame 2 3) (turn 7 .changed)] := by
    decide
  have hlater := hsent ((history quickScrolls).log.take 6) (.frame 1 1) (turn 6 .ended) _ hlog
  have hearlier := hsent ((history quickScrolls).log.take 3) (.frame 1 1)
    (merge (turn 2 .ended) (turn 3 .ended)) _ hlog
  have htaken := hsent ((history quickScrolls).log.take 1) (.frame 2 1) (turn 5 .changed) _ hlog
  have hmerged : 3 ∉ sentIds (history quickScrolls).log := by decide
  refine ⟨hids, hstale, hlater.mpr (by decide), ?_, hnever 3 fun t e hmem hid => ?_, ?_⟩
  · exact Bool.eq_false_iff.mpr (hearlier.not.mpr (by decide))
  · exact hmerged (hid ▸ mem_sentIds hmem)
  · exact Bool.eq_false_iff.mpr (htaken.not.mpr (by decide))

/-- **The second end hides the first.**  Two events end a scroll of one frame and both go out, since
neither holds up anything.  Only the acknowledgement of the second is recognized. -/
theorem second_end_hides_first :
    let ends := history
      [.submit (.frame 1 1) (turn 1 .ended), .submit (.frame 1 1) (turn 2 .ended)]
    ends.log = [.routed (.frame 1 1) (turn 1 .ended), .routed (.frame 1 1) (turn 2 .ended)] ∧
    (ends.flow.acknowledge 1).2.2 = false ∧ (ends.flow.acknowledge 2).2.2 = true := by
  decide

end ViewInput.Wheel
