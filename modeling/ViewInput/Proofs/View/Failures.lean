import ViewInput.Proofs.Touch.Assignment
import ViewInput.Proofs.Touch.Identities
import ViewInput.Proofs.View.Runs

/-!
# Touch batches that fail

A batch fails for want of slots, and a view notices that late: the focus is asked for, what was being
composed is finished, the clock is read, and some fingers of the batch are bound.  **What a failed
batch leaves behind** is just the part of this that comes before the fingers (`View.Failed`).  The
slots take back what they gave, and no other part of the view has been reached.

Whether a batch fails is a matter of counting fingers, since the slots are valid at any time of a run
(`View.valid_slots_after`).  `View.failed_batch_leaves` says both for every run, and of a batch that
does not fail, that it frees the fingers that it lists as released, unless the view skips it.
-/

namespace ViewInput

open Device (TouchBatch TouchPoint)
open Touch (maxFingers)
open Touch.Slots (fingersOf releasedFingers)

/-! ## What a batch does to the slots -/

namespace Touch.Tracker

variable {t : Tracker} {offer : Offer} {q : Sequenced}

/-- A batch is answered just if the slots bind its fingers. -/
lemma answer_eq_error_iff_bindAll {e : InputError} :
    t.answer offer = .error e ↔ t.slots.bindAll offer.batch.points = .error e := by
  have haccount := account_eq t offer
  simp only [account, Roster.take, roster, Slots.bindBatch] at haccount
  cases hans : t.answer offer <;> cases hall : t.slots.bindAll offer.batch.points <;>
    simp_all

/-- **A batch fails** just if the fingers that it names and those that are bound are too many. -/
lemma answer_eq_error_iff (h : t.slots.Valid) {e : InputError} :
    t.answer offer = .error e ↔ e = .tooManyTouches maxFingers ∧
      maxFingers < (t.slots.fingers ++ fingersOf offer.batch.points).toFinset.card := by
  rw [answer_eq_error_iff_bindAll]
  constructor
  · intro hall
    refine ⟨Slots.eq_of_bindAll_eq_error h hall, Nat.lt_of_not_le fun hfew => ?_⟩
    obtain ⟨contacts, mid, hbound, -⟩ := Slots.bindAll_spec h offer.batch.points hfew
    simp [hall] at hbound
  · rintro ⟨rfl, hmany⟩
    exact Slots.bindAll_of_lt h hmany

/-- A batch that is answered binds all its fingers, and then frees those that it releases and, if it
cancels, some more. -/
lemma exists_freed_of_answer (hans : t.answer offer = .ok q) :
    ∃ contacts mid freed, t.slots.bindAll offer.batch.points = .ok (contacts, mid) ∧
      q.tracker.slots = (mid.releaseAll (releasedFingers offer.batch.points)).releaseAll freed := by
  have haccount := account_eq t offer
  simp only [account, hans, Roster.take, roster, Slots.bindBatch] at haccount
  cases hall : t.slots.bindAll offer.batch.points with
  | error e => simp [hall] at haccount
  | ok bound =>
      obtain ⟨contacts, mid⟩ := bound
      rw [hall] at haccount
      have hslots := congrArg (fun a => a.roster.slots) (Except.ok.inj haccount)
      simp only at hslots
      rw [hslots]
      split
      · exact ⟨contacts, mid, _, rfl, rfl⟩
      · exact ⟨contacts, mid, [], rfl, rfl⟩

lemma valid_of_answer (h : t.slots.Valid) (hans : t.answer offer = .ok q) :
    q.tracker.slots.Valid := by
  obtain ⟨contacts, mid, freed, hall, hslots⟩ := exists_freed_of_answer hans
  rw [hslots]
  exact Slots.valid_releaseAll (Slots.valid_releaseAll (Slots.bindAll_bound h hall).valid _) _

/-- **A finger that a batch lists as released** is free afterwards, however else it is listed. -/
lemma not_mem_fingers_of_released (h : t.slots.Valid) (hans : t.answer offer = .ok q)
    {p : TouchPoint} (hp : p ∈ offer.batch.points) (hreleased : p.state = .released) :
    p.finger ∉ q.tracker.slots.fingers := by
  obtain ⟨contacts, mid, freed, hall, hslots⟩ := exists_freed_of_answer hans
  have hmid := (Slots.bindAll_bound h hall).valid
  have hfreed : p.finger ∈ releasedFingers offer.batch.points :=
    List.mem_map.mpr ⟨p, List.mem_filter.mpr ⟨hp, by simpa using hreleased⟩, rfl⟩
  rw [hslots, Slots.mem_fingers_releaseAll (Slots.valid_releaseAll hmid _),
    Slots.mem_fingers_releaseAll hmid]
  exact fun hmem => hmem.1.2 hfreed

end Touch.Tracker

/-! ## Before the fingers are bound -/

lemma Clock.read_fst (c : Clock) (now stamp : Nat) :
    (c.read now stamp).1 = if stamp ≠ 0 ∧ c.anchor = none
      then { anchor := some (stamp, now) } else c := by
  unfold read
  by_cases hstamp : stamp = 0
  · simp [hstamp]
  · cases hanchor : c.anchor <;> simp [hstamp]

namespace Composition

variable {c : Composition} (platform : Platform)

lemma pointerDown_of_active (h : c.isActive = true) :
    c.pointerDown platform
      = (.idle, [if platform = .windows then .askReset else .askCommit]) := by
  unfold pointerDown
  rw [if_pos h]
  cases platform <;> rfl

lemma pointerDown_of_not_active (h : c.isActive = false) : c.pointerDown platform = (c, []) := by
  unfold pointerDown
  rw [if_neg (by simp [h])]

end Composition

namespace View

/-! ## The slots in a run -/

lemma acknowledge_slots (v : View) (id : Page.EventId) :
    (v.acknowledge id).view.touch.slots = v.touch.slots := by
  unfold acknowledge
  simp only
  split
  · rfl
  · rcases v.touch.acknowledge_cases id with ⟨-, heq⟩ | ⟨older, newer, -, heq⟩ <;> simp [heq]

lemma valid_slots_take {v : View} (h : v.touch.slots.Valid) (t : Turn) :
    (v.take t).view.touch.slots.Valid := by
  cases v.course_take t with
  | aside _ _ ho => exact ho.kept.touch ▸ h
  | press _ _ ho => exact ho.kept.touch ▸ h
  | wheel _ _ target event _ ho => exact ho.kept.touch ▸ h
  | touch _ batch q htaken ho =>
      rw [ho.kept.touch]
      exact Touch.Tracker.valid_of_answer h (v.taken?_eq_some_iff.mp htaken).2.2
  | acknowledged _ _ id ho => exact ho ▸ (acknowledge_slots v id).symm ▸ h
  | menu _ _ ho => exact ho.kept.touch ▸ h
  | reset _ ho => exact ho ▸ Touch.Slots.valid_empty

/-- **The slots are valid at any time of a run.** -/
lemma valid_slots_after (settings : Settings) (turns : List Turn) :
    (after settings turns).touch.slots.Valid := by
  induction turns using List.reverseRecOn with
  | nil => exact Touch.Slots.valid_empty
  | append_singleton turns t ih =>
      rw [after_concat]
      exact valid_slots_take ih t

/-! ## What a failed batch leaves behind -/

/-- **What a batch that fails leaves behind.** -/
structure Failed (v : View) (now : Nat) (batch : TouchBatch) (o : Outcome) : Prop where
  answer : o.answer = .error (.tooManyTouches maxFingers)
  /-- The slots, where they are kept in place, take back what they gave. -/
  undone : v.touch.slots.takeBatch batch.points
    = (.error (.tooManyTouches maxFingers), v.touch.slots)
  /-- Only what is being composed and the clock may differ. -/
  same : o.view = { v with composition := o.view.composition, clock := o.view.clock }
  /-- The page, the selection controller and the menu hear nothing. -/
  unheard : ∀ effect ∈ o.effects, effect.event? = none ∧ effect.menu? = none
  /-- A touch that begins asks for the focus, and ends what is being composed. -/
  composing : batch.kind = .began → v.composition.isActive = true →
    o.view.composition = .idle ∧ o.effects = [.focus, .composition
      (if v.settings.platform = .windows then .askReset else .askCommit)]
  notComposing : batch.kind = .began → v.composition.isActive = false →
    o.view.composition = v.composition ∧ o.effects = [.focus]
  goesOn : batch.kind ≠ .began → o.view.composition = v.composition ∧ o.effects = []
  /-- The first stamp of all sets the clock. -/
  clock : o.view.clock = if batch.timestamp ≠ 0 ∧ v.clock.anchor = none
    then { anchor := some (batch.timestamp, now) } else v.clock

section Parts

variable (v : View) (s : Surroundings) (now : Nat) {batch : TouchBatch}

/-- What is composed, and what is done, once a batch is taken up and before its fingers are bound. -/
def takeUp (kind : Device.TouchKind) : Composition × List Effect :=
  if kind = .began then
    let (composition, finished) := v.composition.pointerDown v.settings.platform
    (composition, .focus :: finished.map .composition)
  else (v.composition, [])

lemma takeUp_of_active (hactive : v.composition.isActive = true) : v.takeUp .began =
    (.idle, [.focus, .composition
      (if v.settings.platform = .windows then .askReset else .askCommit)]) := by
  simp only [takeUp, if_true, Composition.pointerDown_of_active _ hactive]
  rfl

lemma takeUp_of_not_active (hactive : v.composition.isActive = false) :
    v.takeUp .began = (v.composition, [.focus]) := by
  simp only [takeUp, if_true, Composition.pointerDown_of_not_active _ hactive]
  rfl

lemma takeUp_of_not_began {kind : Device.TouchKind} (hkind : kind ≠ .began) :
    v.takeUp kind = (v.composition, []) :=
  if_neg hkind

/-- As a batch is taken up, the page, the selection controller and the menu hear nothing. -/
lemma unheard_takeUp (kind : Device.TouchKind) :
    ∀ effect ∈ (v.takeUp kind).2, effect.event? = none ∧ effect.menu? = none := by
  unfold takeUp
  split
  · simp [Effect.event?, Effect.menu?]
  · simp

/-- A batch for which there are no slots goes no further than that. -/
lemma touchBatch_of_error {e : InputError} (hskip : v.skipsTouch batch = false)
    (hans : v.touch.answer (v.offerOf s now batch) = .error e) :
    v.touchBatch s now batch =
      { view :=
          { v with
            composition := (v.takeUp batch.kind).1
            clock := (v.clock.read now batch.timestamp).1 }
        effects := (v.takeUp batch.kind).2
        answer := .error e } := by
  have hsequence : v.touch.sequence batch (v.settings.pageModifiers batch.modifiers .none)
      (v.clock.read now batch.timestamp).2 s.claimsTouch v.nextId = .error e := hans
  by_cases hbegan : batch.kind = .began <;>
    simp only [touchBatch, takeUp, hskip, hbegan, finishComposition, readClock, hsequence,
      Bool.false_eq_true, if_false, if_true]

/-- A batch for which there are no slots is a failed one. -/
lemma failed_touchBatch (h : v.touch.slots.Valid) {e : InputError}
    (hskip : v.skipsTouch batch = false)
    (hans : v.touch.answer (v.offerOf s now batch) = .error e) :
    v.Failed now batch (v.touchBatch s now batch) := by
  obtain rfl := ((Touch.Tracker.answer_eq_error_iff h).mp hans).1
  have hall : v.touch.slots.bindAll batch.points = .error (.tooManyTouches maxFingers) :=
    Touch.Tracker.answer_eq_error_iff_bindAll.mp hans
  rw [touchBatch_of_error v s now hskip hans]
  exact
    { answer := rfl
      undone := by rw [Touch.Slots.takeBatch_eq h, Touch.Slots.bindBatch, hall]
      same := rfl
      unheard := v.unheard_takeUp batch.kind
      composing := fun hbegan hactive => by simp [hbegan, v.takeUp_of_active hactive]
      notComposing := fun hbegan hidle => by simp [hbegan, v.takeUp_of_not_active hidle]
      goesOn := fun hother => by simp [v.takeUp_of_not_began hother]
      clock := v.clock.read_fst now batch.timestamp }

end Parts

/-! ## Runs -/

/-- **A touch batch that fails has no touch effects.**  At any time of a run a batch fails exactly
if the view does not skip it and the fingers that are bound and those that it names are more than
sixteen.  The error then says so, and of the view and the world all is as before but for what
`Failed` allows.

Of the other batches, one that the view skips changes nothing at all, and any other one frees the
fingers that it lists as released. -/
theorem failed_batch_leaves (settings : Settings) (turns : List Turn) (s : Surroundings)
    (now : Nat) (batch : TouchBatch) :
    let v := after settings turns
    let o := v.touchBatch s now batch
    let named := (v.touch.slots.fingers ++ fingersOf batch.points).toFinset
    ((∃ e, o.answer = .error e) ↔ v.skipsTouch batch = false ∧ maxFingers < named.card) ∧
    (∀ e, o.answer = .error e → v.Failed now batch o) ∧
    (v.skipsTouch batch = true → o = { view := v }) ∧
    ∀ accepted, o.answer = .ok accepted → v.skipsTouch batch = false →
      ∀ p ∈ batch.points, p.state = .released → p.finger ∉ o.view.touch.slots.fingers := by
  intro v o named
  have hvalid : v.touch.slots.Valid := valid_slots_after settings turns
  cases hskip : v.skipsTouch batch with
  | true =>
      have ho : o = { view := v } := v.touchBatch_eq_of_skips s now hskip
      simp [ho]
  | false =>
      cases hans : v.touch.answer (v.offerOf s now batch) with
      | error e =>
          have hfailed : v.Failed now batch o := v.failed_touchBatch s now hvalid hskip hans
          have hmany := ((Touch.Tracker.answer_eq_error_iff hvalid).mp hans).2
          refine ⟨⟨fun _ => ⟨rfl, hmany⟩, fun _ => ⟨_, hfailed.answer⟩⟩, fun _ _ => hfailed,
            nofun, fun accepted hok => ?_⟩
          cases hfailed.answer.symm.trans hok
      | ok q =>
          have hanswered := v.answered_touchBatch s now hskip hans
          have hok : o.answer = .ok true := hanswered.answer
          have hfew : ¬ maxFingers < named.card := fun hmany => by
            cases hans.symm.trans ((Touch.Tracker.answer_eq_error_iff hvalid).mpr ⟨rfl, hmany⟩)
          refine ⟨⟨fun ⟨e, herror⟩ => ?_, fun hmany => absurd hmany.2 hfew⟩, fun e herror => ?_,
            nofun, fun _ _ _ p hp hreleased => ?_⟩
          · cases hok.symm.trans herror
          · cases hok.symm.trans herror
          · rw [hanswered.kept.touch]
            exact Touch.Tracker.not_mem_fingers_of_released hvalid hans hp hreleased

/-- On Windows, two fingers are down and something is composed. -/
def composingByTouch : List Turn :=
  [touches .began [Touch.pointAt 1 .pressed, Touch.pointAt 2 .pressed] false,
   quietly (.device (.inputMethod { preedit := "k" }))]

/-- A new touch by sixteen fingers, one of which was down already, at a time on the clock. -/
def handfuls : TouchBatch :=
  { kind := .began
    points := (List.range 16).map fun n => Touch.pointAt (n + 2) .pressed
    timestamp := 5 }

/-- One of the two fingers goes up. -/
def oneLifts : TouchBatch :=
  { kind := .updated, points := [Touch.pointAt 1 .released, Touch.pointAt 2 .stationary] }

theorem failed_batch_leaves_handfuls :
    let v := after { platform := .windows } composingByTouch
    v.Failed 3 handfuls (v.touchBatch quietScene 3 handfuls) ∧
    (v.touchBatch quietScene 3 handfuls).effects = [.focus, .composition .askReset] ∧
    (v.touchBatch quietScene 3 handfuls).view.clock = { anchor := some (5, 3) } ∧
    1 ∈ v.touch.slots.fingers ∧
    1 ∉ (v.touchBatch quietScene 3 oneLifts).view.touch.slots.fingers := by
  intro v
  obtain ⟨hfails, hfailed, -, -⟩ :=
    failed_batch_leaves { platform := .windows } composingByTouch quietScene 3 handfuls
  obtain ⟨-, -, -, hfrees⟩ :=
    failed_batch_leaves { platform := .windows } composingByTouch quietScene 3 oneLifts
  obtain ⟨e, herror⟩ := hfails.mpr (by decide)
  have hleft := hfailed e herror
  have hactive : v.composition.isActive = true := by decide
  have hunset : handfuls.timestamp ≠ 0 ∧ v.clock.anchor = none := by decide
  have hclock : (v.touchBatch quietScene 3 handfuls).view.clock = { anchor := some (5, 3) } := by
    rw [hleft.clock, if_pos hunset]
    rfl
  exact ⟨hleft, (hleft.composing rfl hactive).2, hclock, by decide, hfrees true rfl rfl
    (Touch.pointAt 1 .released) (List.mem_cons_self ..) rfl⟩

/-- On macOS, a finger goes down in a batch that was synthesized, and is not skipped. -/
def synthesizedTouch : List Turn :=
  [quietly (.device (.touch
    { kind := .began, points := [Touch.pointAt 1 .pressed], spontaneous := false }))]

/-- **A batch that is skipped frees no finger**, though it does not fail: on macOS the windowing
system lifts the finger, and it stays bound. -/
theorem skipped_lift_stays_bound :
    let lift : TouchBatch := { kind := .ended, points := [Touch.pointAt 1 .released] }
    let v := after { platform := .macos } synthesizedTouch
    (v.touchBatch quietScene 0 lift).answer = .ok true ∧
    (∃ p ∈ lift.points, p.state = .released ∧ p.finger = 1) ∧
    1 ∈ (v.touchBatch quietScene 0 lift).view.touch.slots.fingers := by
  exact ⟨rfl, ⟨_, List.mem_cons_self .., rfl, rfl⟩, by decide⟩

end View

end ViewInput
