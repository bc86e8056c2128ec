import ViewInput.Proofs.Touch.Groups

/-!
# From single fingers to motion events

Two machines stand between a finger and the page: the reports of single fingers are grouped into
batches, and the batches become motion events.  If every finger goes down, moves and goes up in
turn (`Obeys`), then **the page hears of just that** (`reports_story`): one event for each finger
that goes down and one for each that goes up, wherever the deliveries stand.

The invariant of the first machine is `Gathers`: its groups lead one after another from the fingers
that the page knows to be down to those that are.
-/

namespace ViewInput.Touch

open Device (TouchBatch TouchPoint TouchState)
open Slots (fingersOf)

/-! ## Runs of the grouping -/

/-- What a windowing system does with the grouping. -/
inductive Input where
  | report (finger : Int) (phase : FingerPhase) (position : Point) (pressure : Option Float32)
  | deliver (timestamp : Nat)

namespace Input

def isDelivery : Input → Bool
  | .report .. => false
  | .deliver _ => true

def isStart : Input → Bool
  | .report _ .started _ _ => true
  | _ => false

def isEnd : Input → Bool
  | .report _ .ended _ _ => true
  | _ => false

/-- The finger that goes down or up. -/
def deed? : Input → Option Deed
  | .report finger .started _ _ => some (.press finger)
  | .report finger .ended _ _ => some (.lift finger)
  | _ => none

end Input

/-- What follows the first input of a run that ends with a delivery ends with one, unless that input
is the delivery. -/
lemma isDelivery_of_cons {input : Input} {rest : List Input}
    (hend : ∀ last ∈ (input :: rest).getLast?, last.isDelivery = true) :
    (rest = [] → input.isDelivery = true) ∧ ∀ last ∈ rest.getLast?, last.isDelivery = true := by
  cases rest with
  | nil => exact ⟨fun _ => hend input rfl, nofun⟩
  | cons => exact ⟨nofun, hend⟩

/-- **Every finger goes down, moves and goes up in turn**, given the fingers that are down and those
that went up since the last delivery.  Those wait for the next delivery before they go down
again. -/
def Obeys : Finset Int → Finset Int → List Input → Prop
  | _, _, [] => True
  | down, lifted, .report finger .started _ _ :: rest =>
    finger ∉ down ∧ finger ∉ lifted ∧ Obeys (insert finger down) lifted rest
  | down, lifted, .report finger .moved _ _ :: rest => finger ∈ down ∧ Obeys down lifted rest
  | down, lifted, .report finger .ended _ _ :: rest =>
    finger ∈ down ∧ Obeys (down.erase finger) (insert finger lifted) rest
  | _, _, .report _ .cancelled _ _ :: _ => False
  | down, _, .deliver _ :: rest => Obeys down ∅ rest

/-- The fingers that are down after a run. -/
def downThen : Finset Int → List Input → Finset Int
  | down, [] => down
  | down, .report finger .started _ _ :: rest => downThen (insert finger down) rest
  | down, .report finger .ended _ _ :: rest => downThen (down.erase finger) rest
  | down, _ :: rest => downThen down rest

/-- A group with one more point, which may cancel it. -/
def Group.extend (group : Group) (point : TouchPoint) (cancels : Bool) : Group :=
  { points := record point group.points, cancelled := group.cancelled || cancels }

namespace Grouping

/-- One input, with the batches that it delivers. -/
def next (g : Grouping) : Input → Grouping × List TouchBatch
  | .report finger phase position pressure => (g.report finger phase position pressure, [])
  | .deliver timestamp => g.finish timestamp

/-- All batches of a run. -/
def batches : Grouping → List Input → List TouchBatch
  | _, [] => []
  | g, input :: rest => (g.next input).2 ++ (g.next input).1.batches rest

/-- What a finger does in everything that was gathered. -/
def deedsBy (g : Grouping) (finger : Int) : List Deed :=
  (g.closed.flatMap fun group => group.deedsBy finger) ++ g.pending.deedsBy finger

/-! ## One report -/

/-- The grouping with its last group closed. -/
def split (g : Grouping) : Grouping := { g with closed := g.closed ++ [g.pending], pending := {} }

/-- The grouping with a point in its last group. -/
def add (g : Grouping) (point : TouchPoint) : Grouping :=
  { g with pending := { g.pending with points := record point g.pending.points } }

lemma live_report (g : Grouping) (finger : Int) (phase : FingerPhase) (position : Point)
    (pressure : Option Float32) : (g.report finger phase position pressure).live = g.live := by
  simp only [report]
  split <;> rfl

/-- The grouping with a point in its last group, which may cancel the group. -/
def gather (g : Grouping) (point : TouchPoint) (cancels : Bool) : Grouping :=
  { g with pending := g.pending.extend point cancels }

/-- **A report** goes to the last group, or to a new one if its finger went down in the last group
and goes up now. -/
lemma report_eq_gather (g : Grouping) (hdistinct : (fingersOf g.pending.points).Nodup)
    (finger : Int) (phase : FingerPhase) (position : Point) (pressure : Option Float32) :
    ∃ point : TouchPoint, point.finger = finger ∧ point.state = phase.state ∧
      g.report finger phase position pressure
        = (if stateOf? finger g.pending.points = some .pressed ∧ phase.state = .released
            then g.split else g).gather point (decide (phase = .cancelled)) := by
  have hpressed : (g.pending.points.any fun p => decide (p.finger = finger ∧ p.state = .pressed))
      = true ↔ stateOf? finger g.pending.points = some .pressed := by
    rw [stateOf?_eq_some_iff hdistinct, List.any_eq_true]
    simp
  let base : TouchPoint :=
    { finger := finger, state := phase.state, position := position, globalPosition := position }
  refine ⟨{ base with pressure := pressure.getD base.pressure }, rfl, rfl, ?_⟩
  simp only [report, hpressed]
  split <;> rfl

lemma report_eq (g : Grouping) (hdistinct : (fingersOf g.pending.points).Nodup) (finger : Int)
    {phase : FingerPhase} (hphase : phase ≠ .cancelled) (position : Point)
    (pressure : Option Float32) :
    ∃ point : TouchPoint, point.finger = finger ∧ point.state = phase.state ∧
      g.report finger phase position pressure
        = (if stateOf? finger g.pending.points = some .pressed ∧ phase.state = .released
            then g.split else g).add point := by
  obtain ⟨point, hfinger, hstate, heq⟩ :=
    g.report_eq_gather hdistinct finger phase position pressure
  refine ⟨point, hfinger, hstate, heq.trans ?_⟩
  simp only [gather, Group.extend, add, hphase, decide_false, Bool.or_false]

/-- **What the grouping holds between two inputs**, given the fingers that are down and those that
went up since the last delivery. -/
structure Gathers (g : Grouping) (down lifted : Finset Int) : Prop where
  live : (fingersOf g.live).Nodup
  leads : ∃ mid, LeadsAll (fingersOf g.live).toFinset g.closed mid ∧ g.pending.Leads mid down
  lifted : ∀ f, stateOf? f g.pending.points = some .released → f ∈ lifted

namespace Gathers

variable {g : Grouping} {down lifted : Finset Int}

/-- A new point says where its finger goes from where it was; other fingers stay as they are. -/
lemma add (h : g.Gathers down lifted) (point : TouchPoint) {down' lifted' : Finset Int}
    (hpasses : ∀ before,
      Passes (stateOf? point.finger g.pending.points) before (point.finger ∈ down) →
      Passes (some (recorded (stateOf? point.finger g.pending.points) point.state)) before
        (point.finger ∈ down'))
    (hothers : ∀ f, f ≠ point.finger → (f ∈ down' ↔ f ∈ down)) (hlifted : lifted ⊆ lifted')
    (hreleased : point.state = .released → point.finger ∈ lifted') :
    (g.add point).Gathers down' lifted' := by
  obtain ⟨mid, hclosed, hpending⟩ := h.leads
  refine ⟨h.live, ⟨mid, hclosed, hpending.going, nodup_record hpending.distinct point, ?_⟩, ?_⟩
  · intro f
    have hf := hpending.passes f
    simp only [Grouping.add, stateOf?_record]
    split
    · rename_i heq
      subst heq
      exact hpasses _ hf
    · rename_i hne
      rwa [hothers f hne]
  · intro f
    simp only [Grouping.add, stateOf?_record]
    split
    · rename_i heq
      subst heq
      intro hstate
      refine hreleased ?_
      simp only [recorded, Option.some.injEq] at hstate
      split at hstate
      · cases hstate
      · exact hstate
    · exact fun hstate => hlifted (h.lifted f hstate)

lemma deedsBy_add (g : Grouping) (point : TouchPoint) (deeds : List Deed)
    (hfinger : ∀ d ∈ deeds, d.finger? = some point.finger)
    (hdeeds : deedsIn point.finger
        (some (recorded (stateOf? point.finger g.pending.points) point.state))
      = deedsIn point.finger (stateOf? point.finger g.pending.points) ++ deeds) (f : Int) :
    (g.add point).deedsBy f = g.deedsBy f ++ Touch.deedsBy f deeds := by
  simp only [Grouping.deedsBy, Group.deedsBy, Grouping.add, stateOf?_record, List.append_assoc]
  congr 1
  by_cases hf : f = point.finger
  · subst hf
    rw [if_pos rfl, hdeeds, Touch.deedsBy, List.filter_eq_self.mpr]
    exact fun d hd => by simpa using hfinger d hd
  · rw [if_neg hf, Touch.deedsBy, List.filter_eq_nil_iff.mpr, List.append_nil]
    intro d hd hdf
    rw [hfinger d hd] at hdf
    simp only [Option.some.injEq, decide_eq_true_eq] at hdf
    exact hf hdf.symm

/-- With its last group closed, the grouping holds the same. -/
lemma split (h : g.Gathers down lifted) : g.split.Gathers down lifted := by
  obtain ⟨mid, hclosed, hpending⟩ := h.leads
  refine ⟨h.live, ⟨down, hclosed.concat hpending, rfl, List.nodup_nil, fun f => Iff.rfl⟩, ?_⟩
  intro f hf
  cases hf

lemma deedsBy_split (g : Grouping) (f : Int) : g.split.deedsBy f = g.deedsBy f := by
  have hnone : Group.deedsBy {} f = [] := rfl
  simp [Grouping.deedsBy, Grouping.split, hnone]

lemma started (h : g.Gathers down lifted) {finger : Int} (hdown : finger ∉ down)
    (hlifted : finger ∉ lifted) (position : Point) (pressure : Option Float32) :
    (g.report finger .started position pressure).Gathers (insert finger down) lifted ∧
      ∀ f, (g.report finger .started position pressure).deedsBy f
        = g.deedsBy f ++ Touch.deedsBy f [.press finger] := by
  obtain ⟨mid, -, hpending⟩ := h.leads
  have hnew : stateOf? finger g.pending.points = none := by
    have hpasses := hpending.passes finger
    cases hs : stateOf? finger g.pending.points with
    | none => rfl
    | some state =>
        rw [hs] at hpasses
        cases state with
        | released => exact absurd (h.lifted finger hs) hlifted
        | pressed | updated | stationary => exact absurd hpasses.2 hdown
  obtain ⟨point, rfl, hstate, heq⟩ :=
    report_eq g hpending.distinct finger (by decide : FingerPhase.started ≠ .cancelled) position
      pressure
  rw [if_neg (by simp [hnew])] at heq
  rw [heq]
  refine ⟨h.add point (fun before hpasses => ?_) (fun f hf => ?_) (Finset.Subset.refl _) ?_,
    deedsBy_add g point _ (by simp [Deed.finger?]) ?_⟩
  · rw [hnew] at hpasses ⊢
    rw [hstate]
    exact ⟨fun hb => hdown (hpasses.mp hb), Finset.mem_insert_self _ _⟩
  · simp [hf]
  · rw [hstate]
    exact nofun
  · rw [hnew, hstate]
    rfl

lemma moved (h : g.Gathers down lifted) {finger : Int} (hdown : finger ∈ down)
    (position : Point) (pressure : Option Float32) :
    (g.report finger .moved position pressure).Gathers down lifted ∧
      ∀ f, (g.report finger .moved position pressure).deedsBy f = g.deedsBy f := by
  obtain ⟨mid, -, hpending⟩ := h.leads
  have hold := hpending.passes finger
  obtain ⟨point, rfl, hstate, heq⟩ :=
    report_eq g hpending.distinct finger (by decide : FingerPhase.moved ≠ .cancelled) position
      pressure
  rw [if_neg (by simp [FingerPhase.state])] at heq
  rw [heq]
  refine ⟨h.add point (fun before hpasses => ?_) (fun _ _ => Iff.rfl) (Finset.Subset.refl _) ?_,
    fun f => ?_⟩
  · rw [hstate]
    cases hs : stateOf? point.finger g.pending.points with
    | none =>
        rw [hs] at hpasses
        exact ⟨hpasses.mpr hdown, hdown⟩
    | some state =>
        rw [hs] at hpasses
        cases state with
        | pressed | updated | stationary => exact hpasses
        | released => exact absurd hdown hpasses.2
  · rw [hstate]
    exact nofun
  · refine (deedsBy_add g point [] (by simp) ?_ f).trans (List.append_nil _)
    rw [hstate, List.append_nil]
    refine deedsIn_recorded_updated _ fun hs => ?_
    rw [hs] at hold
    exact hold.2 hdown

/-- A finger goes up that was down before the last group. -/
lemma ended_of_not_pressed (h : g.Gathers down lifted) {point : TouchPoint}
    (hdown : point.finger ∈ down) (hstate : point.state = .released)
    (hpressed : stateOf? point.finger g.pending.points ≠ some .pressed) :
    (g.add point).Gathers (down.erase point.finger) (insert point.finger lifted) ∧
      ∀ f, (g.add point).deedsBy f = g.deedsBy f ++ Touch.deedsBy f [.lift point.finger] := by
  obtain ⟨mid, -, hpending⟩ := h.leads
  have hold := hpending.passes point.finger
  refine ⟨h.add point (fun before hpasses => ?_) (fun f hf => ?_) (Finset.subset_insert _ _) ?_,
    deedsBy_add g point _ (by simp [Deed.finger?]) ?_⟩
  · rw [hstate, recorded_released]
    refine ⟨?_, Finset.notMem_erase _ _⟩
    cases hs : stateOf? point.finger g.pending.points with
    | none =>
        rw [hs] at hpasses
        exact hpasses.mpr hdown
    | some state =>
        rw [hs] at hpasses
        cases state with
        | pressed => exact absurd hs hpressed
        | updated | stationary | released => exact hpasses.1
  · simp [hf]
  · exact fun _ => Finset.mem_insert_self _ _
  · rw [hstate]
    refine deedsIn_recorded_released _ hpressed fun hs => ?_
    rw [hs] at hold
    exact hold.2 hdown

lemma ended (h : g.Gathers down lifted) {finger : Int} (hdown : finger ∈ down)
    (position : Point) (pressure : Option Float32) :
    (g.report finger .ended position pressure).Gathers (down.erase finger)
        (insert finger lifted) ∧
      ∀ f, (g.report finger .ended position pressure).deedsBy f
        = g.deedsBy f ++ Touch.deedsBy f [.lift finger] := by
  obtain ⟨mid, -, hpending⟩ := h.leads
  obtain ⟨point, rfl, hstate, heq⟩ :=
    report_eq g hpending.distinct finger (by decide : FingerPhase.ended ≠ .cancelled) position
      pressure
  rw [heq]
  split
  · -- A tap: the group that presses the finger is closed before the finger goes up.
    obtain ⟨hgathers, hdeeds⟩ := h.split.ended_of_not_pressed hdown hstate nofun
    exact ⟨hgathers, fun f => by rw [hdeeds, deedsBy_split]⟩
  · rename_i hnot
    exact h.ended_of_not_pressed hdown hstate fun hs => hnot ⟨hs, rfl⟩

/-! ## One delivery -/

/-- A delivery relays everything that was gathered. -/
lemma finish (h : g.Gathers down lifted) (timestamp : Nat) :
    (g.finish timestamp).1.Gathers down ∅ ∧ (∀ f, (g.finish timestamp).1.deedsBy f = []) ∧
      (fingersOf (g.finish timestamp).1.live).toFinset = down ∧
      Relays (fingersOf g.live).toFinset (g.finish timestamp).2 down g.deedsBy := by
  obtain ⟨mid, hclosed, hpending⟩ := h.leads
  obtain ⟨batches, live, hclose, hlive, hfingers, hrelays⟩ :=
    closeAll_spec h.live (hclosed.concat hpending) timestamp
  have heq : g.finish timestamp = ({ live := live }, batches) := by
    simp only [Grouping.finish, hclose]
  rw [heq]
  refine ⟨⟨hlive, ⟨down, hfingers ▸ .nil, rfl, List.nodup_nil, fun _ => Iff.rfl⟩, nofun⟩,
    fun _ => rfl, hfingers, ?_⟩
  simp only [List.flatMap_append, List.flatMap_cons, List.flatMap_nil, List.append_nil] at hrelays
  exact hrelays

/-! ## A whole run -/

/-- **A run that ends with a delivery** relays what was gathered before it and what was reported in
it. -/
lemma batches (h : g.Gathers down lifted) {inputs : List Input}
    (hobeys : Obeys down lifted inputs) (hend : ∀ last ∈ inputs.getLast?, last.isDelivery = true)
    (hidle : inputs = [] →
      (∀ f, g.deedsBy f = []) ∧ (fingersOf g.live).toFinset = down) :
    Relays (fingersOf g.live).toFinset (g.batches inputs) (downThen down inputs)
      fun f => g.deedsBy f ++ Touch.deedsBy f (inputs.filterMap Input.deed?) := by
  induction inputs generalizing g down lifted with
  | nil =>
      obtain ⟨hdeeds, rfl⟩ := hidle rfl
      simp only [hdeeds]
      exact Relays.nil _
  | cons input rest ih =>
      obtain ⟨hlast, hend'⟩ := isDelivery_of_cons hend
      cases input with
      | report finger phase position pressure =>
          have hne : rest ≠ [] := fun hnil => Bool.noConfusion (hlast hnil)
          rw [← live_report g finger phase position pressure]
          cases phase with
          | started =>
              obtain ⟨hdown, hlifted, hrest⟩ := hobeys
              obtain ⟨hg, hdeeds⟩ := h.started hdown hlifted position pressure
              have hrelays := ih hg hrest hend' fun hnil => absurd hnil hne
              simp only [hdeeds, List.append_assoc, ← deedsBy_append] at hrelays
              exact hrelays
          | moved =>
              obtain ⟨hdown, hrest⟩ := hobeys
              obtain ⟨hg, hdeeds⟩ := h.moved hdown position pressure
              have hrelays := ih hg hrest hend' fun hnil => absurd hnil hne
              simp only [hdeeds] at hrelays
              exact hrelays
          | ended =>
              obtain ⟨hdown, hrest⟩ := hobeys
              obtain ⟨hg, hdeeds⟩ := h.ended hdown position pressure
              have hrelays := ih hg hrest hend' fun hnil => absurd hnil hne
              simp only [hdeeds, List.append_assoc, ← deedsBy_append] at hrelays
              exact hrelays
          | cancelled => exact hobeys.elim
      | deliver timestamp =>
          obtain ⟨hg, hdeeds, hfingers, hfirst⟩ := h.finish timestamp
          have hmore := ih hg hobeys hend' fun _ => ⟨hdeeds, hfingers⟩
          simp only [hdeeds, hfingers, List.nil_append] at hmore
          exact hfirst.append hmore

end Gathers

lemma gathers_empty : Gathers {} ∅ ∅ :=
  ⟨List.nodup_nil, ⟨∅, .nil, rfl, List.nodup_nil, fun _ => Iff.rfl⟩, nofun⟩

end Grouping

/-- The deeds that a run reports. -/
def reported (inputs : List Input) : List Deed := inputs.filterMap Input.deed?

lemma countP_reported_isPress (inputs : List Input) :
    (reported inputs).countP Deed.isPress = inputs.countP Input.isStart := by
  rw [reported, List.countP_filterMap]
  refine List.countP_congr fun input _ => ?_
  cases input with
  | report finger phase => cases phase <;> rfl
  | deliver timestamp => rfl

lemma countP_reported_isLift (inputs : List Input) :
    (reported inputs).countP Deed.isLift = inputs.countP Input.isEnd := by
  rw [reported, List.countP_filterMap]
  refine List.countP_congr fun input _ => ?_
  cases input with
  | report finger phase => cases phase <;> rfl
  | deliver timestamp => rfl

/-- **From single fingers to motion events.**  Every finger goes down, moves and goes up in turn,
and the run ends with a delivery.  Then a fresh tracker answers every batch, and the events together
are a story.  In it each finger goes down and up just as it reported, and there is one event for
each finger that goes down and one for each that goes up. -/
theorem reports_story {inputs : List Input} (hobeys : Obeys ∅ ∅ inputs)
    (hend : ∀ last ∈ inputs.getLast?, last.isDelivery = true)
    (hfew : ∀ batch ∈ Grouping.batches {} inputs, batch.points.length ≤ maxFingers)
    {offers : List Offer} (hoffers : offers.map (·.batch) = Grouping.batches {} inputs)
    (hopen : ∀ offer ∈ offers, offer.claimed = false) :
    ∃ (outcomes : List Outcome) (deeds : List Deed) (hands : Hands),
      Tracker.answers {} offers = outcomes.map Except.ok ∧
      Story [] (outcomes.flatMap Outcome.events) deeds hands ∧
      (∀ finger, deedsBy finger deeds = deedsBy finger (reported inputs)) ∧ .cancel ∉ deeds ∧
      (outcomes.flatMap Outcome.events).countP goesDown = inputs.countP Input.isStart ∧
      (outcomes.flatMap Outcome.events).countP goesUp = inputs.countP Input.isEnd ∧
      (hands.map Prod.fst).toFinset = downThen ∅ inputs := by
  have hrelays : Relays ∅ (Grouping.batches {} inputs) (downThen ∅ inputs)
      fun f => deedsBy f (reported inputs) :=
    Grouping.gathers_empty.batches hobeys hend fun _ => ⟨fun _ => rfl, rfl⟩
  rw [← hoffers] at hrelays hfew
  obtain ⟨outcomes, hands, hanswers, hstory, hhands⟩ :=
    Tracker.knows_empty.answers offers (hrelays.wellFormed hfew) hopen
  refine ⟨outcomes, _, hands, hanswers, hstory, hrelays.deedsBy, hrelays.cancel_notMem, ?_, ?_,
    hhands.trans hrelays.downAfterAll⟩
  · rw [hstory.countP_goesDown, ← countP_reported_isPress]
    refine countP_eq_of_deedsBy hrelays.deedsBy fun d hd => ?_
    cases d with
    | press finger => rfl
    | lift | move | cancel => cases hd
  · rw [hstory.countP_goesUp, ← countP_reported_isLift]
    refine countP_eq_of_deedsBy hrelays.deedsBy fun d hd => ?_
    cases d with
    | lift finger => rfl
    | press | move | cancel => cases hd

/-- A report of a finger, at a place that says nothing. -/
def reportOf (finger : Int) (phase : FingerPhase) : Input := .report finger phase .zero none

/-- A finger rests while another taps, moves and taps once more, and goes up as a third comes. -/
def secondFingerTaps : List Input :=
  [reportOf 1 .started, .deliver 0, reportOf 2 .started, reportOf 2 .moved, reportOf 2 .ended,
   .deliver 1, reportOf 2 .started, reportOf 1 .moved, reportOf 2 .ended, reportOf 1 .ended,
   reportOf 3 .started, .deliver 2]

theorem reports_story_secondFingerTaps :
    Obeys ∅ ∅ secondFingerTaps ∧
      (∀ last ∈ secondFingerTaps.getLast?, last.isDelivery = true) ∧
      (∀ batch ∈ Grouping.batches {} secondFingerTaps, batch.points.length ≤ maxFingers) ∧
      ∃ (outcomes : List Outcome) (deeds : List Deed) (hands : Hands),
        Tracker.answers {}
            ((Grouping.batches {} secondFingerTaps).map fun batch => { batch := batch })
          = outcomes.map Except.ok ∧
        Story [] (outcomes.flatMap Outcome.events) deeds hands ∧
        deedsBy 2 deeds = [.press 2, .lift 2, .press 2, .lift 2] ∧
        (outcomes.flatMap Outcome.events).countP goesDown = 4 ∧
        (outcomes.flatMap Outcome.events).countP goesUp = 3 ∧
        (hands.map Prod.fst).toFinset = {3} := by
  have hobeys : Obeys ∅ ∅ secondFingerTaps := by
    simp [secondFingerTaps, reportOf, Obeys]
  have hend : ∀ last ∈ secondFingerTaps.getLast?, last.isDelivery = true := by
    simp [secondFingerTaps, Input.isDelivery]
  have hfew : ∀ batch ∈ Grouping.batches {} secondFingerTaps,
      batch.points.length ≤ maxFingers := by decide
  have hoffers : ((Grouping.batches {} secondFingerTaps).map fun batch =>
      ({ batch := batch } : Offer)).map (·.batch) = Grouping.batches {} secondFingerTaps := by
    simp [Function.comp_def]
  obtain ⟨outcomes, deeds, hands, hanswers, hstory, hdeeds, -, hdown, hup, hhands⟩ :=
    reports_story hobeys hend hfew hoffers (by simp)
  exact ⟨hobeys, hend, hfew, outcomes, deeds, hands, hanswers, hstory, hdeeds 2, hdown, hup,
    hhands.trans (by decide)⟩

end ViewInput.Touch
