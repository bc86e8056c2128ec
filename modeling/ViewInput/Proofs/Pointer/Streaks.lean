import Mathlib.Data.List.Chain
import ViewInput.Proofs.Pointer.Runs

/-!
# Streaks of presses

The tracker remembers one press and one number, and says no more of a press than its count.  Still
the count stands for a chain of presses: **a press with the count `k` ends a chain of `k`, each of
which leads to the next** (`Counted`).  The count starts again at one where the chain breaks, and
after three.

What has to be remembered for that is the latest press and its count (`Remembers`).  Calls that make
no press leave both alone, so that the counts of a run are those of its presses by themselves
(`presses_form_streaks`).
-/

namespace ViewInput.Pointer

open Device (PointerEvent HoverEvent)

/-! ## Counted presses -/

/-- **A press leads to another**: that one is made with the same button, soon after it and near to
it.  The position of the earlier one counts rounded. -/
structure Press.LeadsTo (limits : StreakLimits) (earlier later : Press) : Prop where
  button : earlier.button = later.button
  soon : later.timestamp - earlier.timestamp ≤ limits.interval
  near : later.position.manhattanDistance earlier.position.rounded ≤ limits.distance

instance (limits : StreakLimits) (earlier later : Press) :
    Decidable (earlier.LeadsTo limits later) :=
  decidable_of_iff
    (earlier.button = later.button ∧ later.timestamp - earlier.timestamp ≤ limits.interval ∧
      later.position.manhattanDistance earlier.position.rounded ≤ limits.distance)
    ⟨fun ⟨hbutton, hsoon, hnear⟩ => ⟨hbutton, hsoon, hnear⟩, fun h => ⟨h.button, h.soon, h.near⟩⟩

/-- A press that the page was told of, and the count that it was told. -/
structure Down where
  press : Press
  count : Nat
deriving DecidableEq

/-- The count of the latest of some presses, and zero if there are none. -/
def latestCount (downs : List Down) : Nat := (downs.getLast?.map (·.count)).getD 0

/-- **What a count says**, given the presses before. -/
structure Counted (limits : StreakLimits) (before : List Down) (d : Down) : Prop where
  range : 1 ≤ d.count ∧ d.count ≤ 3
  /-- As many presses as it says form a chain that ends in this one. -/
  chain : ∃ older streak, before = older ++ streak ∧ streak.length + 1 = d.count ∧
    (∀ e ∈ streak, e.press.button = d.press.button) ∧
    (streak ++ [d]).IsChain fun e e' => e.press.LeadsTo limits e'.press
  first : d.count = 1 ↔ before = [] ∨ ∃ last ∈ before.getLast?,
    ¬ last.press.LeadsTo limits d.press ∨ last.count = 3
  next : d.count ≠ 1 → d.count = latestCount before + 1

/-- Every press is counted, given those before it. -/
def EachCounted (limits : StreakLimits) (downs : List Down) : Prop :=
  ∀ before d later, downs = before ++ d :: later → Counted limits before d

variable {limits : StreakLimits} {clicks : Clicks} {downs : List Down} {p : Press}

lemma EachCounted.concat {d : Down} (h : EachCounted limits downs)
    (hd : Counted limits downs d) : EachCounted limits (downs ++ [d]) := by
  intro before e later heq
  rcases List.eq_nil_or_concat' later with rfl | ⟨later, last, rfl⟩
  · obtain ⟨rfl, hlast⟩ := List.append_inj' heq rfl
    rwa [← List.singleton_inj.mp hlast]
  · rw [← List.cons_append, ← List.append_assoc] at heq
    exact h before e later (List.append_inj' heq rfl).1

/-! ## What the tracker remembers -/

/-- The tracker remembers the latest press and its count. -/
structure Remembers (clicks : Clicks) (downs : List Down) : Prop where
  last : clicks.last = downs.getLast?.map fun d =>
    { d.press with position := d.press.position.rounded }
  count : clicks.count = latestCount downs

lemma follows_iff {earlier : Press} :
    Clicks.follows limits p { earlier with position := earlier.position.rounded } = true ↔
      earlier.LeadsTo limits p := by
  simp only [Clicks.follows, Bool.and_eq_true, decide_eq_true_eq]
  exact ⟨fun ⟨⟨hbutton, hsoon⟩, hnear⟩ => ⟨hbutton, hsoon, hnear⟩,
    fun h => ⟨⟨h.button, h.soon⟩, h.near⟩⟩

/-- The first press of all. -/
lemma Remembers.count_of_nil (h : Remembers clicks []) : (clicks.press limits p).count = 1 := by
  simp [Clicks.press, h.last]

/-- The count of a press that comes after another. -/
lemma Remembers.count_of_concat {last : Down} (h : Remembers clicks (downs ++ [last])) :
    (clicks.press limits p).count =
      if last.press.LeadsTo limits p ∧ last.count < 3 then last.count + 1 else 1 := by
  have hlast : clicks.last
      = some { last.press with position := last.press.position.rounded } := by simpa using h.last
  have hcount : clicks.count = last.count := by simpa [latestCount] using h.count
  have hgoesOn : (clicks.last.any (Clicks.follows limits p)
      && decide (clicks.count < Clicks.maxCount)) = true ↔
        last.press.LeadsTo limits p ∧ last.count < 3 := by
    rw [hlast, hcount, Option.any_some, Bool.and_eq_true, follows_iff, decide_eq_true_eq,
      Clicks.maxCount]
  simp only [Clicks.press, hgoesOn]
  split
  · rw [hcount]
  · rfl

/-- A press that starts a chain. -/
lemma counted_one {before : List Down} (hfirst : before = [] ∨ ∃ last ∈ before.getLast?,
    ¬ last.press.LeadsTo limits p ∨ last.count = 3) : Counted limits before ⟨p, 1⟩ where
  range := ⟨le_rfl, Nat.le_add_left 1 2⟩
  chain := ⟨before, [], (List.append_nil before).symm, rfl, by simp, List.isChain_singleton _⟩
  first := iff_of_true rfl hfirst
  next := fun h => absurd rfl h

/-- A press that goes on with one. -/
lemma counted_succ {last : Down} (hlast : Counted limits downs last)
    (hleads : last.press.LeadsTo limits p) (hfew : last.count < 3) :
    Counted limits (downs ++ [last]) ⟨p, last.count + 1⟩ where
  range := ⟨Nat.le_add_left 1 _, hfew⟩
  chain := by
    obtain ⟨older, streak, rfl, hlength, hbuttons, hchain⟩ := hlast.chain
    refine ⟨older, streak ++ [last], List.append_assoc .., by simp [hlength], fun e he => ?_, ?_⟩
    · rcases List.mem_append.mp he with hold | hnew
      · exact (hbuttons e hold).trans hleads.button
      · rw [List.mem_singleton.mp hnew]
        exact hleads.button
    · rw [List.append_assoc, List.singleton_append]
      exact List.isChain_append_cons_cons.mpr ⟨hchain, hleads, List.isChain_singleton _⟩
  first := by
    have hpos := hlast.range.1
    refine iff_of_false (by simp; omega) ?_
    rintro (hnil | ⟨e, he, hbreaks⟩)
    · simp at hnil
    · obtain rfl : last = e := by simpa using he
      exact hbreaks.elim (· hleads) hfew.ne
  next := fun _ => by simp [latestCount]

/-- **One press** is counted, given those before it. -/
lemma Remembers.counted (h : Remembers clicks downs) (hdowns : EachCounted limits downs)
    (p : Press) : Counted limits downs ⟨p, (clicks.press limits p).count⟩ := by
  rcases List.eq_nil_or_concat' downs with rfl | ⟨init, last, rfl⟩
  · rw [h.count_of_nil]
    exact counted_one (Or.inl rfl)
  · have hlast : Counted limits init last := hdowns init last [] rfl
    rw [h.count_of_concat]
    split
    · rename_i hgoesOn
      exact counted_succ hlast hgoesOn.1 hgoesOn.2
    · rename_i hbreaks
      rw [not_and_or, Nat.not_lt] at hbreaks
      refine counted_one (Or.inr ⟨last, by simp, hbreaks.imp_right fun hfull => ?_⟩)
      exact le_antisymm hlast.range.2 hfull

/-- It is remembered in place of the one before. -/
lemma Remembers.press (clicks : Clicks) (downs : List Down) (p : Press) :
    Remembers (clicks.press limits p) (downs ++ [⟨p, (clicks.press limits p).count⟩]) :=
  ⟨by simp [Clicks.press], by simp [latestCount]⟩

/-! ## Presses in a log -/

/-- The press of an entry, if the page was told of one. -/
def Entry.down? (e : Entry) : Option Down :=
  match e.call, e.report with
  | .pointer event _ _, some report =>
    if report.event.kind = .down then some ⟨event.asPress, report.event.clickCount⟩ else none
  | _, _ => none

/-- **The presses of a log** since the tracker last started afresh. -/
def downsOf (log : List Entry) : List Down := (recent log).filterMap Entry.down?

lemma downsOf_concat (log : List Entry) (e : Entry) :
    downsOf (log ++ [e]) = if e.call = .reset then [] else downsOf log ++ e.down?.toList := by
  rw [downsOf, recent_concat]
  split
  · rfl
  · rw [List.filterMap_append]
    cases h : e.down? <;> simp [h, downsOf]

/-- The press that a call makes, with a button that a page knows. -/
def Call.press? : Call → Option Press
  | .pointer event _ _ =>
    if event.kind.isPress = true ∧ pageButton event.button ≠ .none then some event.asPress else none
  | .hover _ _ | .leave _ | .reset => none

lemma mouseKind_eq_down_iff {kind : Device.PointerKind} :
    mouseKind kind = .down ↔ kind.isPress = true := by
  cases kind <;> decide

lemma mouseKind_eq_up_iff {kind : Device.PointerKind} :
    mouseKind kind = .up ↔ kind = .release := by
  cases kind <;> decide

variable {call : Call}

/-- **A call that makes a press** counts it, and tells the page of it.  Any other call, short of
starting afresh, does neither. -/
lemma respond_clicks (settings : Settings) (t : Tracker) (hreset : call ≠ .reset) :
    (t.respond settings call).1.clicks
      = (call.press?.map fun p => t.clicks.press (streakLimits settings) p).getD t.clicks ∧
    Entry.down? ⟨call, (t.respond settings call).2⟩
      = call.press?.map fun p => ⟨p, (t.clicks.press (streakLimits settings) p).count⟩ := by
  cases call with
  | pointer event time locked =>
      rw [Tracker.respond, Call.press?]
      rcases pointer_cases settings t event time locked with
        ⟨⟨-, hforeign⟩, heq⟩ | ⟨hknown, t', report, heq, hconverts⟩
      · rw [heq, if_neg fun h => h.2 hforeign]
        exact ⟨rfl, rfl⟩
      · have hclicks := hconverts.clicks
        rw [heq]
        cases hpress : event.kind.isPress with
        | true =>
            have hmove : event.kind ≠ .move := fun hmove => by rw [hmove] at hpress; cases hpress
            have hbutton : pageButton event.button ≠ .none := fun hnone => hknown ⟨hmove, hnone⟩
            have hdown : report.event.kind = .down :=
              hconverts.kind.trans (mouseKind_eq_down_iff.mpr hpress)
            rw [hpress, if_pos rfl] at hclicks
            rw [if_pos ⟨rfl, hbutton⟩]
            simp [Entry.down?, hdown, hconverts.clickCount hmove, hclicks]
        | false =>
            have hdown : report.event.kind ≠ .down := fun hdown => by
              rw [hconverts.kind, mouseKind_eq_down_iff, hpress] at hdown
              cases hdown
            rw [hpress, if_neg Bool.false_ne_true] at hclicks
            simp [Entry.down?, hdown, hclicks]
  | hover event time => exact ⟨rfl, rfl⟩
  | leave time => exact ⟨rfl, rfl⟩
  | reset => exact absurd rfl hreset

/-! ## Runs -/

/-- **The tracker remembers the latest press of its log**, and each press of it is counted. -/
lemma remembers_history (settings : Settings) (calls : List Call) :
    Remembers (history settings calls).tracker.clicks (downsOf (history settings calls).log) ∧
      EachCounted (streakLimits settings) (downsOf (history settings calls).log) := by
  have hempty : EachCounted (streakLimits settings) [] := fun before d later heq => by simp at heq
  induction calls using List.reverseRecOn with
  | nil => exact ⟨⟨rfl, rfl⟩, hempty⟩
  | append_singleton calls call ih =>
      obtain ⟨hremembers, hcounted⟩ := ih
      rw [history_concat, History.next, downsOf_concat]
      split
      · rename_i hreset
        rw [show call = .reset from hreset]
        exact ⟨⟨rfl, rfl⟩, hempty⟩
      · rename_i hreset
        obtain ⟨hclicks, hdown⟩ := respond_clicks settings (history settings calls).tracker hreset
        rw [hclicks, hdown]
        cases call.press? with
        | none => simpa using ⟨hremembers, hcounted⟩
        | some p => exact ⟨.press _ _ p, hcounted.concat (hremembers.counted hcounted p)⟩

/-- A call that the counts depend on: it makes a press, or starts afresh. -/
def Call.Matters (call : Call) : Prop := call.press? ≠ none ∨ call = .reset

instance (call : Call) : Decidable call.Matters :=
  inferInstanceAs (Decidable (call.press? ≠ none ∨ call = .reset))

/-- Other calls make no difference to what is counted. -/
lemma clicks_history_filter (settings : Settings) (calls : List Call) :
    let all := history settings calls
    let few := history settings (calls.filter fun call => decide call.Matters)
    few.tracker.clicks = all.tracker.clicks ∧ downsOf few.log = downsOf all.log := by
  induction calls using List.reverseRecOn with
  | nil => exact ⟨rfl, rfl⟩
  | append_singleton calls call ih =>
      obtain ⟨hclicks, hdowns⟩ := ih
      by_cases hmatters : call.Matters
      · have hfilter : (calls ++ [call]).filter (fun call => decide call.Matters)
            = calls.filter (fun call => decide call.Matters) ++ [call] := by simp [hmatters]
        simp only [hfilter, history_concat, History.next, downsOf_concat]
        by_cases hreset : call = .reset
        · subst hreset
          exact ⟨rfl, rfl⟩
        · simp [respond_clicks settings _ hreset, hclicks, hdowns, hreset]
      · have hfilter : (calls ++ [call]).filter (fun call => decide call.Matters)
            = calls.filter (fun call => decide call.Matters) := by simp [hmatters]
        obtain ⟨hpress, hreset⟩ := not_or.mp hmatters
        rw [not_not] at hpress
        simp only [hfilter, history_concat, History.next, downsOf_concat]
        simp [respond_clicks settings _ hreset, hclicks, hdowns, hreset, hpress]

/-- **The counts are the streaks.**  In any run, each press that the page is told of is counted as
`Counted` says, given those before it: with one, two or three, for as many presses in a chain, and
starting at one where there is none before it, where the one before does not lead to it, or where
that one was the third.  A release has the count of the latest press.  And the calls that make no
press may be left out of the run: moves, releases, hovers, leaves, and presses of buttons that no
page knows. -/
theorem presses_form_streaks (settings : Settings) (calls : List Call) :
    let h := history settings calls
    (∀ before d later, downsOf h.log = before ++ d :: later →
      Counted (streakLimits settings) before d) ∧
    (∀ event time locked report, (h.tracker.pointer settings event time locked).2 = some report →
      report.event.kind = .up → report.event.clickCount = latestCount (downsOf h.log)) ∧
    downsOf (history settings (calls.filter fun call => decide call.Matters)).log
      = downsOf h.log := by
  intro h
  obtain ⟨hremembers, hcounted⟩ := remembers_history settings calls
  refine ⟨hcounted, fun event time locked report hreport hup => ?_,
    (clicks_history_filter settings calls).2⟩
  have hconverts := converts_of_report hreport
  have hkind : event.kind = .release := mouseKind_eq_up_iff.mp (hconverts.kind.symm.trans hup)
  have hclicks := hconverts.clicks
  rw [hkind] at hclicks
  rw [hconverts.clickCount (by simp [hkind]), hclicks]
  exact hremembers.count

/-- A button goes down, at some place and time. -/
def pressAt (button : Device.Button) (place : Point) (timestamp : Nat) : Call :=
  .pointer (eventAt .press button place timestamp) 0 false

/-- The left button goes down five times.  The second and the third are as far from the one before
as may be, the second only because 10.5 counts as 11; the last is near along each axis, but not
along both.  In between the button goes up, the pointer leaves, and a button goes down that no page
knows. -/
def fivePresses : List Call :=
  [pressAt .left ⟨10.5, 0⟩ 100, .pointer (eventAt .release .left ⟨10.5, 0⟩ 200) 0 false,
   pressAt .left ⟨21, 0⟩ 300, .leave 0, pressAt .left ⟨26, 5⟩ 500,
   pressAt (.other 9) ⟨26, 5⟩ 600, pressAt .left ⟨26, 5⟩ 700, pressAt .left ⟨33, 9⟩ 900]

theorem presses_form_streaks_fivePresses :
    let down (place : Point) (timestamp count : Nat) : Down := ⟨⟨.left, place, timestamp⟩, count⟩
    downsOf (history {} fivePresses).log
      = [down ⟨10.5, 0⟩ 100 1, down ⟨21, 0⟩ 300 2, down ⟨26, 5⟩ 500 3, down ⟨26, 5⟩ 700 1,
         down ⟨33, 9⟩ 900 1] ∧
    Counted (streakLimits {}) [down ⟨10.5, 0⟩ 100 1, down ⟨21, 0⟩ 300 2] (down ⟨26, 5⟩ 500 3) ∧
    Counted (streakLimits {})
      [down ⟨10.5, 0⟩ 100 1, down ⟨21, 0⟩ 300 2, down ⟨26, 5⟩ 500 3, down ⟨26, 5⟩ 700 1]
      (down ⟨33, 9⟩ 900 1) ∧
    ∃ report, ((history {} fivePresses).tracker.pointer {} (eventAt .release .left ⟨33, 9⟩ 950) 0
        false).2 = some report ∧
      report.event.kind = .up ∧ report.event.clickCount = 1 := by
  intro down
  obtain ⟨hcounted, hreleased, -⟩ := presses_form_streaks {} fivePresses
  have hdowns : downsOf (history {} fivePresses).log
      = [down ⟨10.5, 0⟩ 100 1, down ⟨21, 0⟩ 300 2, down ⟨26, 5⟩ 500 3, down ⟨26, 5⟩ 700 1,
         down ⟨33, 9⟩ 900 1] := by decide +kernel
  refine ⟨hdowns, hcounted _ _ [down ⟨26, 5⟩ 700 1, down ⟨33, 9⟩ 900 1] hdowns,
    hcounted _ _ [] hdowns, ?_⟩
  obtain ⟨report, hreport⟩ := Option.ne_none_iff_exists'.mp
    (mt (pointer_eq_none_iff {} (history {} fivePresses).tracker
      (eventAt .release .left ⟨33, 9⟩ 950) 0 false).mp (by decide))
  have hup : report.event.kind = .up := (converts_of_report hreport).kind
  exact ⟨report, hreport, hup, (hreleased _ 0 false report hreport hup).trans (by rw [hdowns]; rfl)⟩

end ViewInput.Pointer
