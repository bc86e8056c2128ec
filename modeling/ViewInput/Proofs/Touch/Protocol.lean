import Mathlib.Computability.RegularExpressions
import ViewInput.Proofs.Touch.Closing

/-!
# Batches keep to the touch protocol

Fingers may report what they like: one that is up may move, one that is down may go down again, and
a cancellation may come at any time.  **The batches of a run keep to the protocol all the same**
(`batches_keep_protocol`).  Each lists every finger that is down, once, and its kind says whether a
finger was down before it and whether one is afterwards (`Keeps`).

So the kinds of the batches, one after another, are touches that begin, go on, and end or are
cancelled, with cancellations in between (`touches`).  One machine of two states is behind this: no
finger is down, or some are (`exists_touches`).
-/

namespace ViewInput.Touch

open Device (TouchBatch TouchKind TouchPoint TouchState)
open Grouping (Dated Drops batchKind batchOf carried closeEach liveAfter remaining)
open RegularExpression (char star)
open Slots (fingersOf)
open scoped Computability

/-! ## The protocol -/

/-- **A batch keeps to the protocol**, given the fingers that are down before it and after it. -/
structure Keeps (before : List TouchPoint) (batch : TouchBatch) (after : List TouchPoint) :
    Prop where
  points_ne_nil : batch.points ≠ []
  distinct : (fingersOf batch.points).Nodup
  complete : ∀ finger ∈ fingersOf before, finger ∈ fingersOf batch.points
  /-- The fingers that it does not release stay down, unless it cancels the touch. -/
  after_eq : after = if batch.kind = .cancelled then []
    else batch.points.filter fun p => decide (p.state ≠ .released)
  began : batch.kind = .began → before = [] ∧ after ≠ []
  updated : batch.kind = .updated → before ≠ [] ∧ after ≠ []
  ended : batch.kind = .ended → before ≠ [] ∧ after = []

/-- Batches that keep to the protocol one after another, each with the fingers down after it. -/
def KeepsAll : List TouchPoint → List (TouchBatch × List TouchPoint) → Prop
  | _, [] => True
  | before, (batch, after) :: rest => Keeps before batch after ∧ KeepsAll after rest

/-- A touch, with the cancellations before it. -/
def oneTouch : RegularExpression TouchKind :=
  star (char .cancelled) * char .began * star (char .updated) * (char .ended + char .cancelled)

/-- **Touches one after another**, as the kinds of their batches. -/
def touches : RegularExpression TouchKind := star oneTouch

/-! ## Closing a group -/

section Closing

variable {live : List TouchPoint} {group : Group}

/-- A group that begins a touch and is not dropped presses a finger. -/
lemma exists_pressed_of_not_drops (hkept : ¬ Drops [] group) (hgoing : group.cancelled = false) :
    ∃ p ∈ group.points, p.state = .pressed := by
  by_contra hnone
  push Not at hnone
  exact hkept (Or.inr ⟨rfl, hgoing, hnone⟩)

section Going

variable (hgoing : group.cancelled = false) (timestamp : Nat)

include hgoing

lemma remaining_batchOf : remaining (batchOf live group timestamp)
    = (group.points ++ carried live group.points).filter
      fun p => decide (p.state ≠ .released) := by
  have hkind : (batchOf live group timestamp).kind ≠ .cancelled := by
    rw [Ne, Grouping.batchOf_kind_eq_cancelled_iff, hgoing]
    exact Bool.false_ne_true
  rw [remaining, if_neg hkind, Grouping.points_batchOf]

lemma kind_batchOf_eq_began_iff : (batchOf live group timestamp).kind = .began ↔ live = [] := by
  simp only [batchOf, hgoing]
  exact batchKind_eq_began_iff live _

lemma kind_batchOf_eq_ended_iff : (batchOf live group timestamp).kind = .ended ↔
    live ≠ [] ∧ remaining (batchOf live group timestamp) = [] := by
  rw [remaining_batchOf hgoing, List.filter_eq_nil_iff]
  simp only [batchOf, hgoing, decide_eq_true_eq, not_not]
  exact batchKind_eq_ended_iff live _

/-- The finger that begins a touch stays. -/
lemma remaining_batchOf_ne_nil (hkept : ¬ Drops live group) (hidle : live = []) :
    remaining (batchOf live group timestamp) ≠ [] := by
  subst hidle
  obtain ⟨p, hp, hstate⟩ := exists_pressed_of_not_drops hkept hgoing
  rw [remaining_batchOf hgoing]
  exact List.ne_nil_of_mem (List.mem_filter.mpr ⟨List.mem_append_left _ hp, by simp [hstate]⟩)

end Going

/-- **The batch of a group** keeps to the protocol. -/
theorem keeps_batchOf (hlive : (fingersOf live).Nodup) (hgroup : (fingersOf group.points).Nodup)
    (hkept : ¬ Drops live group) (timestamp : Nat) :
    Keeps live (batchOf live group timestamp) (remaining (batchOf live group timestamp)) := by
  have hgoing : (batchOf live group timestamp).kind ≠ .cancelled → group.cancelled = false := by
    rw [Ne, Grouping.batchOf_kind_eq_cancelled_iff]
    exact Bool.eq_false_of_not_eq_true
  refine
    { points_ne_nil := fun hnil => hkept (Or.inl (List.append_eq_nil_iff.mp hnil).1)
      distinct := nodup_append_carried hlive hgroup
      complete := fun f hf => (mem_append_carried_iff f).mpr (Or.inr hf)
      after_eq := rfl
      began := fun hkind => ?_, updated := fun hkind => ?_, ended := fun hkind => ?_ }
  · have hgroup := hgoing (by simp [hkind])
    have hidle := (kind_batchOf_eq_began_iff hgroup timestamp).mp hkind
    exact ⟨hidle, remaining_batchOf_ne_nil hgroup timestamp hkept hidle⟩
  · have hgroup := hgoing (by simp [hkind])
    have hdown : live ≠ [] := fun hidle => by
      simp [(kind_batchOf_eq_began_iff hgroup timestamp).mpr hidle] at hkind
    refine ⟨hdown, fun hnone => ?_⟩
    simp [(kind_batchOf_eq_ended_iff hgroup timestamp).mpr ⟨hdown, hnone⟩] at hkind
  · exact (kind_batchOf_eq_ended_iff (hgoing (by simp [hkind])) timestamp).mp hkind

/-- **Groups that are closed one after another.** -/
theorem keepsAll_closeEach (hlive : (fingersOf live).Nodup) {groups : List Dated}
    (hgroups : ∀ dated ∈ groups, (fingersOf dated.1.points).Nodup) :
    KeepsAll live (closeEach live groups) := by
  induction groups generalizing live with
  | nil => trivial
  | cons dated rest ih =>
      obtain ⟨group, timestamp⟩ := dated
      obtain ⟨hgroup, hrest⟩ := List.forall_mem_cons.mp hgroups
      by_cases hdrops : Drops live group
      · rw [Grouping.closeEach_of_drops hdrops]
        exact ih hlive hrest
      · rw [Grouping.closeEach_of_not_drops hdrops]
        exact ⟨keeps_batchOf hlive hgroup hdrops timestamp,
          ih (Grouping.nodup_remaining (nodup_append_carried hlive hgroup)) hrest⟩

end Closing

/-! ## The fingers that a run leaves down -/

/-- The grouping after a run. -/
def Grouping.after (g : Grouping) (inputs : List Input) : Grouping :=
  inputs.foldl (fun g input => (g.next input).1) g

lemma live_after (g : Grouping) (inputs : List Input) :
    (g.after inputs).live = liveAfter g.live (g.groups inputs) := by
  induction inputs generalizing g with
  | nil => rfl
  | cons input rest ih =>
      rw [Grouping.after, List.foldl_cons, ← Grouping.after, ih]
      cases input with
      | report finger phase position pressure =>
          rw [Grouping.next, Grouping.groups, Grouping.live_report]
      | deliver timestamp =>
          rw [Grouping.next, Grouping.groups, liveAfter, liveAfter, List.foldl_append, ← liveAfter]
          simp only [Grouping.finish, Grouping.closeAll_eq, liveAfter]

/-- The fingers that are down at the end are those that the last batch leaves down. -/
lemma liveAfter_eq_getLast? (live : List TouchPoint) (groups : List Dated) :
    liveAfter live groups = (((closeEach live groups).map Prod.snd).getLast?).getD live := by
  induction groups generalizing live with
  | nil => rfl
  | cons dated rest ih =>
      obtain ⟨group, timestamp⟩ := dated
      rw [liveAfter, List.foldl_cons, ← liveAfter, ih, Grouping.close_eq]
      by_cases hdrops : Drops live group
      · rw [if_pos hdrops, Grouping.closeEach_of_drops hdrops]
      · rw [if_neg hdrops, Grouping.closeEach_of_not_drops hdrops, List.map_cons,
          List.getLast?_cons, Option.getD_some]

/-! ## The kinds of a run -/

/-- How kinds go on while no finger is down. -/
def idle : Language TouchKind := oneTouch.matches' * touches.matches'

/-- How kinds go on while some finger is down. -/
def going : Language TouchKind :=
  (star (char TouchKind.updated)).matches'
    * ((char .ended + char .cancelled : RegularExpression TouchKind).matches' * touches.matches')

lemma idle_eq : idle = (star (char TouchKind.cancelled)).matches'
    * ((char TouchKind.began).matches' * going) := by
  simp only [idle, going, oneTouch, RegularExpression.matches'_mul, mul_assoc]

section Words

variable {kinds : List TouchKind} {rest : Language TouchKind}

lemma singleton_mem_char (kind : TouchKind) : [kind] ∈ (char kind).matches' :=
  Set.mem_singleton [kind]

/-- A repeated kind may be left out. -/
lemma mem_star_mul (kind : TouchKind) (h : kinds ∈ rest) :
    kinds ∈ (star (char kind)).matches' * rest :=
  Language.append_mem_mul (Language.nil_mem_kstar (char kind).matches') h

/-- A repeated kind may come once more. -/
lemma cons_mem_star_mul {kind : TouchKind} (h : kinds ∈ (star (char kind)).matches' * rest) :
    kind :: kinds ∈ (star (char kind)).matches' * rest := by
  have hle : (char kind).matches' * ((star (char kind)).matches' * rest)
      ≤ (star (char kind)).matches' * rest := by
    rw [← mul_assoc]
    gcongr
    exact mul_kstar_le_kstar
  exact hle (Language.append_mem_mul (singleton_mem_char kind) h)

lemma mem_touches_of_mem_idle (h : kinds ∈ idle) : kinds ∈ touches.matches' := by
  have hle : oneTouch.matches' * touches.matches' ≤ touches.matches' := mul_kstar_le_kstar
  exact hle h

lemma cancelled_cons_mem_idle (h : kinds ∈ idle) : .cancelled :: kinds ∈ idle := by
  rw [idle_eq] at h ⊢
  exact cons_mem_star_mul h

lemma began_cons_mem_idle (h : kinds ∈ going) : .began :: kinds ∈ idle := by
  rw [idle_eq]
  exact mem_star_mul .cancelled (Language.append_mem_mul (singleton_mem_char .began) h)

lemma updated_cons_mem_going (h : kinds ∈ going) : .updated :: kinds ∈ going :=
  cons_mem_star_mul h

lemma last_cons_mem_going {last : TouchKind} (hlast : last = .ended ∨ last = .cancelled)
    (h : kinds ∈ touches.matches') : last :: kinds ∈ going := by
  have hmem : [last] ∈ (char .ended + char .cancelled : RegularExpression TouchKind).matches' :=
    hlast.imp (congrArg ([·])) (congrArg ([·]))
  exact mem_star_mul .updated (Language.append_mem_mul hmem h)

end Words

/-- **The machine of two states**: the kinds of batches that keep to the protocol can go on to touches
that end, from where the first of them finds the fingers. -/
theorem exists_touches {before : List TouchPoint} {run : List (TouchBatch × List TouchPoint)}
    (h : KeepsAll before run) :
    ∃ rest, run.map (·.1.kind) ++ rest ∈ if before = [] then idle else going := by
  have hlast : [.ended] ∈ going :=
    last_cons_mem_going (Or.inl rfl) (Language.nil_mem_kstar oneTouch.matches')
  induction run generalizing before with
  | nil =>
      by_cases hbefore : before = []
      · exact ⟨[.began, .ended], by
          rw [if_pos hbefore]
          exact began_cons_mem_idle hlast⟩
      · exact ⟨[.ended], by
          rw [if_neg hbefore]
          exact hlast⟩
  | cons first more ih =>
      obtain ⟨batch, after⟩ := first
      obtain ⟨hfirst, hmore⟩ := h
      obtain ⟨rest, hrest⟩ := ih hmore
      refine ⟨rest, ?_⟩
      rw [List.map_cons, List.cons_append]
      cases hkind : batch.kind with
      | began =>
          obtain ⟨hbefore, hafter⟩ := hfirst.began hkind
          rw [if_neg hafter] at hrest
          rw [if_pos hbefore]
          exact began_cons_mem_idle hrest
      | updated =>
          obtain ⟨hbefore, hafter⟩ := hfirst.updated hkind
          rw [if_neg hafter] at hrest
          rw [if_neg hbefore]
          exact updated_cons_mem_going hrest
      | ended =>
          obtain ⟨hbefore, hafter⟩ := hfirst.ended hkind
          rw [if_pos hafter] at hrest
          rw [if_neg hbefore]
          exact last_cons_mem_going (Or.inl rfl) (mem_touches_of_mem_idle hrest)
      | cancelled =>
          have hafter : after = [] := hfirst.after_eq.trans (if_pos hkind)
          rw [if_pos hafter] at hrest
          split
          · exact cancelled_cons_mem_idle hrest
          · exact last_cons_mem_going (Or.inr rfl) (mem_touches_of_mem_idle hrest)

/-- **Batches keep to the touch protocol**, whatever the fingers report: each keeps to it, given the
fingers that the one before it leaves down; the last leaves down those that the grouping has; and the
kinds are touches one after another, the last of which may go on. -/
theorem batches_keep_protocol (inputs : List Input) :
    (closeEach [] (Grouping.groups {} inputs)).map Prod.fst = Grouping.batches {} inputs ∧
      KeepsAll [] (closeEach [] (Grouping.groups {} inputs)) ∧
      (Grouping.after {} inputs).live
        = (((closeEach [] (Grouping.groups {} inputs)).map Prod.snd).getLast?).getD [] ∧
      ∃ rest, (Grouping.batches {} inputs).map (·.kind) ++ rest ∈ touches.matches' := by
  have hbatches := Grouping.batches_eq {} inputs
  have hnone : (fingersOf []).Nodup := List.nodup_nil
  have hkeeps := keepsAll_closeEach hnone (Grouping.nodup_of_mem_groups inputs)
  obtain ⟨rest, hrest⟩ := exists_touches hkeeps
  refine ⟨hbatches.symm, hkeeps,
    (live_after {} inputs).trans (liveAfter_eq_getLast? [] _), rest, ?_⟩
  rw [hbatches, List.map_map]
  exact mem_touches_of_mem_idle hrest

end ViewInput.Touch
