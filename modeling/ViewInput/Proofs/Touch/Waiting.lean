import Mathlib.Data.List.DropRight
import Mathlib.Data.List.Induction
import ViewInput.Proofs.Touch.Backlog

/-!
# Which motion events wait

The tracker remembers the ids of the motion events that the engine has not acknowledged, up to a
limit: when there are too many, the oldest are dropped.  An acknowledgement settles its own event
and all older ones.

These two ways out of the backlog do not get into each other's way.  **Of the ids that were sent and
are newer than every one acknowledged, the newest wait**, as many as the limit allows
(`newest_outstanding_wait`).  All ids come from one counter that others use, too, so that there are
gaps between them; what counts is that they go up (`Waits`).
-/

namespace ViewInput.Touch.Tracker

open Page (EventId)

/-! ## The newest of some ids -/

section Newest

variable {ids : List EventId}

lemma keepNewest_eq_rtake (ids : List EventId) :
    keepNewest ids = ids.rtake (min maxUnacknowledged ids.length) := by
  have hdrop : ids.length - min maxUnacknowledged ids.length
      = ids.length - maxUnacknowledged := by omega
  rw [keepNewest, List.rtake, hdrop]

lemma length_keepNewest_le (ids : List EventId) :
    (keepNewest ids).length ≤ maxUnacknowledged := by
  rw [keepNewest, List.length_drop]
  omega

lemma keepNewest_of_length_le (h : ids.length ≤ maxUnacknowledged) : keepNewest ids = ids := by
  rw [keepNewest, Nat.sub_eq_zero_of_le h, List.drop_zero]

/-- What was dropped before does not count when more is added. -/
lemma keepNewest_append (old new : List EventId) :
    keepNewest (keepNewest old ++ new) = keepNewest (old ++ new) := by
  have hfront : keepNewest old ++ new = (old ++ new).drop (old.length - maxUnacknowledged) :=
    (List.drop_append_of_le_length (Nat.sub_le ..)).symm
  have hlength : old.length - maxUnacknowledged
      + (((old ++ new).drop (old.length - maxUnacknowledged)).length - maxUnacknowledged)
        = (old ++ new).length - maxUnacknowledged := by
    simp only [List.length_drop, List.length_append]
    omega
  calc keepNewest (keepNewest old ++ new)
      = keepNewest ((old ++ new).drop (old.length - maxUnacknowledged)) := by rw [hfront]
    _ = (old ++ new).drop (old.length - maxUnacknowledged
          + (((old ++ new).drop (old.length - maxUnacknowledged)).length - maxUnacknowledged)) :=
        List.drop_drop
    _ = keepNewest (old ++ new) := by rw [hlength, keepNewest]

/-- What was dropped before is older than any id that was kept. -/
lemma filter_keepNewest (hsorted : ids.Pairwise (· < ·)) {id : EventId}
    (hid : id ∈ keepNewest ids) :
    (keepNewest ids).filter (fun a => decide (id < a))
      = keepNewest (ids.filter fun a => decide (id < a)) := by
  have hsplit : ids.take (ids.length - maxUnacknowledged) ++ keepNewest ids = ids :=
    List.take_append_drop ..
  have hdropped : (ids.take (ids.length - maxUnacknowledged)).filter (fun a => decide (id < a))
      = [] := by
    rw [← hsplit, List.pairwise_append] at hsorted
    refine List.filter_eq_nil_iff.mpr fun a ha => ?_
    simpa using (hsorted.2.2 a ha id hid).le
  have hfilter : ids.filter (fun a => decide (id < a))
      = (keepNewest ids).filter fun a => decide (id < a) := by
    conv_lhs => rw [← hsplit, List.filter_append, hdropped, List.nil_append]
  rw [hfilter]
  refine (keepNewest_of_length_le ?_).symm
  exact (List.length_filter_le ..).trans (length_keepNewest_le ids)

end Newest

/-! ## Calls -/

/-- One call of the tracker. -/
inductive Call where
  /-- A batch, once others have taken some ids.  Its probe gets the next one. -/
  | batch (taken : Nat) (offer : Offer)
  | acknowledge (id : EventId)

/-- A tracker with the counter of ids and with all that has become of them. -/
structure History where
  tracker : Tracker := {}
  nextId : EventId := 1
  /-- The ids of the motion events, in order. -/
  sent : List EventId := []
  probes : List EventId := []
  /-- The ids whose acknowledgement was waited for. -/
  acknowledged : List EventId := []

def History.next (h : History) : Call → History
  | .batch taken offer =>
    match h.tracker.answer { offer with id := h.nextId + taken } with
    | .error _ => { h with nextId := h.nextId + taken }
    | .ok q =>
      { h with
        tracker := q.tracker
        nextId := q.nextId
        sent := h.sent ++ q.outcome.events.map (·.id)
        probes := h.probes ++ q.probe.toList.map (·.id) }
  | .acknowledge id =>
    { h with
      tracker := (h.tracker.acknowledge id).1
      acknowledged :=
        if (h.tracker.acknowledge id).2 then h.acknowledged ++ [id] else h.acknowledged }

/-- **The history of a run**, from a new tracker. -/
def history (calls : List Call) : History := calls.foldl History.next {}

lemma history_concat (calls : List Call) (call : Call) :
    history (calls ++ [call]) = (history calls).next call := by
  simp [history]

/-- **The ids that are outstanding**: those sent that are newer than every one acknowledged. -/
def History.outstanding (h : History) : List EventId :=
  h.sent.filter fun id => h.acknowledged.all fun a => decide (a < id)

/-! ## One call -/

/-- **An acknowledgement that is waited for** takes its id and the older ones. -/
lemma acknowledge_of_mem {t : Tracker} (hsorted : t.unacknowledged.Pairwise (· < ·)) {id : EventId}
    (hid : id ∈ t.unacknowledged) : t.acknowledge id =
      ({ t with unacknowledged := t.unacknowledged.filter fun a => decide (id < a) }, true) := by
  rcases t.acknowledge_cases id with ⟨hnot, -⟩ | ⟨older, newer, hids, heq⟩
  · exact absurd hid hnot
  · have hnewer : t.unacknowledged.filter (fun a => decide (id < a)) = newer := by
      rw [hids, List.pairwise_append, List.pairwise_cons] at hsorted
      obtain ⟨-, ⟨hlater, -⟩, hearlier⟩ := hsorted
      have hgone : older.filter (fun a => decide (id < a)) = [] :=
        List.filter_eq_nil_iff.mpr fun a ha => by simpa using (hearlier a ha id (by simp)).le
      have hkept : newer.filter (fun a => decide (id < a)) = newer :=
        List.filter_eq_self.mpr fun a ha => decide_eq_true (hlater a ha)
      rw [hids, List.filter_append, hgone, List.nil_append,
        List.filter_cons_of_neg (by simp), hkept]
    refine Prod.ext ?_ (by simp [acknowledge, hid])
    rw [heq, hnewer]

lemma acknowledge_of_notMem {t : Tracker} {id : EventId} (hid : id ∉ t.unacknowledged) :
    t.acknowledge id = (t, false) := by
  simp [acknowledge, hid]

/-- **A probe has an id of its own**, older than those of the events that it goes before. -/
lemma probe_of_answer {t : Tracker} {offer : Offer} {q : Sequenced}
    (hans : t.answer offer = .ok q) : ∀ probe ∈ q.probe, probe.id = offer.id ∧
      offer.id < q.nextId ∧ ∀ id ∈ q.outcome.events.map (·.id), offer.id < id := by
  cases hbind : t.slots.bindBatch offer.batch.points with
  | error e => simp [answer, sequence, hbind] at hans
  | ok bound =>
      simp only [answer, sequence, hbind] at hans
      split at hans
      · cases hans
        intro probe hprobe
        cases hprobe
      · rename_i shown hshown
        have hown : ∀ probe ∈ some (shown.event offer.modifiers offer.time offer.id),
            probe.id = offer.id := fun probe hprobe => by
          rw [← Option.mem_some_iff.mp hprobe]
          rfl
        split at hans
        · cases hans
          exact fun probe hprobe => ⟨hown probe hprobe, Nat.lt_succ_self _, List.forall_mem_nil _⟩
        · split at hans
          · cases hans
            exact fun probe hprobe =>
              ⟨hown probe hprobe, Nat.lt_succ_self _, List.forall_mem_nil _⟩
          · cases hans
            refine fun probe hprobe => ⟨hown probe hprobe, ?_, fun id hid => ?_⟩
            · exact Nat.lt_of_lt_of_le (Nat.lt_succ_self _) (Nat.le_add_right ..)
            · rw [Outcome.events, map_id_events] at hid
              exact (List.mem_range'_1.mp hid).1

/-! ## Runs -/

/-- **What becomes of the ids of a run.** -/
structure Waits (h : History) : Prop where
  sorted : h.sent.Pairwise (· < ·)
  old : ∀ id ∈ h.sent ++ h.probes, id < h.nextId
  apart : ∀ id ∈ h.probes, id ∉ h.sent
  known : ∀ id ∈ h.acknowledged, id ∈ h.sent
  waiting : h.tracker.unacknowledged = keepNewest h.outstanding

variable {h : History}

lemma Waits.outstanding_sorted (w : Waits h) : h.outstanding.Pairwise (· < ·) := w.sorted.filter _

lemma Waits.waiting_sorted (w : Waits h) : h.tracker.unacknowledged.Pairwise (· < ·) := by
  rw [w.waiting]
  exact w.outstanding_sorted.drop

lemma Waits.mem_sent (w : Waits h) {id : EventId} (hid : id ∈ h.tracker.unacknowledged) :
    id ∈ h.sent := by
  rw [w.waiting] at hid
  exact (List.mem_filter.mp (List.mem_of_mem_drop hid)).1

lemma waits_new : Waits {} where
  sorted := List.Pairwise.nil
  old := List.forall_mem_nil _
  apart := List.forall_mem_nil _
  known := List.forall_mem_nil _
  waiting := rfl

/-- Ids that the others take leave everything else. -/
lemma Waits.skip (w : Waits h) (taken : Nat) : Waits { h with nextId := h.nextId + taken } where
  sorted := w.sorted
  old := fun id hid => (w.old id hid).trans_le (Nat.le_add_right ..)
  apart := w.apart
  known := w.known
  waiting := w.waiting

/-- **New ids** come last, and wait. -/
lemma Waits.issue (w : Waits h) {tracker : Tracker} {nextId : EventId} {new probes : List EventId}
    (hnext : h.nextId ≤ nextId) (hsorted : new.Pairwise (· < ·))
    (hnew : ∀ id ∈ new, h.nextId ≤ id ∧ id < nextId)
    (hprobes : ∀ id ∈ probes, h.nextId ≤ id ∧ id < nextId ∧ id ∉ new)
    (hwaiting : tracker.unacknowledged = keepNewest (h.tracker.unacknowledged ++ new)) :
    Waits { h with
      tracker := tracker
      nextId := nextId
      sent := h.sent ++ new
      probes := h.probes ++ probes } := by
  have hsent : ∀ id ∈ h.sent, id < h.nextId := fun id hid =>
    w.old id (List.mem_append_left _ hid)
  have hshown : ∀ id ∈ h.probes, id < h.nextId := fun id hid =>
    w.old id (List.mem_append_right _ hid)
  refine ⟨List.pairwise_append.mpr ⟨w.sorted, hsorted, fun a ha b hb => ?_⟩, fun id hid => ?_,
    fun id hid => ?_, fun id hid => List.mem_append_left _ (w.known id hid), ?_⟩
  · exact (hsent a ha).trans_le (hnew b hb).1
  · simp only [List.mem_append] at hid
    rcases hid with (hid | hid) | hid | hid
    · exact (hsent id hid).trans_le hnext
    · exact (hnew id hid).2
    · exact (hshown id hid).trans_le hnext
    · exact (hprobes id hid).2.1
  · rw [List.mem_append, not_or]
    rcases List.mem_append.mp hid with hid | hid
    · exact ⟨w.apart id hid, fun hmem => ((hshown id hid).trans_le (hnew id hmem).1).false⟩
    · exact ⟨fun hmem => ((hsent id hmem).trans_le (hprobes id hid).1).false, (hprobes id hid).2.2⟩
  · have hopen : new.filter (fun id => h.acknowledged.all fun a => decide (a < id)) = new := by
      refine List.filter_eq_self.mpr fun id hid => List.all_eq_true.mpr fun a ha => ?_
      exact decide_eq_true ((hsent a (w.known a ha)).trans_le (hnew id hid).1)
    rw [hwaiting, w.waiting, keepNewest_append]
    simp only [History.outstanding, List.filter_append, hopen]

/-- **One batch.** -/
lemma Waits.batch (w : Waits h) (taken : Nat) (offer : Offer) :
    Waits (h.next (.batch taken offer)) := by
  rw [History.next]
  cases hans : h.tracker.answer { offer with id := h.nextId + taken } with
  | error e => exact w.skip taken
  | ok q =>
      have hleaves := leaves_of_answer hans
      obtain ⟨first, hfirst, hnext, hids⟩ := hleaves.ids
      have hstart : h.nextId ≤ first := (Nat.le_add_right ..).trans hfirst
      have hnew : ∀ id ∈ q.outcome.events.map (·.id), h.nextId ≤ id ∧ id < q.nextId := by
        intro id hid
        rw [hids] at hid
        obtain ⟨hge, hlt⟩ := List.mem_range'_1.mp hid
        exact ⟨hstart.trans hge, hnext ▸ hlt⟩
      refine w.issue (hnext ▸ hstart.trans (Nat.le_add_right ..)) (hids ▸ List.pairwise_lt_range') hnew (fun id hid => ?_) ?_
      · obtain ⟨probe, hshown, rfl⟩ := List.mem_map.mp hid
        obtain ⟨hown, hlt, hlater⟩ := probe_of_answer hans probe (Option.mem_toList.mp hshown)
        rw [hown]
        exact ⟨Nat.le_add_right .., hlt, fun hmem => (hlater _ hmem).false⟩
      · rw [hleaves.waiting]
        split
        · rfl
        · rename_i hunheard
          rw [q.outcome.events_of_not_heard (Bool.eq_false_iff.mpr hunheard), w.waiting,
            keepNewest_append, List.map_nil, List.append_nil]

/-- **One acknowledgement.** -/
lemma Waits.acknowledge (w : Waits h) (id : EventId) : Waits (h.next (.acknowledge id)) := by
  rw [History.next]
  by_cases hid : id ∈ h.tracker.unacknowledged
  · have houtstanding : h.sent.filter (fun b => (h.acknowledged ++ [id]).all fun a => decide (a < b))
        = h.outstanding.filter fun b => decide (id < b) := by
      rw [History.outstanding, List.filter_filter]
      refine List.filter_congr fun b _ => ?_
      rw [List.all_append, Bool.and_comm]
      simp
    rw [acknowledge_of_mem w.waiting_sorted hid, if_pos rfl]
    refine ⟨w.sorted, w.old, w.apart, fun a ha => ?_, ?_⟩
    · rcases List.mem_append.mp ha with hold | hnew
      · exact w.known a hold
      · rw [List.mem_singleton.mp hnew]
        exact w.mem_sent hid
    · have hkept : id ∈ keepNewest h.outstanding := w.waiting ▸ hid
      rw [History.outstanding, houtstanding, ← filter_keepNewest w.outstanding_sorted hkept,
        ← w.waiting]
  · rw [acknowledge_of_notMem hid]
    exact w

lemma waits_history (calls : List Call) : Waits (history calls) := by
  induction calls using List.reverseRecOn with
  | nil => exact waits_new
  | append_singleton calls call ih =>
      rw [history_concat]
      cases call with
      | batch taken offer => exact ih.batch taken offer
      | acknowledge id => exact ih.acknowledge id

/-- **The newest outstanding events wait.**  In any run of batches, answered, claimed or failed, and
of acknowledgements, the ids that wait go up.  They are the newest of those that were sent and are
newer than every one acknowledged: all of them, or the last 128.  An acknowledgement is recognized
just if its id waits; then it takes this id and those before it, and otherwise it changes nothing.
And the id of a probe is not among those sent, so that it never waits. -/
theorem newest_outstanding_wait (calls : List Call) :
    let h := history calls
    let t := h.tracker
    t.unacknowledged.Pairwise (· < ·) ∧
    t.unacknowledged = h.outstanding.rtake (min 128 h.outstanding.length) ∧
    (∀ id, (t.acknowledge id).2 = true ↔ id ∈ t.unacknowledged) ∧
    (∀ id, (t.acknowledge id).1 = if id ∈ t.unacknowledged
      then { t with unacknowledged := t.unacknowledged.filter fun a => decide (id < a) }
      else t) ∧
    ∀ id ∈ h.probes, id ∉ h.sent ∧ id ∉ t.unacknowledged := by
  intro h t
  have w : Waits h := waits_history calls
  have hsorted : t.unacknowledged.Pairwise (· < ·) := w.waiting_sorted
  refine ⟨hsorted, w.waiting.trans (keepNewest_eq_rtake _), fun id => ?_, fun id => ?_,
    fun id hid => ⟨w.apart id hid, fun hmem => w.apart id hid (w.mem_sent hmem)⟩⟩
  · by_cases hid : id ∈ t.unacknowledged
    · simp [acknowledge_of_mem hsorted hid, hid]
    · simp [acknowledge_of_notMem hid, hid]
  · by_cases hid : id ∈ t.unacknowledged
    · rw [acknowledge_of_mem hsorted hid, if_pos hid]
    · rw [acknowledge_of_notMem hid, if_neg hid]

/-- One finger is on the screen. -/
def fingerOffer (kind : Device.TouchKind) (state : Device.TouchState) (claimed : Bool) : Offer :=
  { batch := { kind := kind, points := [pointAt 7 state] }, claimed := claimed }

/-- A finger goes down and moves.  One movement is claimed, and the press is acknowledged. -/
def restlessFinger : List Call :=
  [.batch 0 (fingerOffer .began .pressed false), .batch 2 (fingerOffer .updated .updated false),
   .batch 0 (fingerOffer .updated .updated true), .acknowledge 2,
   .batch 0 (fingerOffer .updated .updated false)]

theorem newest_outstanding_wait_restlessFinger :
    let h := history restlessFinger
    h.sent = [2, 6, 9] ∧ h.tracker.unacknowledged = [6, 9] ∧
    (h.tracker.acknowledge 6).2 = true ∧ (h.tracker.acknowledge 2).1 = h.tracker ∧
    7 ∈ h.probes ∧ 7 ∉ h.tracker.unacknowledged := by
  intro h
  obtain ⟨-, hwaiting, hrecognized, hacknowledged, hprobes⟩ :=
    newest_outstanding_wait restlessFinger
  have hqueue : h.tracker.unacknowledged = [6, 9] := hwaiting.trans (by decide)
  have hprobe : 7 ∈ h.probes := by decide
  refine ⟨by decide, hqueue, (hrecognized 6).mpr ?_, ?_, hprobe, (hprobes 7 hprobe).2⟩
  · rw [hqueue]
    decide
  · rw [hacknowledged 2, hqueue]
    rfl

end ViewInput.Touch.Tracker
