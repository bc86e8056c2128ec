import ViewInput.Proofs.Touch.Backlog

/-!
# Which finger is which, whoever claims the touch

The selection controller answers every probe as it likes, and the page hears of a batch or does not.
That decides what becomes of the batch, but **not which finger has which slot**.  What a tracker
tells fingers apart by are its slots and the fingers of the batch before, and a batch moves these on
by itself: `Roster.take` knows neither the answer of the controller, nor times, nor modifiers, nor
whether the page takes part in the touch.

So two trackers that get the same batches keep the same slots, whatever the controller claims
(`same_batches_same_slots`).
-/

namespace ViewInput.Touch

open Device (TouchBatch TouchPoint)

/-- The points of a batch with the slots that they get. -/
def Slots.contactsOf (s : Slots) (points : List TouchPoint) : List Contact :=
  match s.bindBatch points with
  | .ok (contacts, _) => contacts
  | .error _ => []

/-- What a tracker tells fingers apart by: the slots, and the fingers of the batch before. -/
structure Roster where
  slots : Slots := {}
  previous : List Contact := []
deriving DecidableEq

/-- **What a batch says about fingers**, apart from what becomes of it. -/
structure Account where
  /-- The points of the batch, with their slots. -/
  contacts : List Contact
  /-- The fingers that the selection controller is shown. -/
  shown : Option (List Page.MotionPointer)
  /-- How fingers are told apart afterwards. -/
  roster : Roster
deriving DecidableEq

/-- **A batch by itself.** -/
def Roster.take (r : Roster) (batch : TouchBatch) : Except InputError Account :=
  match r.slots.bindBatch batch.points with
  | .error e => .error e
  | .ok (contacts, slots) =>
    let shown := (probe? batch.kind (deliveryOrder contacts) r.previous).map (·.contacts)
    let meant := shown.getD []
    .ok
      { contacts := contacts
        shown := shown.map fun contacts => contacts.map pointer
        roster :=
          { slots := if batch.kind = .cancelled then slots.releaseAll (meant.map (·.point.finger))
              else slots
            previous := if batch.kind.ends then [] else meant } }

namespace Tracker

def roster (t : Tracker) : Roster := ⟨t.slots, t.previous⟩

/-- What a tracker says about the fingers of a batch. -/
def account (t : Tracker) (offer : Offer) : Except InputError Account :=
  match t.answer offer with
  | .error e => .error e
  | .ok q =>
    .ok
      { contacts := t.slots.contactsOf offer.batch.points
        shown := q.probe.map (·.pointers)
        roster := q.tracker.roster }

/-- What a tracker says about the fingers of a stream, batch by batch. -/
def accounts : Tracker → List Offer → List (Except InputError Account)
  | _, [] => []
  | t, offer :: rest => t.account offer :: (t.after offer).accounts rest

variable {t : Tracker} {offer : Offer}

lemma settle_roster (t : Tracker) (kind : Device.TouchKind) (contacts : List Contact) :
    (t.settle kind contacts).roster =
      { slots := if kind = .cancelled then t.slots.releaseAll (contacts.map (·.point.finger))
          else t.slots
        previous := if kind.ends then [] else contacts } := by
  cases kind <;> rfl

/-- Whatever becomes of a batch of which something is shown, the tracker settles with the fingers
that are shown. -/
lemma answer_of_shown {contacts : List Contact} {slots : Slots} {shown : Draft}
    (hbind : t.slots.bindBatch offer.batch.points = .ok (contacts, slots))
    (hprobe : probe? offer.batch.kind (deliveryOrder contacts) t.previous = some shown) :
    ∃ w outcome next, w.slots = slots ∧ t.answer offer = .ok
      { tracker := settle w offer.batch.kind shown.contacts
        probe := some (shown.event offer.modifiers offer.time offer.id)
        outcome := outcome
        nextId := next } := by
  simp only [answer, sequence, hbind, hprobe]
  split
  · exact ⟨_, _, _, rfl, rfl⟩
  · split
    · exact ⟨_, _, _, rfl, rfl⟩
    · exact ⟨_, _, _, rfl, rfl⟩

/-- **A tracker moves its roster on as the batch does by itself.** -/
theorem account_eq (t : Tracker) (offer : Offer) : t.account offer = t.roster.take offer.batch := by
  cases hbind : t.slots.bindBatch offer.batch.points with
  | error e => simp only [account, answer, sequence, Roster.take, roster, hbind]
  | ok bound =>
      obtain ⟨contacts, slots⟩ := bound
      cases hprobe : probe? offer.batch.kind (deliveryOrder contacts) t.previous with
      | none =>
          -- Nothing is shown, since the batch has no fingers.
          obtain ⟨rfl, -⟩ := probe?_eq_none_iff.mp hprobe
          simp only [account, answer, sequence, Roster.take, roster, hbind, hprobe,
            Slots.contactsOf]
          exact congrArg (fun r => Except.ok (Account.mk [] none r)) (settle_roster _ _ _)
      | some shown =>
          obtain ⟨w, outcome, next, rfl, hans⟩ := answer_of_shown hbind hprobe
          simp only [account, hans, settle_roster, Slots.contactsOf]
          simp only [Roster.take, roster, hbind, hprobe]
          rfl

lemma after_roster (t : Tracker) (offer : Offer) :
    (t.after offer).roster = match t.account offer with
      | .error _ => t.roster
      | .ok a => a.roster := by
  unfold after account
  cases t.answer offer <;> rfl

/-- Two trackers with one roster that get the same batches say the same about their fingers. -/
lemma accounts_eq {t t' : Tracker} (hroster : t.roster = t'.roster) {offers offers' : List Offer}
    (hbatches : offers.map (·.batch) = offers'.map (·.batch)) :
    t.accounts offers = t'.accounts offers' := by
  induction offers generalizing t t' offers' with
  | nil =>
      obtain rfl : offers' = [] := List.map_eq_nil_iff.mp hbatches.symm
      rfl
  | cons offer rest ih =>
      obtain ⟨offer', rest', rfl, hbatch, hrest⟩ := List.map_eq_cons_iff.mp hbatches.symm
      have haccount : t.account offer = t'.account offer' := by
        rw [account_eq, account_eq, hroster, hbatch]
      have hafter : (t.after offer).roster = (t'.after offer').roster := by
        rw [after_roster, after_roster, haccount, hroster]
      rw [accounts, accounts, haccount, ih hafter hrest.symm]

end Tracker

/-- **Fingers have the same slots, whoever claims the touch.**  Two fresh trackers that get the same
batches, whatever these are, say the same about their fingers, batch by batch, whatever the selection
controller claims in each of them, and whatever the times, the modifiers and the ids of the events:
a batch fails in both with the same error, or in neither; its points get the same slots, the
controller is shown the same fingers, and the slots, bits and bindings in order, are the same
afterwards, as are the fingers that are remembered. -/
theorem same_batches_same_slots {offers offers' : List Offer}
    (hbatches : offers.map (·.batch) = offers'.map (·.batch)) :
    Tracker.accounts {} offers = Tracker.accounts {} offers' :=
  Tracker.accounts_eq rfl hbatches

/-- Batches as they should not be: one names a finger in two states and another one twice, one has
more fingers than there are slots, and one ends a touch that was cancelled. -/
def strangeBatches : List TouchBatch :=
  [{ kind := .began, points := [pointAt 7 .pressed, pointAt 3 .pressed] },
   { kind := .updated
     points := [pointAt 3 .released, pointAt 9 .pressed, pointAt 3 .pressed, pointAt 9 .updated] },
   { kind := .updated, points := (List.range 17).map fun n => pointAt n .pressed },
   { kind := .cancelled, points := [] },
   { kind := .ended, points := [] },
   { kind := .cancelled, points := [pointAt 9 .released, pointAt 5 .stationary] }]

/-- The batches, none of them claimed. -/
def strangeUnclaimed : List Offer := strangeBatches.map fun batch => { batch := batch }

/-- The batches, each of them claimed, at another time and with other modifiers. -/
def strangeClaimed : List Offer := strangeBatches.map fun batch =>
  { batch := batch, claimed := true, time := 7, modifiers := { shift := true }, id := 40 }

theorem same_batches_same_slots_strangeBatches :
    strangeUnclaimed.map (·.batch) = strangeClaimed.map (·.batch) ∧
    Tracker.accounts {} strangeUnclaimed = Tracker.accounts {} strangeClaimed ∧
    (Tracker.accounts {} strangeClaimed).map
        (fun a => a.toOption.map fun a => (a.contacts.map (·.slot), a.roster.slots.fingers))
      = [some ([0, 1], [7, 3]), some ([1, 2, 1, 2], [7, 9]), none, some ([], [7]), some ([], [7]),
         some ([1, 2], [7])] := by
  have hbatches : strangeUnclaimed.map (·.batch) = strangeClaimed.map (·.batch) := rfl
  exact ⟨hbatches, same_batches_same_slots hbatches, by decide⟩

end ViewInput.Touch
