import ViewInput.Proofs.Composition.Reposts

/-!
# Posting once more comes to an end

A host that delivers what the composition posts could go on with that for ever.  It does not, for
two reasons.

**An event is posted only when a text that is being composed gets in doubt** (`turn_cases`), and
nothing but an event that says something makes that so again.  Hence no event is posted more often
than something was said.

**Every delivery brings the end nearer** (`remaining_redeliver?`): each takes away one event that
waits, and the one that may be posted again is paid for by the phase.
-/

namespace ViewInput.Composition

open Device (InputMethodEvent KeyEvent)

/-! ## What a call does to the phase -/

/-- Whether a call is an event of the input method that is not empty. -/
def Call.speaks : Call → Bool
  | .event e _ => !e.isEmpty
  | _ => false

section Phases

variable (c : Composition)

/-- An empty event is posted once more if it puts a text in doubt, and else it ends the
composition. -/
lemma receiveEmpty_cases (event : InputMethodEvent) (hasSelection : Bool) :
    (c.phase = .composing ∧ (c.receiveEmpty event hasSelection).1.phase = .awaiting ∧
      reposted (c.receiveEmpty event hasSelection).2 = [event]) ∨
    ((c.receiveEmpty event hasSelection).1.phase = .inactive ∧
      reposted (c.receiveEmpty event hasSelection).2 = []) := by
  unfold receiveEmpty
  split
  · rename_i hcomposing
    exact Or.inl ⟨hcomposing.1, rfl, rfl⟩
  · refine Or.inr ⟨rfl, ?_⟩
    cases c.isActive <;> rfl

lemma receive_of_isEmpty {event : InputMethodEvent} (hempty : event.isEmpty = true)
    (context : TextContext) :
    (c.phase = .composing ∧ (c.receive event context).1.phase = .awaiting ∧
      reposted (c.receive event context).2 = [event]) ∨
    ((c.receive event context).1.phase = .inactive ∧
      reposted (c.receive event context).2 = []) := by
  unfold receive
  simp only
  rw [if_pos hempty, reposted_append, reposted_select, List.nil_append]
  exact receiveEmpty_cases c event _

/-- A key ends a composition or leaves it alone. -/
lemma key_phase (event : KeyEvent) :
    (c.key event).1.phase = .inactive ∨ (c.key event).1.phase = c.phase := by
  unfold key
  split
  · exact Or.inr rfl
  · split
    · exact Or.inl rfl
    · split
      · exact Or.inr rfl
      · exact Or.inl rfl

lemma pointerDown_phase (platform : Platform) :
    (c.pointerDown platform).1.phase = .inactive ∨
      (c.pointerDown platform).1.phase = c.phase := by
  unfold pointerDown
  split
  · cases platform <;> exact Or.inl rfl
  · exact Or.inr rfl

/-- **What a call does to the phase.**  It says something, or it puts a text in doubt and an event
is posted once more, or it ends the composition if it changes the phase at all. -/
lemma respond_cases (call : Call) :
    (call.speaks = true ∧ reposted (c.respond call).2 = []) ∨
    (call.speaks = false ∧ c.phase = .composing ∧ (c.respond call).1.phase = .awaiting ∧
      (reposted (c.respond call).2).length = 1) ∨
    (call.speaks = false ∧
      ((c.respond call).1.phase = .inactive ∨ (c.respond call).1.phase = c.phase) ∧
      reposted (c.respond call).2 = []) := by
  cases call with
  | event event context =>
      cases hempty : event.isEmpty with
      | false =>
          exact Or.inl ⟨by simp [Call.speaks, hempty],
            reposted_receive_of_not_isEmpty c hempty context⟩
      | true =>
          have hsilent : (Call.event event context).speaks = false := by simp [Call.speaks, hempty]
          rcases receive_of_isEmpty c hempty context with ⟨hcomposing, hdoubt, hpost⟩ |
            ⟨hend, hnone⟩
          · exact Or.inr (Or.inl ⟨hsilent, hcomposing, hdoubt, by rw [respond, hpost]; rfl⟩)
          · exact Or.inr (Or.inr ⟨hsilent, Or.inl hend, hnone⟩)
  | key event => exact Or.inr (Or.inr ⟨rfl, key_phase c event, reposted_key c event⟩)
  | pointer platform =>
      exact Or.inr (Or.inr ⟨rfl, pointerDown_phase c platform, reposted_pointerDown c platform⟩)
  | cancel => exact Or.inr (Or.inr ⟨rfl, Or.inl rfl, reposted_cancel c⟩)

end Phases

/-! ## Turns -/

/-- Whether a turn is an event that is not empty.  What is delivered once more is always empty. -/
def Turn.speaks : Turn → Bool
  | .call c => c.speaks
  | .redeliver _ _ => false

namespace Host

variable {h h' : Host}

/-- What is told in a turn. -/
def told (h : Host) : Turn → List Action
  | .call call => (h.composition.respond call).2
  | .redeliver place context =>
    match h.waiting[place]? with
    | some event => (h.composition.respond (.event event context)).2
    | none => []

lemma log_turn (h : Host) (t : Turn) : (h.turn t).log = h.log ++ h.told t := by
  cases t with
  | call call => rfl
  | redeliver place context =>
      cases hplace : h.waiting[place]? <;> simp [turn, redeliver?, told, take, hplace]

/-- **What a turn does to the phase**, as for a call. -/
lemma turn_cases (hwait : h.EmptyOnly) (t : Turn) :
    (t.speaks = true ∧ reposted (h.told t) = []) ∨
    (t.speaks = false ∧ h.composition.phase = .composing ∧
      (h.turn t).composition.phase = .awaiting ∧ (reposted (h.told t)).length = 1) ∨
    (t.speaks = false ∧
      ((h.turn t).composition.phase = .inactive ∨
        (h.turn t).composition.phase = h.composition.phase) ∧
      reposted (h.told t) = []) := by
  cases t with
  | call call => exact respond_cases h.composition call
  | redeliver place context =>
      cases hplace : h.waiting[place]? with
      | none => simp [Turn.speaks, turn, redeliver?, told, hplace, reposted]
      | some event =>
          have hempty : event.isEmpty = true := by
            have hsays := hwait event (List.mem_of_getElem? hplace)
            rw [saysNothing, Bool.and_eq_true] at hsays
            exact hsays.1
          have hcases := respond_cases h.composition (.event event context)
          simpa [Call.speaks, Turn.speaks, hempty, turn, redeliver?, told, take, hplace]
            using hcases

/-- As long as nothing is said, no text comes to be composed. -/
lemma phase_ne_composing_of_silent (hwait : h.EmptyOnly) (hphase : h.composition.phase ≠ .composing)
    {turns : List Turn} (hsilent : ∀ t ∈ turns, t.speaks = false) :
    (turns.foldl turn h).composition.phase ≠ .composing := by
  induction turns generalizing h with
  | nil => exact hphase
  | cons t rest ih =>
      have ht := hsilent t List.mem_cons_self
      refine ih (hwait.turn t) ?_ fun u hu => hsilent u (List.mem_cons_of_mem t hu)
      rcases turn_cases hwait t with ⟨hspeaks, -⟩ | ⟨-, hcomposing, -⟩ | ⟨-, hend | hstill, -⟩
      · simp [ht] at hspeaks
      · exact absurd hcomposing hphase
      · simp [hend]
      · rwa [hstill]

/-- An event is posted only in a turn that puts a text in doubt, and then it is one. -/
lemma doubts_of_posts (hwait : h.EmptyOnly) {t : Turn} (hposts : reposted (h.told t) ≠ []) :
    h.composition.phase = .composing ∧ (h.turn t).composition.phase = .awaiting ∧
      (reposted (h.told t)).length = 1 := by
  rcases turn_cases hwait t with ⟨-, hnone⟩ | ⟨-, hdoubt⟩ | ⟨-, -, hnone⟩
  · exact absurd hnone hposts
  · exact hdoubt
  · exact absurd hnone hposts

/-- Between two turns that post something, something is said: in silence the text stays out of the
phase that the second needs. -/
lemma exists_speaks_between (hwait : h.EmptyOnly) {t t' : Turn} {between : List Turn}
    (hposts : reposted (h.told t) ≠ [])
    (hposts' : reposted ((between.foldl turn (h.turn t)).told t') ≠ []) :
    ∃ u ∈ between, u.speaks = true := by
  obtain ⟨-, hdoubt, -⟩ := doubts_of_posts hwait hposts
  obtain ⟨hcomposing, -, -⟩ := doubts_of_posts ((hwait.turn t).turns between) hposts'
  by_contra hspeaks
  have hsilent : ∀ u ∈ between, u.speaks = false := by simpa using hspeaks
  exact phase_ne_composing_of_silent (hwait.turn t) (by simp [hdoubt]) hsilent hcomposing

/-- The texts that may still get in doubt: one if a text is composed and in no doubt, and else
none. -/
def undoubted (h : Host) : Nat := if h.composition.phase = .composing then 1 else 0

lemma undoubted_le_one (h : Host) : h.undoubted ≤ 1 := by
  unfold undoubted
  split <;> omega

/-- What a turn posts once more is paid for by something that is said, now or before. -/
lemma reposted_told_le (hwait : h.EmptyOnly) (t : Turn) :
    (reposted (h.told t)).length + (h.turn t).undoubted
      ≤ h.undoubted + (if t.speaks then 1 else 0) := by
  rcases turn_cases hwait t with ⟨hspeaks, hnone⟩ | ⟨hsilent, hcomposing, hdoubt, hone⟩ |
    ⟨hsilent, hend | hstill, hnone⟩
  · have hle := (h.turn t).undoubted_le_one
    rw [hnone, hspeaks, List.length_nil, if_pos rfl]
    omega
  · simp [undoubted, hcomposing, hdoubt, hone]
  · simp [undoubted, hend, hnone]
  · simp [undoubted, hstill, hnone]

/-- **Nothing is posted more often than something was said.** -/
lemma reposted_le_speaks (turns : List Turn) :
    (reposted (play turns).log).length + (play turns).undoubted ≤ turns.countP Turn.speaks := by
  induction turns using List.reverseRecOn with
  | nil => decide
  | append_singleton turns t ih =>
      have hstep := reposted_told_le (emptyOnly_play turns) t
      rw [play_concat, log_turn, reposted_append, List.length_append, List.countP_append,
        List.countP_singleton]
      omega

/-! ## Deliveries -/

/-- How many deliveries are to come. -/
def remaining (h : Host) : Nat :=
  h.waiting.length + if h.composition.phase = .composing ∧ h.waiting ≠ [] then 1 else 0

lemma remaining_le (h : Host) : h.remaining ≤ h.waiting.length + 1 := by
  unfold remaining
  split <;> omega

/-- **A delivery brings the end nearer**, by one. -/
lemma remaining_redeliver? (hwait : h.EmptyOnly) {place : Nat} {context : TextContext}
    (hdeliver : h.redeliver? place context = some h') : h'.remaining + 1 = h.remaining := by
  have hplace : place < h.waiting.length := by
    obtain ⟨event, hplace, -⟩ := Option.map_eq_some_iff.mp hdeliver
    exact (List.getElem?_eq_some_iff.mp hplace).1
  have hsome : h.waiting ≠ [] := List.ne_nil_of_length_pos (by omega)
  obtain ⟨event, -, hcomposition, hwaiting, -⟩ := redeliver?_cases hwait hdeliver
  unfold remaining
  rw [hcomposition, hwaiting, List.length_append, List.length_eraseIdx_of_lt hplace]
  cases hphase : h.composition.phase with
  | composing =>
      -- The event waits again, and the phase does not pay for another.
      simp [lapse, hphase, reposted, hsome]
      omega
  | inactive | awaiting =>
      simp [lapse, hphase, idle, reposted]
      omega

/-- After a delivery, nothing is composed or something waits. -/
lemma inactive_of_redeliver? (hwait : h.EmptyOnly) {place : Nat} {context : TextContext}
    (hdeliver : h.redeliver? place context = some h') (hnone : h'.waiting = []) :
    h'.composition.phase = .inactive := by
  obtain ⟨event, -, hcomposition, hwaiting, -⟩ := redeliver?_cases hwait hdeliver
  rw [hnone] at hwaiting
  rw [hcomposition]
  cases hphase : h.composition.phase with
  | composing => simp [lapse, hphase, reposted] at hwaiting
  | inactive => simp [lapse, hphase, idle]
  | awaiting => simp [lapse, hphase, idle]

lemma redeliverAll?_remaining (hwait : h.EmptyOnly) {deliveries : List (Nat × TextContext)}
    (hdeliver : h.redeliverAll? deliveries = some h') :
    deliveries.length + h'.remaining = h.remaining ∧
      (deliveries ≠ [] → h'.waiting = [] → h'.composition.phase = .inactive) := by
  induction deliveries generalizing h with
  | nil =>
      cases hdeliver
      exact ⟨Nat.zero_add _, fun hne => absurd rfl hne⟩
  | cons d rest ih =>
      obtain ⟨h₁, hfirst, hrest⟩ := Option.bind_eq_some_iff.mp hdeliver
      have hstep := remaining_redeliver? hwait hfirst
      obtain ⟨hcount, hend⟩ := ih (hwait.redeliver? hfirst) hrest
      refine ⟨by rw [List.length_cons]; omega, fun _ hnone => ?_⟩
      cases rest with
      | nil =>
          cases hrest
          exact inactive_of_redeliver? hwait hfirst hnone
      | cons d' rest => exact hend (List.cons_ne_nil d' rest) hnone

end Host

/-- **Posting once more comes to an end.**  An event is posted only in a turn that puts a text in
doubt, and then it is one.  Between two such turns the input method says something, so no event is
posted more often than something was said.  When the host does nothing but deliver, in any order, it
can go on while anything waits, it is through after one delivery more than there were events at the
most, and in the end nothing is composed unless there was nothing to deliver. -/
theorem reposting_ends (turns : List Turn) :
    (∀ first t rest, turns = first ++ t :: rest → reposted ((Host.play first).told t) ≠ [] →
      (Host.play first).composition.phase = .composing ∧
      (Host.play (first ++ [t])).composition.phase = .awaiting ∧
      (reposted ((Host.play first).told t)).length = 1) ∧
    (∀ first t between t' rest, turns = first ++ t :: between ++ t' :: rest →
      reposted ((Host.play first).told t) ≠ [] →
      reposted ((Host.play (first ++ t :: between)).told t') ≠ [] →
      ∃ u ∈ between, u.speaks = true) ∧
    (reposted (Host.play turns).log).length ≤ turns.countP Turn.speaks ∧
    (∀ deliveries h', (Host.play turns).redeliverAll? deliveries = some h' →
      deliveries.length ≤ (Host.play turns).waiting.length + 1 ∧
      (h'.waiting ≠ [] → ∀ context, (h'.redeliver? 0 context).isSome = true) ∧
      (h'.waiting = [] → deliveries ≠ [] → h'.composition.phase = .inactive)) := by
  have hwait : ∀ ts, (Host.play ts).EmptyOnly := Host.emptyOnly_play
  refine ⟨fun first t _ _ hposts => ?_, fun first t between t' _ _ hposts hposts' => ?_, ?_,
    fun deliveries h' hdeliver => ⟨?_, fun hsome context => ?_, fun hnone hne => ?_⟩⟩
  · rw [Host.play_concat]
    exact Host.doubts_of_posts (hwait first) hposts
  · rw [Host.play, List.foldl_append, List.foldl_cons] at hposts'
    exact Host.exists_speaks_between (hwait first) hposts hposts'
  · have hle := Host.reposted_le_speaks turns
    omega
  · have hcount := (Host.redeliverAll?_remaining (hwait turns) hdeliver).1
    have hle := (Host.play turns).remaining_le
    omega
  · cases hwaiting : h'.waiting with
    | nil => exact absurd hwaiting hsome
    | cons event rest => simp [Host.redeliver?, hwaiting]
  · exact (Host.redeliverAll?_remaining (hwait turns) hdeliver).2 hne hnone

end ViewInput.Composition
