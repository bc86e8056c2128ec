import Mathlib.Data.List.Induction
import ViewInput.Proofs.Composition.Calls

/-!
# Events posted once more

An event that is posted once more comes back some time later, and nothing about it tells which
composition it was about.  `Host` keeps the events that wait, and delivers them at any moment and in
any order.

All of them are empty and select nothing (`emptyOnly_play`), so each does the same, `lapse`, which
depends on nothing but the phase.  **When nothing is composed it does nothing.  When something is,
it does not matter whether it was posted for that**: the first that comes back puts the composition
in doubt and is posted again, and the next one cancels it (`redelivered_twice`).  So a composition
outlives the events that wait if no more than one of them comes back, and never all of them.
-/

namespace ViewInput.Composition

open Device (InputMethodEvent KeyEvent TextAttribute)

/-! ## Hosts -/

/-- A turn of the host: a call, or an event that waits at some place is delivered once more. -/
inductive Turn where
  | call (call : Call)
  | redeliver (place : Nat) (context : TextContext)

/-- A composition with the events that wait to be delivered once more, and with what was told. -/
structure Host where
  composition : Composition := {}
  waiting : List InputMethodEvent := []
  log : List Action := []

namespace Host

/-- The host after a call. -/
def take (h : Host) (call : Call) : Host :=
  { composition := (h.composition.respond call).1
    waiting := h.waiting ++ reposted (h.composition.respond call).2
    log := h.log ++ (h.composition.respond call).2 }

/-- The host after an event that waits was delivered, if there is one at the place. -/
def redeliver? (h : Host) (place : Nat) (context : TextContext) : Option Host :=
  h.waiting[place]?.map fun event =>
    { h with waiting := h.waiting.eraseIdx place }.take (.event event context)

def turn (h : Host) : Turn → Host
  | .call call => h.take call
  | .redeliver place context => (h.redeliver? place context).getD h

/-- **The host after some turns**, from the start. -/
def play (turns : List Turn) : Host := turns.foldl turn {}

/-- The host after events that wait were delivered one by one, with nothing else in between. -/
def redeliverAll? : Host → List (Nat × TextContext) → Option Host
  | h, [] => some h
  | h, (place, context) :: rest =>
    (h.redeliver? place context).bind fun h' => h'.redeliverAll? rest

def cancels (h : Host) : Nat := h.log.count .cancelComposition

end Host

/-! ## What waits is empty -/

/-- Whether an attribute selects a part of the editor. -/
def selects : TextAttribute → Bool
  | .selection _ _ => true
  | .underline _ _ _ _ | .caret _ => false

lemma hasSelection_eq (event : InputMethodEvent) :
    event.hasSelection = event.attributes.any selects := by
  unfold InputMethodEvent.hasSelection
  congr 1

lemma add_selection_isSome (event : InputMethodEvent) (length : Nat) (r : Resolved)
    (a : TextAttribute) :
    (r.add event length a).selection.isSome = (r.selection.isSome || selects a) := by
  cases a with
  | underline start count color thick =>
      by_cases hpreedit : event.preedit.isEmpty <;> simp [Resolved.add, hpreedit, selects]
  | caret position => simp [Resolved.add, selects]
  | selection start count => simp [Resolved.add, selects]

lemma foldl_selection_isSome (event : InputMethodEvent) (length : Nat)
    (attributes : List TextAttribute) (r : Resolved) :
    (attributes.foldl (Resolved.add event length) r).selection.isSome
      = (r.selection.isSome || attributes.any selects) := by
  induction attributes generalizing r with
  | nil => simp
  | cons a rest ih =>
      rw [List.foldl_cons, ih, add_selection_isSome, List.any_cons, Bool.or_assoc]

lemma resolve_selection_isSome (event : InputMethodEvent) (length : Nat) :
    (resolve event length).selection.isSome = event.hasSelection := by
  rw [resolve, foldl_selection_isSome, hasSelection_eq]
  rfl

/-- An event that neither changes the text nor selects anything. -/
def saysNothing (event : InputMethodEvent) : Bool := event.isEmpty && !event.hasSelection

section Reposted

variable (c : Composition)

lemma reposted_append (first second : List Action) :
    reposted (first ++ second) = reposted first ++ reposted second :=
  List.filterMap_append

lemma reposted_select (explicit : Option TextRange) :
    reposted (explicit.toList.map .selectInEditor) = [] :=
  filterMap_select (fun _ => rfl) explicit

lemma reposted_receiveEmpty (event : InputMethodEvent) (hasSelection : Bool) :
    ∀ e ∈ reposted (c.receiveEmpty event hasSelection).2, e = event ∧ hasSelection = false := by
  unfold receiveEmpty
  split
  · rename_i h
    intro e he
    exact ⟨List.mem_singleton.mp he, h.2⟩
  · cases c.isActive <;> nofun

lemma reposted_receiveCommit (event : InputMethodEvent) (resolved : Resolved)
    (replaced : Option TextRange) :
    reposted (c.receiveCommit event resolved replaced).2 = [] :=
  filterMap_receiveCommit c event (fun _ _ _ _ => rfl) resolved replaced

lemma reposted_receivePreedit (event : InputMethodEvent) (resolved : Resolved)
    (selection : TextRange) (replaced : Option TextRange) :
    reposted (c.receivePreedit event resolved selection replaced).2 = [] :=
  filterMap_receivePreedit c event (fun _ _ _ _ => rfl) resolved selection replaced

/-- An event that is not empty is not posted once more. -/
lemma reposted_receive_of_not_isEmpty {event : InputMethodEvent} (hempty : event.isEmpty = false)
    (context : TextContext) : reposted (c.receive event context).2 = [] := by
  rw [receive_told, reposted_append, reposted_select, if_neg (by simp [hempty]), reposted_append,
    reposted_receiveCommit, reposted_receivePreedit]
  rfl

/-- Only an event that says nothing is posted once more. -/
lemma reposted_receive (event : InputMethodEvent) (context : TextContext) :
    ∀ e ∈ reposted (c.receive event context).2, saysNothing e = true := by
  cases hempty : event.isEmpty with
  | false =>
      rw [reposted_receive_of_not_isEmpty c hempty]
      nofun
  | true =>
      rw [receive_told, reposted_append, reposted_select, if_pos hempty, List.nil_append]
      intro e he
      obtain ⟨rfl, hselection⟩ := reposted_receiveEmpty c event _ e he
      rw [resolve_selection_isSome] at hselection
      simp [saysNothing, hempty, hselection]

lemma reposted_key (event : KeyEvent) : reposted (c.key event).2.1 = [] := by
  unfold key
  split
  · rfl
  · split
    · rfl
    · split <;> rfl

lemma reposted_pointerDown (platform : Platform) : reposted (c.pointerDown platform).2 = [] := by
  unfold pointerDown
  split
  · cases platform <;> rfl
  · rfl

lemma reposted_cancel : reposted c.cancel.2 = [] := by
  unfold cancel
  cases c.isActive <;> rfl

lemma reposted_respond (call : Call) :
    ∀ e ∈ reposted (c.respond call).2, saysNothing e = true := by
  cases call with
  | event event context => exact reposted_receive c event context
  | key event => rw [respond, reposted_key]; nofun
  | pointer platform => rw [respond, reposted_pointerDown]; nofun
  | cancel => rw [respond, reposted_cancel]; nofun

end Reposted

namespace Host

variable {h h' : Host}

def EmptyOnly (h : Host) : Prop := ∀ e ∈ h.waiting, saysNothing e = true

lemma EmptyOnly.take (hwait : h.EmptyOnly) (call : Call) : (h.take call).EmptyOnly := by
  intro e he
  rcases List.mem_append.mp he with hold | hnew
  · exact hwait e hold
  · exact reposted_respond h.composition call e hnew

lemma EmptyOnly.redeliver? (hwait : h.EmptyOnly) {place : Nat} {context : TextContext}
    (hdeliver : h.redeliver? place context = some h') : h'.EmptyOnly := by
  obtain ⟨event, -, rfl⟩ := Option.map_eq_some_iff.mp hdeliver
  refine EmptyOnly.take (fun e he => hwait e ?_) _
  exact (List.eraseIdx_sublist _ _).subset he

lemma EmptyOnly.turn (hwait : h.EmptyOnly) (t : Turn) : (h.turn t).EmptyOnly := by
  cases t with
  | call call => exact hwait.take call
  | redeliver place context =>
      cases hdeliver : h.redeliver? place context with
      | none => simpa [Host.turn, hdeliver] using hwait
      | some h' => simpa [Host.turn, hdeliver] using hwait.redeliver? hdeliver

lemma EmptyOnly.turns (hwait : h.EmptyOnly) (turns : List Turn) :
    (turns.foldl Host.turn h).EmptyOnly :=
  List.foldlRecOn turns Host.turn hwait fun _ hkept t _ => hkept.turn t

lemma play_concat (turns : List Turn) (t : Turn) : play (turns ++ [t]) = (play turns).turn t := by
  simp [play]

/-- **What waits says nothing**, after any turns. -/
lemma emptyOnly_play (turns : List Turn) : (play turns).EmptyOnly := by
  have hstart : EmptyOnly {} := List.forall_mem_nil _
  exact hstart.turns turns

end Host

/-! ## What an event that waited does -/

/-- What an event that says nothing does in each phase. -/
def lapse (c : Composition) (event : InputMethodEvent) : Composition × List Action :=
  match c.phase with
  | .inactive => (idle, [])
  | .composing => ({ c with phase := .awaiting }, [.repost event])
  | .awaiting => (idle, [.cancelComposition])

lemma receive_of_saysNothing {event : InputMethodEvent} (hevent : saysNothing event = true)
    (c : Composition) (context : TextContext) : c.receive event context = c.lapse event := by
  rw [saysNothing, Bool.and_eq_true, Bool.not_eq_true'] at hevent
  have hnone : ∀ length, (resolve event length).selection = none := by
    intro length
    rw [← Option.not_isSome_iff_eq_none, resolve_selection_isSome, hevent.2]
    exact Bool.false_ne_true
  unfold receive lapse
  simp only [hevent.1, hnone, if_true, receiveEmpty]
  cases hphase : c.phase <;> simp [isActive, hphase]

namespace Host

variable {h h' : Host}

/-- An event that waited goes, and what it does depends on the phase alone. -/
lemma redeliver?_cases (hwait : h.EmptyOnly) {place : Nat} {context : TextContext}
    (hdeliver : h.redeliver? place context = some h') :
    ∃ event ∈ h.waiting, h'.composition = (h.composition.lapse event).1 ∧
      h'.waiting = h.waiting.eraseIdx place ++ reposted (h.composition.lapse event).2 ∧
      h'.log = h.log ++ (h.composition.lapse event).2 := by
  obtain ⟨event, hplace, rfl⟩ := Option.map_eq_some_iff.mp hdeliver
  have hmem := List.mem_of_getElem? hplace
  refine ⟨event, hmem, ?_⟩
  simp only [take, respond, receive_of_saysNothing (hwait event hmem), and_self]

/-- Nothing is composed: the events that wait do nothing. -/
lemma redeliverAll?_inactive (hwait : h.EmptyOnly) (hphase : h.composition.phase = .inactive)
    {deliveries : List (Nat × TextContext)} (hdeliver : h.redeliverAll? deliveries = some h') :
    h'.composition.phase = .inactive ∧ h'.log = h.log := by
  induction deliveries generalizing h with
  | nil => cases hdeliver; exact ⟨hphase, rfl⟩
  | cons d rest ih =>
      obtain ⟨h₁, hfirst, hrest⟩ := Option.bind_eq_some_iff.mp hdeliver
      obtain ⟨event, -, hcomposition, -, hlog⟩ := redeliver?_cases hwait hfirst
      simp only [lapse, hphase, List.append_nil] at hcomposition hlog
      have hidle : h₁.composition.phase = .inactive := by rw [hcomposition]; rfl
      obtain ⟨hend, hsame⟩ := ih (hwait.redeliver? hfirst) hidle hrest
      exact ⟨hend, hsame.trans hlog⟩

/-- The composition is in doubt: the next event that waits cancels it, and the others do nothing. -/
lemma redeliverAll?_awaiting (hwait : h.EmptyOnly) (hphase : h.composition.phase = .awaiting)
    {d : Nat × TextContext} {rest : List (Nat × TextContext)}
    (hdeliver : h.redeliverAll? (d :: rest) = some h') :
    h'.composition.phase = .inactive ∧ h'.log = h.log ++ [.cancelComposition] := by
  obtain ⟨h₁, hfirst, hrest⟩ := Option.bind_eq_some_iff.mp hdeliver
  obtain ⟨event, -, hcomposition, -, hlog⟩ := redeliver?_cases hwait hfirst
  simp only [lapse, hphase] at hcomposition hlog
  have hidle : h₁.composition.phase = .inactive := by rw [hcomposition]; rfl
  obtain ⟨hend, hsame⟩ := redeliverAll?_inactive (hwait.redeliver? hfirst) hidle hrest
  exact ⟨hend, hsame.trans hlog⟩

/-- Two events that wait cancel a composition, whatever they were posted for. -/
lemma redelivered_twice (hwait : h.EmptyOnly) (hphase : h.composition.phase = .composing)
    {d d' : Nat × TextContext} {rest : List (Nat × TextContext)}
    (hdeliver : h.redeliverAll? (d :: d' :: rest) = some h') :
    h'.composition.phase = .inactive ∧
      ∃ event ∈ h.waiting, h'.log = h.log ++ [.repost event, .cancelComposition] := by
  obtain ⟨h₁, hfirst, hrest⟩ := Option.bind_eq_some_iff.mp hdeliver
  obtain ⟨event, hmem, hcomposition, -, hlog⟩ := redeliver?_cases hwait hfirst
  simp only [lapse, hphase] at hcomposition hlog
  have hawaiting : h₁.composition.phase = .awaiting := by rw [hcomposition]
  obtain ⟨hend, hsame⟩ := redeliverAll?_awaiting (hwait.redeliver? hfirst) hawaiting hrest
  exact ⟨hend, event, hmem, by rw [hsame, hlog, List.append_assoc]; rfl⟩

/-- One event that waits changes nothing but the phase, and waits again. -/
lemma redelivered_once (hwait : h.EmptyOnly) (hphase : h.composition.phase = .composing)
    {d : Nat × TextContext} (hdeliver : h.redeliverAll? [d] = some h') :
    h'.composition = { h.composition with phase := .awaiting } ∧
      ∃ event ∈ h.waiting, h'.log = h.log ++ [.repost event] ∧ event ∈ h'.waiting := by
  obtain ⟨h₁, hfirst, hrest⟩ := Option.bind_eq_some_iff.mp hdeliver
  cases hrest
  obtain ⟨event, hmem, hcomposition, hwaiting, hlog⟩ := redeliver?_cases hwait hfirst
  simp only [lapse, hphase] at hcomposition hwaiting hlog
  exact ⟨hcomposition, event, hmem, hlog, by rw [hwaiting]; simp [reposted]⟩

/-- Delivering until nothing waits cancels what is composed, once. -/
lemma redeliverAll?_emptied (hwait : h.EmptyOnly) (hactive : h.composition.isActive = true)
    (hsome : h.waiting ≠ []) (hnone : h'.waiting = []) {deliveries : List (Nat × TextContext)}
    (hdeliver : h.redeliverAll? deliveries = some h') :
    h'.composition.phase = .inactive ∧ h'.cancels = h.cancels + 1 := by
  match deliveries with
  | [] =>
      obtain rfl : h = h' := Option.some.inj hdeliver
      exact absurd hnone hsome
  | d :: rest =>
      cases hphase : h.composition.phase with
      | inactive => simp [isActive, hphase] at hactive
      | awaiting =>
          obtain ⟨hend, hlog⟩ := redeliverAll?_awaiting hwait hphase hdeliver
          exact ⟨hend, by simp [cancels, hlog]⟩
      | composing =>
          cases rest with
          | nil =>
              -- The event that was delivered waits again.
              obtain ⟨-, event, -, -, hmem⟩ := redelivered_once hwait hphase hdeliver
              simp [hnone] at hmem
          | cons d' rest =>
              obtain ⟨hend, event, -, hlog⟩ := redelivered_twice hwait hphase hdeliver
              exact ⟨hend, by simp [cancels, hlog]⟩

end Host

/-- **Which compositions outlive the events that wait.**  After any turns, deliver some of those
events with nothing else in between.  Where nothing is composed they do nothing.  A text that is
being composed stays, and is not cancelled, exactly if no more than one of them is delivered, and
one that is in doubt already, exactly if none is.  And when anything waits at all, delivering until
nothing waits cancels what is composed, once. -/
theorem outlives_iff_redelivered_once (turns : List Turn) (deliveries : List (Nat × TextContext))
    (h' : Host) (hdeliver : (Host.play turns).redeliverAll? deliveries = some h') :
    let h := Host.play turns
    let stays := h'.composition.isActive = true ∧ h'.composition.preedit = h.composition.preedit ∧
      h'.cancels = h.cancels
    (h.composition.phase = .inactive → h'.composition.isActive = false ∧ h'.log = h.log) ∧
    (h.composition.phase = .composing → (stays ↔ deliveries.length ≤ 1)) ∧
    (h.composition.phase = .awaiting → (stays ↔ deliveries = [])) ∧
    (h.composition.isActive = true → h.waiting ≠ [] → h'.waiting = [] →
      h'.composition.isActive = false ∧ h'.cancels = h.cancels + 1) := by
  intro h stays
  have hwait : h.EmptyOnly := Host.emptyOnly_play turns
  refine ⟨fun hphase => ?_, fun hphase => ?_, fun hphase => ?_, fun hactive hsome hnone => ?_⟩
  · obtain ⟨hend, hlog⟩ := Host.redeliverAll?_inactive hwait hphase hdeliver
    exact ⟨by simp [isActive, hend], hlog⟩
  · -- None, one, or more: what comes after the second delivery finds nothing composed.
    match deliveries with
    | [] =>
        obtain rfl : h = h' := Option.some.inj hdeliver
        have hactive : h.composition.isActive = true := by simp [isActive, hphase]
        exact iff_of_true ⟨hactive, rfl, rfl⟩ (Nat.zero_le 1)
    | [d] =>
        obtain ⟨hcomposition, event, -, hlog, -⟩ := Host.redelivered_once hwait hphase hdeliver
        simp [stays, isActive, Host.cancels, hcomposition, hlog]
    | d :: d' :: rest =>
        obtain ⟨hend, -⟩ := Host.redelivered_twice hwait hphase hdeliver
        simp [stays, isActive, hend]
  · match deliveries with
    | [] =>
        obtain rfl : h = h' := Option.some.inj hdeliver
        have hactive : h.composition.isActive = true := by simp [isActive, hphase]
        exact iff_of_true ⟨hactive, rfl, rfl⟩ rfl
    | d :: rest =>
        obtain ⟨hend, -⟩ := Host.redeliverAll?_awaiting hwait hphase hdeliver
        simp [stays, isActive, hend]
  · obtain ⟨hend, hcancels⟩ := Host.redeliverAll?_emptied hwait hactive hsome hnone hdeliver
    exact ⟨by simp [isActive, hend], hcancels⟩

/-- Two texts are composed, put in doubt and committed before the empty events come back.  By then
the next text is composed. -/
def hastyTyping : List Turn :=
  [.call (.event { preedit := "k" } {}), .call (.event {} {}), .call (.event { commit := "x" } {}),
   .call (.event { preedit := "m" } {}), .call (.event {} {}), .call (.event { commit := "y" } {}),
   .call (.event { preedit := "n" } {})]

theorem outlives_iff_redelivered_once_hastyTyping :
    ∃ h', (Host.play hastyTyping).redeliverAll? [(0, {}), (0, {})] = some h' ∧
      ¬ (h'.composition.isActive = true ∧ h'.composition.preedit = "n" ∧ h'.cancels = 0) := by
  have hrun : ((Host.play hastyTyping).redeliverAll? [(0, {}), (0, {})]).isSome = true := by decide
  obtain ⟨h', hdeliver⟩ := Option.isSome_iff_exists.mp hrun
  obtain ⟨-, houtlives, -⟩ := outlives_iff_redelivered_once hastyTyping _ h' hdeliver
  have hiff := houtlives (by decide)
  have hwas : (Host.play hastyTyping).composition.preedit = "n" := by decide
  have hnone : (Host.play hastyTyping).cancels = 0 := by decide
  rw [hwas, hnone] at hiff
  exact ⟨h', hdeliver, fun hstays => absurd (hiff.mp hstays) (by decide)⟩

/-- **An event cancels a text that it was not posted for.**  Both events wait while nothing is
composed, so they are about texts that are committed already.  The next text is composed, and they
cancel it. -/
theorem stale_events_cancel :
    (Host.play (hastyTyping.take 6)).composition.isActive = false ∧
    (Host.play (hastyTyping.take 6)).waiting.length = 2 ∧
    (Host.play hastyTyping).waiting = (Host.play (hastyTyping.take 6)).waiting ∧
    (Host.play hastyTyping).composition.isActive = true ∧
    (Host.play hastyTyping).cancels = 0 ∧
    ((Host.play hastyTyping).redeliverAll? [(0, {}), (0, {})]).map
      (fun h' => (h'.composition.isActive, h'.cancels)) = some (false, 1) := by
  decide

end ViewInput.Composition
