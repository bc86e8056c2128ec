import ViewInput.Proofs.View.Runs

/-!
# Editor commands and the presses that they are for

A host offers a key press as a shortcut right before it delivers it.  If the offer is accepted, the
editor command waits for the delivery.  Only a delivery takes it, so that the command of a press
that nothing in the page could receive **is stranded**: it waits for the next press that is
delivered, and that press carries it although its own offer was declined, and inserts no text.

`View.command_rides_own_iff` says that this is all that goes wrong.
-/

namespace ViewInput

/-- A key event that the page receives. -/
def Effect.key? : Effect → Option Page.KeyEvent
  | .route _ (.key k) => some k
  | _ => none

/-- The key events among some effects, in order. -/
def keysOf (effects : List Effect) : List Page.KeyEvent := effects.filterMap Effect.key?

lemma keysOf_append (first second : List Effect) :
    keysOf (first ++ second) = keysOf first ++ keysOf second :=
  List.filterMap_append

@[simp] lemma keysOf_map_routed (s : Surroundings) (keys : List Page.KeyEvent) :
    keysOf (keys.map fun k => View.routed s (.key k)) = keys := by
  induction keys with
  | nil => rfl
  | cons k rest ih => simpa [keysOf, View.routed, Effect.key?] using ih

namespace View

/-! ## Presses -/

/-- **A key press**, which is offered as a shortcut and delivered right after that. -/
structure Press where
  event : Device.KeyEvent
  isPress : event.kind = .press
  whenOffered : Surroundings
  whenDelivered : Surroundings
  now : Nat := 0

namespace Press

variable (p : Press)

def offer : Turn :=
  { call := .device (.shortcut p.event), surroundings := p.whenOffered, now := p.now }

def delivery : Turn :=
  { call := .device (.key p.event), surroundings := p.whenDelivered, now := p.now }

/-- The editor command of the press. -/
def command (settings : Settings) : Option EditCommand :=
  EditCommand.forKey settings.platform p.event.key
    (settings.pageModifiers p.event.modifiers .none)

/-- Whether the press has text to insert. -/
def inserts (settings : Settings) : Bool :=
  !(Keyboard.insertedText (settings.presentKey p.event.key) p.event.text).isEmpty

end Press

/-- What the host does: it presses a key, or it calls something that is no matter of presses. -/
inductive Move
  | press (p : Press)
  | other (t : Turn) (hother : t.call.isPress = false)

def Move.turns : Move → List Turn
  | .press p => [p.offer, p.delivery]
  | .other t _ => [t]

/-- The view after some moves. -/
def afterMoves (settings : Settings) (moves : List Move) : View :=
  after settings (moves.flatMap Move.turns)

/-- Whether the offer of a press is accepted. -/
def accepts (v : View) (p : Press) : Bool :=
  match (v.take p.offer).answer with
  | .ok accepted => accepted
  | .error _ => false

/-- What comes of the delivery of a press, once it was offered. -/
def deliver (v : View) (p : Press) : Outcome := (v.take p.offer).view.take p.delivery

/-- The command that waits once a press was offered. -/
def waitsFor (v : View) (p : Press) : Option EditCommand :=
  if v.accepts p then p.command v.settings else v.pendingCommand

/-- Whether a press gets as far as the page: something there has the focus, and the composition
leaves the key alone. -/
def Delivers (v : View) (p : Press) : Prop :=
  p.whenDelivered.hasFocusedWidget = true ∧ (v.composition.key p.event).2.2 = .deliver

instance (v : View) (p : Press) : Decidable (v.Delivers p) :=
  inferInstanceAs (Decidable (_ ∧ _))

/-- **The raw event of a press carries a command just if the offer was accepted**, and then the
command of the press. -/
def RidesOwn (v : View) (p : Press) : Prop :=
  ∀ k ∈ keysOf (v.deliver p).effects, k.kind = .rawDown →
    k.command.isSome = v.accepts p ∧ ∀ c ∈ k.command, p.command v.settings = some c

variable (v : View) (p : Press)

/-! ## One press -/

/-- An accepted offer leaves its command, and a declined one leaves what there was. -/
lemma offer_cases :
    (∃ c, p.command v.settings = some c ∧
      v.take p.offer = { view := { v with pendingCommand := some c }, answer := .ok true }) ∨
    v.take p.offer = { view := v, answer := .ok false } := by
  have hcommand : EditCommand.forKey v.settings.platform p.event.key
      (v.settings.pageModifiers p.event.modifiers .none) = p.command v.settings := rfl
  rw [take, Press.offer, step, device, shortcutEvent]
  simp only [hcommand]
  split
  · cases hc : p.command v.settings with
    | some c => exact Or.inl ⟨c, rfl, rfl⟩
    | none => exact Or.inr rfl
  · exact Or.inr rfl

/-- **What a delivery does**, whatever command waits. -/
lemma delivery_cases : (v.Delivers p ∧ (v.take p.delivery).view.pendingCommand = none ∧
      ∃ time, keysOf (v.take p.delivery).effects
        = Keyboard.keyEvents v.settings p.event time v.pendingCommand) ∨
    (¬ v.Delivers p ∧ (v.take p.delivery).view.pendingCommand = v.pendingCommand ∧
      keysOf (v.take p.delivery).effects = []) := by
  have hfirst (freed : Bool) (actions : List Composition.Action) :
      keysOf ((if freed then [Effect.unlockPointer] else []) ++ actions.map .composition) = [] := by
    have hactions : keysOf (actions.map .composition) = [] := by simp [keysOf, Effect.key?]
    rw [keysOf_append, hactions]
    cases freed <;> rfl
  have htake : v.take p.delivery = v.keyEvent p.whenDelivered p.now p.event := rfl
  rw [htake, keyEvent]
  simp only
  cases hverdict : (v.composition.key p.event).2.2 with
  | swallow =>
      exact Or.inr ⟨fun h => absurd (hverdict.symm.trans h.2) (by simp), rfl, hfirst _ _⟩
  | deliver =>
      simp only [deliverKey, p.isPress, reduceCtorEq, false_and, if_false]
      cases hfocus : p.whenDelivered.hasFocusedWidget with
      | false =>
          refine Or.inr ⟨fun h => absurd (hfocus.symm.trans h.1) (by simp), rfl, ?_⟩
          simp only [if_true, List.append_nil]
          exact hfirst _ _
      | true =>
          refine Or.inl ⟨⟨hfocus, hverdict⟩, rfl, (v.readClock p.now p.event.timestamp).2, ?_⟩
          simp only [Bool.true_eq_false, if_false]
          rw [keysOf_append, hfirst]
          exact keysOf_map_routed p.whenDelivered _

/-- An offer is accepted for the command of the press. -/
lemma isSome_command_of_accepts (h : v.accepts p = true) :
    (p.command v.settings).isSome = true := by
  rcases offer_cases v p with ⟨c, hc, -⟩ | htake
  · simp [hc]
  · simp [accepts, htake] at h

lemma offered_eq : (v.take p.offer).view = { v with pendingCommand := v.waitsFor p } := by
  rcases offer_cases v p with ⟨c, hc, htake⟩ | htake
  · simp [htake, waitsFor, accepts, hc]
  · simp [htake, waitsFor, accepts]

/-- **A press that is offered and delivered** takes the command that waits then, if it gets as far
as the page. -/
lemma deliver_cases : (v.Delivers p ∧ (v.deliver p).view.pendingCommand = none ∧
      ∃ time, keysOf (v.deliver p).effects
        = Keyboard.keyEvents v.settings p.event time (v.waitsFor p)) ∨
    (¬ v.Delivers p ∧ (v.deliver p).view.pendingCommand = v.waitsFor p ∧
      keysOf (v.deliver p).effects = []) := by
  rw [deliver, offered_eq]
  exact delivery_cases { v with pendingCommand := v.waitsFor p } p

/-- A key without an identity is no shortcut. -/
lemma hasIdentity_of_command {settings : Settings} (h : (p.command settings).isSome = true) :
    p.event.key.hasIdentity = true := by
  by_contra hnone
  have hkey : p.event.key = .none := by simpa [Device.Key.hasIdentity] using hnone
  rw [Press.command, hkey] at h
  cases hplatform : settings.platform <;>
    simp [EditCommand.forKey, Device.Key.none, EditCommand.macNavigation?, EditCommand.navigation?,
      hplatform] at h

/-- The composition leaves a press alone for which an offer is accepted. -/
lemma delivers_iff_of_accepts (h : v.accepts p = true) :
    v.Delivers p ↔ p.whenDelivered.hasFocusedWidget = true := by
  have hidentity := hasIdentity_of_command p (isSome_command_of_accepts v p h)
  refine and_iff_left ?_
  simp only [Composition.key, hidentity, if_true]
  split <;> rfl

/-! ### What the page receives -/

/-- The raw event of a press carries the command that is given with it. -/
lemma command_of_rawDown (settings : Settings) (time : Nat) (command : Option EditCommand) :
    (∃ k ∈ Keyboard.keyEvents settings p.event time command, k.kind = .rawDown) ∧
      ∀ k ∈ Keyboard.keyEvents settings p.event time command, k.kind = .rawDown →
        k.command = command := by
  have hraw : (Keyboard.keyEvent settings p.event time).kind = .rawDown := by
    simp [Keyboard.keyEvent, p.isPress]
  have hnone : (Keyboard.keyEvent settings p.event time).command = none := rfl
  cases command with
  | some c => simp [Keyboard.keyEvents, p.isPress, hraw]
  | none =>
      simp only [Keyboard.keyEvents, p.isPress]
      split <;> simp [hraw, hnone]

/-- A press inserts its text if no command is given with it. -/
lemma inserts_iff (settings : Settings) (time : Nat) (command : Option EditCommand) :
    (∃ k ∈ Keyboard.keyEvents settings p.event time command, k.kind = .char) ↔
      p.inserts settings = true ∧ command = none := by
  have hraw : (Keyboard.keyEvent settings p.event time).kind = .rawDown := by
    simp [Keyboard.keyEvent, p.isPress]
  have htext : p.inserts settings = !(Keyboard.keyEvent settings p.event time).text.isEmpty := rfl
  cases command with
  | some c => simp [Keyboard.keyEvents, p.isPress, hraw]
  | none =>
      simp only [Keyboard.keyEvents, p.isPress, htext]
      split <;> simp [*]

/-- **A press carries its own command** unless it was declined, is delivered, and finds another
command. -/
lemma ridesOwn_iff :
    v.RidesOwn p ↔ (v.accepts p = false → v.Delivers p → v.pendingCommand = none) := by
  rcases deliver_cases v p with ⟨hdelivers, -, time, hkeys⟩ | ⟨hdropped, -, hkeys⟩
  · rw [RidesOwn, hkeys]
    obtain ⟨⟨raw, hraw, hkind⟩, hcommand⟩ :=
      command_of_rawDown p v.settings time (v.waitsFor p)
    cases haccepts : v.accepts p with
    | true =>
        rw [waitsFor, haccepts, if_pos rfl] at hcommand ⊢
        refine iff_of_true (fun k hk hdown => ?_) (fun h => Bool.noConfusion h)
        rw [hcommand k hk hdown]
        exact ⟨isSome_command_of_accepts v p haccepts, fun c hc => hc⟩
    | false =>
        rw [waitsFor, haccepts, if_neg Bool.false_ne_true] at hcommand hraw ⊢
        constructor
        · intro hown _ _
          have hnone := (hown raw hraw hkind).1
          rw [hcommand raw hraw hkind] at hnone
          simpa using hnone
        · intro hpending k hk hdown
          rw [hcommand k hk hdown, hpending rfl hdelivers]
          simp
  · rw [RidesOwn, hkeys]
    exact iff_of_true (List.forall_mem_nil _) fun _ hdelivers => absurd hdelivers hdropped

/-- A declined press that is delivered inserts its text if it finds no command. -/
lemma inserts_of_declined (hdeclined : v.accepts p = false) (hdelivers : v.Delivers p)
    (htext : p.inserts v.settings = true) :
    (∃ k ∈ keysOf (v.deliver p).effects, k.kind = .char) ↔ v.pendingCommand = none := by
  rcases deliver_cases v p with ⟨-, -, time, hkeys⟩ | ⟨hdropped, -⟩
  · rw [hkeys, inserts_iff, waitsFor, hdeclined]
    exact and_iff_right htext
  · exact absurd hdelivers hdropped

/-! ## Runs of moves -/

lemma afterMoves_press (settings : Settings) (moves : List Move) (p : Press) :
    afterMoves settings (moves ++ [.press p]) = ((afterMoves settings moves).deliver p).view := by
  rw [afterMoves, List.flatMap_append, List.flatMap_singleton, Move.turns, List.append_cons,
    after_concat, after_concat]
  rfl

lemma afterMoves_other (settings : Settings) (moves : List Move) {t : Turn}
    (hother : t.call.isPress = false) : afterMoves settings (moves ++ [.other t hother])
      = ((afterMoves settings moves).take t).view := by
  rw [afterMoves, List.flatMap_append, List.flatMap_singleton, Move.turns, after_concat]
  rfl

lemma settings_take (t : Turn) : (v.take t).view.settings = v.settings := by
  cases v.course_take t with
  | aside _ _ ho => exact ho.kept.settings
  | press _ _ ho => exact ho.kept.settings
  | wheel _ _ target event _ ho => exact ho.kept.settings
  | touch _ batch q _ ho => exact ho.kept.settings
  | acknowledged _ _ id ho => exact ho ▸ (aside_acknowledge v id).kept.settings
  | menu _ _ ho => exact ho.kept.settings
  | reset _ ho => exact ho ▸ rfl

lemma settings_afterMoves (settings : Settings) (moves : List Move) :
    (afterMoves settings moves).settings = settings := by
  rw [afterMoves]
  generalize moves.flatMap Move.turns = turns
  induction turns using List.reverseRecOn with
  | nil => rfl
  | append_singleton turns t ih => rw [after_concat, settings_take, ih]

/-- Only presses and a fresh start have to do with the command that waits. -/
lemma pendingCommand_take {t : Turn} (hother : t.call.isPress = false) :
    (v.take t).view.pendingCommand = if t.call = .reset then none else v.pendingCommand := by
  by_cases hreset : t.call = .reset
  · rw [if_pos hreset, take, hreset]
    rfl
  · rw [if_neg hreset]
    cases v.course_take t with
    | aside _ _ ho => exact ho.kept.pendingCommand
    | press _ hpress ho => exact Bool.noConfusion (hother.symm.trans hpress)
    | wheel _ _ target event _ ho => exact ho.kept.pendingCommand
    | touch _ batch q _ ho => exact ho.kept.pendingCommand
    | acknowledged _ _ id ho => exact ho ▸ (aside_acknowledge v id).kept.pendingCommand
    | menu _ _ ho => exact ho.kept.pendingCommand
    | reset hcall => exact absurd hcall hreset

/-- A move that strands a command: it is accepted, and nothing in the page has the focus. -/
def Strands (v : View) : Move → Prop
  | .press p => v.accepts p = true ∧ p.whenDelivered.hasFocusedWidget = false
  | .other _ _ => False

/-- A move after which no command waits: a press is delivered, or the view starts afresh. -/
def Clears (v : View) : Move → Prop
  | .press p => v.Delivers p
  | .other t _ => t.call = .reset

/-- **A command is stranded**: some move stranded one, and none since cleared it. -/
def Stranded (settings : Settings) (moves : List Move) : Prop :=
  ∃ earlier m later, moves = earlier ++ m :: later ∧ (afterMoves settings earlier).Strands m ∧
    ∀ mid m' rest, later = mid ++ m' :: rest →
      ¬ (afterMoves settings (earlier ++ m :: mid)).Clears m'

lemma stranded_concat (settings : Settings) (moves : List Move) (m : Move) :
    Stranded settings (moves ++ [m]) ↔ (afterMoves settings moves).Strands m ∨
      Stranded settings moves ∧ ¬ (afterMoves settings moves).Clears m := by
  constructor
  · rintro ⟨earlier, first, later, heq, hstrands, hlater⟩
    rcases List.eq_nil_or_concat later with rfl | ⟨later, last, rfl⟩
    · obtain ⟨rfl, hlast⟩ := List.append_inj' heq rfl
      obtain rfl := List.singleton_inj.mp hlast
      exact Or.inl hstrands
    · rw [List.concat_eq_append, ← List.cons_append, ← List.append_assoc] at heq
      obtain ⟨rfl, hlast⟩ := List.append_inj' heq rfl
      obtain rfl := List.singleton_inj.mp hlast
      refine Or.inr ⟨⟨earlier, first, later, rfl, hstrands, fun mid m' rest hmid => ?_⟩, ?_⟩
      · exact hlater mid m' (rest ++ [m]) (by simp [hmid])
      · exact hlater later m [] (by simp)
  · rintro (hstrands | ⟨⟨earlier, first, later, rfl, hstrands, hlater⟩, hlast⟩)
    · exact ⟨moves, m, [], rfl, hstrands, fun mid m' rest hmid => by simp at hmid⟩
    · refine ⟨earlier, first, later ++ [m], by simp, hstrands, fun mid m' rest hmid => ?_⟩
      rcases List.eq_nil_or_concat rest with rfl | ⟨rest, last, rfl⟩
      · obtain ⟨rfl, hm⟩ := List.append_inj' hmid rfl
        obtain rfl := List.singleton_inj.mp hm
        exact hlast
      · rw [List.concat_eq_append, ← List.cons_append, ← List.append_assoc] at hmid
        exact hlater mid m' rest (List.append_inj' hmid rfl).1

/-- **A command waits just if one is stranded.** -/
lemma pendingCommand_ne_none_iff (settings : Settings) (moves : List Move) :
    (afterMoves settings moves).pendingCommand ≠ none ↔ Stranded settings moves := by
  induction moves using List.reverseRecOn with
  | nil =>
      refine iff_of_false (fun h => h rfl) ?_
      rintro ⟨earlier, m, later, heq, -⟩
      simp at heq
  | append_singleton moves m ih =>
      rw [stranded_concat, ← ih]
      cases m with
      | press p =>
          rw [afterMoves_press]
          rcases deliver_cases (afterMoves settings moves) p with ⟨hdelivers, hnone, -⟩ | ⟨hdropped,
            hwaits, -⟩
          · -- Only a press without a focus could be accepted and stranded: it is not delivered.
            refine iff_of_false (fun h => h hnone) ?_
            rintro (⟨haccepts, hunfocused⟩ | ⟨-, hkept⟩)
            · have hfocused := (delivers_iff_of_accepts _ p haccepts).mp hdelivers
              exact Bool.noConfusion (hunfocused.symm.trans hfocused)
            · exact hkept hdelivers
          · -- A press that is dropped leaves its own command, or else the one that waited before.
            rw [hwaits, waitsFor]
            cases haccepts : (afterMoves settings moves).accepts p with
            | true =>
                have hunfocused : p.whenDelivered.hasFocusedWidget = false :=
                  Bool.eq_false_iff.mpr fun h =>
                    hdropped ((delivers_iff_of_accepts _ p haccepts).mpr h)
                refine iff_of_true ?_ (Or.inl ⟨haccepts, hunfocused⟩)
                exact Option.isSome_iff_ne_none.mp (isSome_command_of_accepts _ p haccepts)
            | false =>
                refine ⟨fun h => Or.inr ⟨h, hdropped⟩, ?_⟩
                rintro (⟨haccepted, -⟩ | ⟨h, -⟩)
                · exact Bool.noConfusion (haccepts.symm.trans haccepted)
                · exact h
      | other t hother =>
          rw [afterMoves_other, pendingCommand_take _ hother]
          simp only [Strands, Clears, false_or]
          split <;> simp [*]

/-! ## Whose command a press carries -/

/-- **Every press carries its own command just if no declined press follows a stranded one.**  In a
run in which every press is offered right before it is delivered, the raw event of each press
carries a command just if its own offer was accepted, and then its own command, if and only if no
press that is declined and delivered comes while a command is stranded.  And such a press inserts
its text just if none is. -/
theorem command_rides_own_iff (settings : Settings) (moves : List Move) :
    ((∀ before p, before ++ [.press p] <+: moves → (afterMoves settings before).RidesOwn p) ↔
      ∀ before p, before ++ [.press p] <+: moves → (afterMoves settings before).accepts p = false →
        (afterMoves settings before).Delivers p → ¬ Stranded settings before) ∧
    ∀ before p, before ++ [.press p] <+: moves → (afterMoves settings before).accepts p = false →
      (afterMoves settings before).Delivers p → p.inserts settings = true →
      ((∃ k ∈ keysOf ((afterMoves settings before).deliver p).effects, k.kind = .char) ↔
        ¬ Stranded settings before) := by
  simp only [← pendingCommand_ne_none_iff, not_not]
  refine ⟨?_, fun before p _ hdeclined hdelivers htext => ?_⟩
  · simp only [ridesOwn_iff]
  · rw [← settings_afterMoves settings before] at htext
    exact inserts_of_declined _ p hdeclined hdelivers htext

/-- Surroundings in which a text field has the focus. -/
def inField : Surroundings := { quietScene with text := { field := some { kind := .text } } }

/-- The shortcut for copying, at a moment when nothing in the page has the focus. -/
def unheardCopy : Press where
  event := { kind := .press, key := .character 'c', modifiers := { control := true } }
  isPress := rfl
  whenOffered := inField
  whenDelivered := { inField with hasFocusedWidget := false }

/-- A letter. -/
def letter : Press where
  event := { kind := .press, key := .character 'a', text := "a" }
  isPress := rfl
  whenOffered := inField
  whenDelivered := inField

theorem command_rides_own_iff_letter :
    Stranded {} [.press unheardCopy] ∧
    (¬ ∀ before p, before ++ [.press p] <+: [.press unheardCopy, .press letter] →
      (afterMoves {} before).RidesOwn p) ∧
    ¬ ∃ k ∈ keysOf ((afterMoves {} [.press unheardCopy]).deliver letter).effects,
      k.kind = .char := by
  have hstranded : Stranded {} [.press unheardCopy] :=
    (pendingCommand_ne_none_iff {} [.press unheardCopy]).mp (by decide)
  have hdeclined : (afterMoves {} [.press unheardCopy]).accepts letter = false := by decide
  have hdelivers : (afterMoves {} [.press unheardCopy]).Delivers letter := by decide
  have hiff := command_rides_own_iff {} [.press unheardCopy, .press letter]
  refine ⟨hstranded, fun hown => ?_, fun hchar => ?_⟩
  · exact hiff.1.mp hown _ letter (List.prefix_refl _) hdeclined hdelivers hstranded
  · exact (hiff.2 _ letter (List.prefix_refl _) hdeclined hdelivers (by decide)).mp hchar hstranded

/-- **The letter copies**, and it is not inserted. -/
theorem letter_copies :
    let v := afterMoves {} [.press unheardCopy]
    v.accepts letter = false ∧ letter.inserts {} = true ∧
    (keysOf (v.deliver letter).effects).map (fun k => (k.kind, k.command))
      = [(.rawDown, some .copy)] := by
  decide

end View

end ViewInput
