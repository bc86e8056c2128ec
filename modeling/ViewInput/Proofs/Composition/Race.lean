import ViewInput.Proofs.Composition.Settling

/-!
# The race for a text in doubt

While a text is in doubt, the event that was posted once more races with keys.  **Whichever comes
first decides, and what comes later passes** (`outcomes_decided`): a key with an identity and the
event cancel the text, and a key without one that goes up has the text.

The press of a key without identity is swallowed, and it decides nothing.  So the event may still
come before the key goes up.  It cancels, the text of the key is lost, and the page gets the release
of a key whose press it never saw (`late_event_loses_text`).
-/

namespace ViewInput.Composition

open Device (InputMethodEvent KeyEvent)

/-! ## Messages -/

/-- What comes while a text is in doubt. -/
inductive Message where
  | key (event : KeyEvent)
  /-- The event that has waited longest is delivered once more. -/
  | posted (context : TextContext)

/-- What comes of a message. -/
structure Outcome where
  told : List Action
  /-- What becomes of the key, if the message is one. -/
  verdict : Option KeyVerdict
deriving DecidableEq

namespace Message

def turn : Message → Turn
  | .key event => .call (.key event)
  | .posted context => .redeliver 0 context

/-- Whether a key without identity goes down. -/
def isNamelessPress : Message → Bool
  | .key event => !event.key.hasIdentity && decide (event.kind = .press)
  | .posted _ => false

/-- What a message that decides does. -/
def decision : Message → Outcome
  | .key event =>
    if event.key.hasIdentity then ⟨[.cancelComposition], some .deliver⟩
    else ⟨[.commitText event.text [] none 0], some .swallow⟩
  | .posted _ => ⟨[.cancelComposition], none⟩

/-- What a message does that comes when all is decided. -/
def passed : Message → Outcome
  | .key _ => ⟨[], some .deliver⟩
  | .posted _ => ⟨[], none⟩

/-- The first message that decides, if any does. -/
lemma exists_decider {messages : List Message}
    (h : ¬ ∀ m ∈ messages, m.isNamelessPress = true) :
    ∃ presses m rest, messages = presses ++ m :: rest ∧
      (∀ p ∈ presses, p.isNamelessPress = true) ∧ m.isNamelessPress = false := by
  cases hfind : messages.find? fun m => !m.isNamelessPress with
  | none => exact absurd (by simpa using hfind) h
  | some m =>
      obtain ⟨hm, presses, rest, rfl, hpresses⟩ := List.find?_eq_some_iff_append.mp hfind
      exact ⟨presses, m, rest, rfl, by simpa using hpresses, by simpa using hm⟩

end Message

/-- A key that is kept from the page, with nothing told. -/
def Outcome.swallowed : Outcome := ⟨[], some .swallow⟩

namespace Host

variable {h : Host}

def verdict? (h : Host) : Message → Option KeyVerdict
  | .key event => some (h.composition.key event).2.2
  | .posted _ => none

def outcome (h : Host) (m : Message) : Outcome := ⟨h.told m.turn, h.verdict? m⟩

/-- **What comes of messages**, one by one. -/
def outcomes (h : Host) : List Message → List Outcome
  | [] => []
  | m :: rest => h.outcome m :: (h.turn m.turn).outcomes rest

/-! ## When all is decided -/

lemma outcome_of_inactive (hwait : h.EmptyOnly) (hphase : h.composition.phase = .inactive)
    (m : Message) :
    h.outcome m = m.passed ∧ (h.turn m.turn).composition.phase = .inactive := by
  cases m with
  | key event =>
      simp [outcome, told, verdict?, Message.turn, Message.passed, turn, take, respond, key, hphase]
  | posted context =>
      cases hplace : h.waiting[0]? with
      | none =>
          simp [outcome, told, verdict?, Message.turn, Message.passed, turn, redeliver?, hplace,
            hphase]
      | some event =>
          have hlapse := receive_of_saysNothing (hwait event (List.mem_of_getElem? hplace))
            h.composition context
          simp [outcome, told, verdict?, Message.turn, Message.passed, turn, redeliver?, take,
            respond, hplace, hlapse, lapse, hphase, idle]

lemma outcomes_of_inactive (hwait : h.EmptyOnly) (hphase : h.composition.phase = .inactive)
    (messages : List Message) : h.outcomes messages = messages.map Message.passed := by
  induction messages generalizing h with
  | nil => rfl
  | cons m rest ih =>
      obtain ⟨hpassed, hstill⟩ := outcome_of_inactive hwait hphase m
      rw [outcomes, hpassed, ih (hwait.turn m.turn) hstill, List.map_cons]

/-! ## While the text is in doubt -/

lemma outcome_of_isNamelessPress (hphase : h.composition.phase = .awaiting) {m : Message}
    (hpress : m.isNamelessPress = true) : h.outcome m = .swallowed ∧ h.turn m.turn = h := by
  cases m with
  | posted context => cases hpress
  | key event =>
      simp only [Message.isNamelessPress, Bool.and_eq_true, Bool.not_eq_true',
        decide_eq_true_eq] at hpress
      have hkey : h.composition.key event = (h.composition, [], .swallow) := by
        simp [key, hphase, hpress]
      simp [outcome, told, verdict?, Message.turn, turn, take, respond, hkey, reposted,
        Outcome.swallowed]

lemma outcome_of_decides (hwait : h.EmptyOnly) (hphase : h.composition.phase = .awaiting)
    (hsome : h.waiting ≠ []) {m : Message} (hdecides : m.isNamelessPress = false) :
    h.outcome m = m.decision ∧ (h.turn m.turn).composition.phase = .inactive := by
  cases m with
  | key event =>
      cases hidentity : event.key.hasIdentity with
      | true =>
          simp [outcome, told, verdict?, Message.turn, Message.decision, turn, take, respond, key,
            hphase, hidentity, idle]
      | false =>
          have hrelease : event.kind = .release := by
            cases hkind : event.kind with
            | press => simp [Message.isNamelessPress, hidentity, hkind] at hdecides
            | release => rfl
          simp [outcome, told, verdict?, Message.turn, Message.decision, turn, take, respond, key,
            hphase, hidentity, hrelease, idle]
  | posted context =>
      obtain ⟨event, rest, hwaiting⟩ := List.exists_cons_of_ne_nil hsome
      have hlapse := receive_of_saysNothing (hwait event (by simp [hwaiting])) h.composition context
      simp [outcome, told, verdict?, Message.turn, Message.decision, turn, redeliver?, take,
        respond, hwaiting, hlapse, lapse, hphase, idle]

lemma outcomes_presses (hphase : h.composition.phase = .awaiting) {presses : List Message}
    (hpresses : ∀ p ∈ presses, p.isNamelessPress = true) (rest : List Message) :
    h.outcomes (presses ++ rest) = presses.map (fun _ => .swallowed) ++ h.outcomes rest := by
  induction presses with
  | nil => rfl
  | cons p presses ih =>
      obtain ⟨hswallowed, hsame⟩ :=
        outcome_of_isNamelessPress hphase (hpresses p List.mem_cons_self)
      rw [List.cons_append, outcomes, hswallowed, hsame,
        ih fun q hq => hpresses q (List.mem_cons_of_mem p hq)]
      rfl

/-- **The first message that is more than the press of a key without identity decides**, and what
comes later passes. -/
lemma outcomes_decided (hwait : h.EmptyOnly) (hphase : h.composition.phase = .awaiting)
    (hsome : h.waiting ≠ []) {presses : List Message}
    (hpresses : ∀ p ∈ presses, p.isNamelessPress = true) {m : Message}
    (hdecides : m.isNamelessPress = false) (rest : List Message) :
    h.outcomes (presses ++ m :: rest)
      = presses.map (fun _ => .swallowed) ++ m.decision :: rest.map Message.passed := by
  obtain ⟨hdecision, hover⟩ := outcome_of_decides hwait hphase hsome hdecides
  rw [outcomes_presses hphase hpresses, outcomes, hdecision,
    outcomes_of_inactive (hwait.turn m.turn) hover]

/-- **A key without identity that goes down first has the text when it goes up**, unless something
decides in between. -/
lemma commits_on_release_iff (hwait : h.EmptyOnly) (hphase : h.composition.phase = .awaiting)
    (hsome : h.waiting ≠ []) {press release : KeyEvent}
    (hpress : (Message.key press).isNamelessPress = true)
    (hnameless : release.key.hasIdentity = false) (hup : release.kind = .release)
    (between : List Message) :
    (h.outcomes (.key press :: between ++ [.key release])).getLast?
        = some ⟨[.commitText release.text [] none 0], some .swallow⟩ ↔
      ∀ m ∈ between, m.isNamelessPress = true := by
  have hrelease : (Message.key release).isNamelessPress = false := by
    simp [Message.isNamelessPress, hup]
  constructor
  · -- Whatever decides in between leaves the release to pass.
    intro hlast
    by_contra hnot
    obtain ⟨presses, m, rest, rfl, hpresses, hdecides⟩ := Message.exists_decider hnot
    have hall : ∀ p ∈ .key press :: presses, p.isNamelessPress = true :=
      List.forall_mem_cons.mpr ⟨hpress, hpresses⟩
    have hpassed := outcomes_decided hwait hphase hsome hall hdecides (rest ++ [.key release])
    have hsplit : .key press :: (presses ++ m :: rest) ++ [.key release]
        = .key press :: presses ++ m :: (rest ++ [.key release]) := by simp
    rw [hsplit, hpassed, List.map_append, List.map_singleton, ← List.cons_append,
      ← List.append_assoc, List.getLast?_concat] at hlast
    simp [Message.passed] at hlast
  · intro hbetween
    have hall : ∀ p ∈ .key press :: between, p.isNamelessPress = true :=
      List.forall_mem_cons.mpr ⟨hpress, hbetween⟩
    rw [outcomes_decided hwait hphase hsome hall hrelease [], List.map_nil, List.getLast?_concat]
    simp [Message.decision, hnameless]

end Host

/-- **Whichever comes first decides a text in doubt.**  After any turns, let a text be in doubt and
let something wait.  Presses of keys without identity are swallowed, and nothing is told.  The first
other message decides: the event that waits cancels the text, a key with an identity cancels it and
is delivered, and a key without one that goes up is swallowed and its text is committed.  After that
nothing is told, and every key is delivered.

So when a key without identity goes down first, its release is swallowed and commits its text
exactly if nothing but such presses comes in between. -/
theorem first_comer_decides (turns : List Turn)
    (hdoubt : (Host.play turns).composition.phase = .awaiting)
    (hwaits : (Host.play turns).waiting ≠ []) :
    (∀ presses m rest, (∀ p ∈ presses, p.isNamelessPress = true) → m.isNamelessPress = false →
      (Host.play turns).outcomes (presses ++ m :: rest)
        = presses.map (fun _ => .swallowed) ++ m.decision :: rest.map Message.passed) ∧
    (∀ press between release, (Message.key press).isNamelessPress = true →
      release.key.hasIdentity = false → release.kind = .release →
      (((Host.play turns).outcomes (.key press :: between ++ [.key release])).getLast?
          = some ⟨[.commitText release.text [] none 0], some .swallow⟩ ↔
        ∀ m ∈ between, m.isNamelessPress = true)) := by
  have hwait := Host.emptyOnly_play turns
  refine ⟨fun presses m rest hpresses hdecides => ?_,
    fun press between release hpress hnameless hup => ?_⟩
  · exact Host.outcomes_decided hwait hdoubt hwaits hpresses hdecides rest
  · exact Host.commits_on_release_iff hwait hdoubt hwaits hpress hnameless hup between

/-- A text is composed and put in doubt. -/
def doubtfulText : List Turn :=
  [.call (.event { preedit := "h" } {}), .call (.event {} {})]

/-- A key without identity that has a text goes down. -/
def namelessPress : KeyEvent := { kind := .press, key := .none, text := "ha" }

/-- It goes up. -/
def namelessRelease : KeyEvent := { namelessPress with kind := .release }

theorem first_comer_decides_doubtfulText :
    (Host.play doubtfulText).composition.phase = .awaiting ∧
    (Host.play doubtfulText).waiting ≠ [] ∧
    (Host.play doubtfulText).outcomes [.key namelessPress, .key namelessRelease, .posted {}]
      = [⟨[], some .swallow⟩, ⟨[.commitText "ha" [] none 0], some .swallow⟩, ⟨[], none⟩] ∧
    ((Host.play doubtfulText).outcomes
        [.key namelessPress, .posted {}, .key namelessRelease]).getLast?
      ≠ some ⟨[.commitText "ha" [] none 0], some .swallow⟩ := by
  have hdoubt : (Host.play doubtfulText).composition.phase = .awaiting := by decide
  have hwaits : (Host.play doubtfulText).waiting ≠ [] := by decide
  obtain ⟨hdecided, hbetween⟩ := first_comer_decides doubtfulText hdoubt hwaits
  have htext := hdecided [.key namelessPress] (.key namelessRelease) [.posted {}] (by decide)
    (by decide)
  have hlost := hbetween namelessPress [.posted {}] namelessRelease (by decide) (by decide)
    (by decide)
  exact ⟨hdoubt, hwaits, htext, hlost.not.mpr (by decide)⟩

/-- **The event that was posted once more comes late, and a text is lost.**  The key without
identity came first and its press was swallowed.  Before it goes up the event cancels the text, and
the release goes to the page. -/
theorem late_event_loses_text :
    (Host.play doubtfulText).outcomes [.key namelessPress, .posted {}, .key namelessRelease]
      = [⟨[], some .swallow⟩, ⟨[.cancelComposition], none⟩, ⟨[], some .deliver⟩] := by
  decide

end ViewInput.Composition
