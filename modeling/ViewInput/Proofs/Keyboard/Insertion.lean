import Mathlib.Data.List.Basic
import ViewInput.Keyboard.Event

/-!
# Text is inserted once

A page inserts text for events of one kind only, and a key gives up to two events.  **A press
inserts its text once, if it has any and no command comes with it, and nothing else inserts text**
(`press_inserts_text_once`).

The text is that of the device's event, but for the Enter key and for lone control characters
(`textOf`).  That Control and Meta may be exchanged plays no part, as neither gives text.
-/

namespace ViewInput.Keyboard

open Device (Key NamedKey)

/-! ## The text of a key -/

/-- The text that a key is to insert: a carriage return for the Enter key, nothing instead of a lone
control character, and else what the device says. -/
def textOf (e : Device.KeyEvent) : String :=
  if e.key = .named .enter then "\r"
  else if e.text.length = 1 ∧ e.text.toList.all isControl then ""
  else e.text

section Presented

variable (s : Settings) {key : Key}

lemma presentKey_character (c : Char) : s.presentKey (.character c) = .character c := by
  unfold Settings.presentKey
  split <;> rfl

lemma presentKey_eq_enter_iff : s.presentKey key = .named .enter ↔ key = .named .enter := by
  unfold Settings.presentKey
  split
  · cases key with
    | character c => simp [Key.swapControlMeta]
    | named name => cases name <;> simp [Key.swapControlMeta]
  · rfl

/-- The text is taken from the key as the page sees it. -/
lemma insertedText_presentKey (e : Device.KeyEvent) :
    insertedText (s.presentKey e.key) e.text = textOf e := by
  simp only [insertedText, textOf, presentKey_eq_enter_iff, ← String.length_toList]
  split
  · rfl
  · split
    · rename_i c htext
      simp [htext]
    · rename_i hlone
      rw [if_neg]
      rintro ⟨hone, -⟩
      obtain ⟨c, htext⟩ := List.length_eq_one_iff.mp hone
      exact hlone c htext

end Presented

/-! ## The events of a key -/

/-- The texts that a page inserts for some events. -/
def insertions (events : List Page.KeyEvent) : List String :=
  (events.filter fun event => event.kind = .char).map (·.text)

section Events

variable (s : Settings) (e : Device.KeyEvent) (time : Nat)

lemma keyEvent_text : (keyEvent s e time).text = textOf e := insertedText_presentKey s e

lemma keyEvent_domKey : (keyEvent s e time).domKey = domKey (s.presentKey e.key) (textOf e) := by
  rw [← keyEvent_text s e time]
  rfl

/-- The identity of a key with a character: the one character of its text, if there is just one. -/
lemma keyEvent_domKey_of_character {c : Char} (hkey : e.key = .character c) :
    (∀ x, (textOf e).toList = [x] → (keyEvent s e time).domKey = .character x) ∧
    ((textOf e).length ≠ 1 → (keyEvent s e time).domKey = .character c) := by
  rw [keyEvent_domKey, hkey, presentKey_character]
  refine ⟨fun x hx => by simp only [domKey, hx], fun hlength => ?_⟩
  simp only [domKey]
  split
  · rename_i x hx
    rw [← String.length_toList, hx] at hlength
    exact absurd rfl hlength
  · rfl

lemma withKind_eq_self {key : Page.KeyEvent} {kind : Page.KeyKind} (h : key.kind = kind) :
    { key with kind := kind } = key := by
  rw [← h]

/-- What a key gives, by its kind and its command. -/
lemma keyEvents_eq (command : Option EditCommand) :
    let key := keyEvent s e time
    keyEvents s e time command =
      match e.kind, command with
      | .release, _ => [{ key with kind := .up }]
      | .press, some command => [{ key with kind := .rawDown, command := some command }]
      | .press, none =>
        if textOf e = "" then [{ key with kind := .rawDown }]
        else
          [{ key with kind := .rawDown, skipInBrowser := true }, { key with kind := .char }] := by
  intro key
  cases hkind : e.kind with
  | release =>
      have hup : key.kind = .up := by simp only [key, keyEvent, hkind]
      simp only [keyEvents, hkind, withKind_eq_self hup]
      rfl
  | press =>
      have hdown : key.kind = .rawDown := by simp only [key, keyEvent, hkind]
      have htext : key.text = textOf e := keyEvent_text s e time
      cases command with
      | some command =>
          simp only [keyEvents, hkind, ← hdown]
          rfl
      | none =>
          simp only [keyEvents, hkind, String.isEmpty_iff, ← hdown, ← htext]
          rfl

end Events

/-- **A press inserts its text once.**  For all settings, and for every event of a key, whatever its
key, its text, its place and its modifiers: there is one event of the page behind all that the key
gives, with the text of the key, without a command, and not left alone by the browser.  A release
gives it as a key going up.  A press with a command gives it as a key going down, with the command;
a press without text, as a key going down.  Any other press gives it twice, as a key going down that
the browser leaves alone, and then as text to insert.  So a press inserts its text if it has some
and comes with no command, and then once, and nothing else inserts text.  A key with a character has
as its identity the one character of its text, or else its own. -/
theorem press_inserts_text_once (s : Settings) (e : Device.KeyEvent) (time : Nat) :
    ∃ key : Page.KeyEvent,
      (key.text = textOf e ∧ key.unmodifiedText = textOf e ∧ key.skipInBrowser = false ∧
        key.command = none) ∧
      (∀ c, e.key = .character c →
        (∀ x, (textOf e).toList = [x] → key.domKey = .character x) ∧
        ((textOf e).length ≠ 1 → key.domKey = .character c)) ∧
      ∀ command,
        (keyEvents s e time command =
          match e.kind, command with
          | .release, _ => [{ key with kind := .up }]
          | .press, some command => [{ key with kind := .rawDown, command := some command }]
          | .press, none =>
            if textOf e = "" then [{ key with kind := .rawDown }]
            else [{ key with kind := .rawDown, skipInBrowser := true }, { key with kind := .char }])
        ∧ insertions (keyEvents s e time command)
          = if e.kind = .press ∧ command = none ∧ textOf e ≠ "" then [textOf e] else [] := by
  have htext := keyEvent_text s e time
  refine ⟨keyEvent s e time, ⟨htext, htext, rfl, rfl⟩,
    fun c hkey => keyEvent_domKey_of_character s e time hkey, fun command => ?_⟩
  refine ⟨keyEvents_eq s e time command, ?_⟩
  rw [keyEvents_eq]
  cases hkind : e.kind with
  | release => simp [insertions]
  | press =>
      cases command with
      | some command => simp [insertions]
      | none => by_cases hempty : textOf e = "" <;> simp [insertions, hempty, htext]

/-- A key that gives another character than its own. -/
def accented : Device.KeyEvent := { kind := .press, key := .character 'e', text := "é" }

/-- Control and a letter, which a toolkit reports with a control character for its text. -/
def controlLetter : Device.KeyEvent := { kind := .press, key := .character 'a', text := "\x01" }

theorem press_inserts_text_once_accented :
    (∃ key : Page.KeyEvent, key.text = "é" ∧
      (accented.key = .character 'e' ∧ (textOf accented).toList = ['é'] ∧
        key.domKey = .character 'é') ∧
      keyEvents { platform := .macos } accented 5 none
        = [{ key with kind := .rawDown, skipInBrowser := true }, { key with kind := .char }] ∧
      insertions (keyEvents { platform := .macos } accented 5 none) = ["é"]) ∧
    ∃ key : Page.KeyEvent,
      (controlLetter.key = .character 'a' ∧ (textOf controlLetter).length ≠ 1 ∧
        key.domKey = .character 'a') ∧
      keyEvents {} controlLetter 5 none = [{ key with kind := .rawDown }] ∧
      insertions (keyEvents {} controlLetter 5 none) = [] := by
  have haccented : textOf accented = "é" := by decide
  have hcontrol : textOf controlLetter = "" := by decide
  obtain ⟨key, ⟨htext, -⟩, hdom, hevents⟩ :=
    press_inserts_text_once { platform := .macos } accented 5
  obtain ⟨control, -, hidentity, hgiven⟩ := press_inserts_text_once {} controlLetter 5
  have hone : (textOf accented).toList = ['é'] := by rw [haccented]; decide
  have hnone : (textOf controlLetter).length ≠ 1 := by rw [hcontrol]; decide
  refine ⟨⟨key, htext.trans haccented, ⟨rfl, hone, (hdom 'e' rfl).1 'é' hone⟩, ?_, ?_⟩,
    control, ⟨rfl, hnone, (hidentity 'a' rfl).2 hnone⟩, ?_, ?_⟩
  · rw [(hevents none).1, haccented]
    rfl
  · rw [(hevents none).2, haccented]
    rfl
  · rw [(hgiven none).1, hcontrol]
    rfl
  · rw [(hgiven none).2, hcontrol]
    rfl

end ViewInput.Keyboard
