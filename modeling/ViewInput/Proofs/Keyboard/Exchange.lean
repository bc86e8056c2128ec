import Mathlib.Logic.Basic
import ViewInput.Keyboard.Event
import ViewInput.Windowing

/-!
# Control and Meta, exchanged twice

On macOS a toolkit reports Command as Control.  A windowing system does not, so what it reports is
exchanged on the way into a toolkit's terms, and exchanged back on the way to the page.  Each way
exchanges twice, once in the key and once among the modifiers, and text, codes and flags are drawn
from the two afterwards.

All that a page event takes from the settings is what they make of the key and of the modifiers
(`keyEvent_eq_presented`).  So **the page sees the key that was pressed, whatever the platform**,
and settings that exchange do to an event what exchanging in the event does
(`page_sees_key_pressed`).
-/

namespace ViewInput

/-- The event with Control and Meta exchanged, in its key and among its modifiers. -/
def Device.KeyEvent.swapControlMeta (e : Device.KeyEvent) : Device.KeyEvent :=
  { e with key := e.key.swapControlMeta, modifiers := e.modifiers.swapControlMeta }

/-- The event as the page is to see it. -/
def Settings.presentEvent (s : Settings) (e : Device.KeyEvent) : Device.KeyEvent :=
  if s.swapsControlMeta then e.swapControlMeta else e

/-- The key event of a toolkit, with the key and the modifiers that a windowing system reports. -/
def Windowing.keyEvent (e : Device.KeyEvent) (value : KeyValue) (held : Held)
    (platform : Platform) : Device.KeyEvent :=
  { e with key := key value platform, modifiers := modifiers held platform }

namespace Keyboard

open Windowing (KeyValue Held)

variable {s s' : Settings}

/-! ## From the device to the page -/

/-- **Settings without an exchange take the event as the page is to see it** for what other settings
take the event itself. -/
lemma keyEvent_eq_presented (s : Settings) {plain : Settings}
    (hplain : plain.swapsControlMeta = false) (e : Device.KeyEvent) (time : Nat) :
    keyEvent s e time = keyEvent plain (s.presentEvent e) time := by
  cases hs : s.swapsControlMeta with
  | false =>
      simp [keyEvent, flags, Settings.presentEvent, Settings.presentKey,
        Settings.pageModifiers, Settings.presentModifiers, hs, hplain]
  | true =>
      simp [keyEvent, flags, onKeypad, Settings.presentEvent, Settings.presentKey,
        Settings.pageModifiers, Settings.presentModifiers, Device.KeyEvent.swapControlMeta,
        Device.Modifiers.swapControlMeta, hs, hplain]

lemma keyEvents_eq_presented (s : Settings) {plain : Settings}
    (hplain : plain.swapsControlMeta = false) (e : Device.KeyEvent) (time : Nat)
    (command : Option EditCommand) :
    keyEvents s e time command = keyEvents plain (s.presentEvent e) time command := by
  have hkind : (s.presentEvent e).kind = e.kind := by
    unfold Settings.presentEvent
    split <;> rfl
  unfold keyEvents
  rw [keyEvent_eq_presented s hplain, hkind]

/-- The events of one key carry the same flags. -/
lemma modifiers_of_mem_keyEvents {e : Device.KeyEvent} {time : Nat} {command : Option EditCommand}
    {event : Page.KeyEvent} (h : event ∈ keyEvents s e time command) :
    event.modifiers = flags s e (onKeypad e) := by
  have hraw : (keyEvent s e time).modifiers = flags s e (onKeypad e) := rfl
  simp only [keyEvents] at h
  split at h
  · rw [List.mem_singleton.mp h, hraw]
  · rw [List.mem_singleton.mp h, hraw]
  · split at h
    · rw [List.mem_singleton.mp h, hraw]
    · rcases List.mem_cons.mp h with rfl | h
      · exact hraw
      · rw [List.mem_singleton.mp h, hraw]

/-! ## From the windowing system to the device -/

/-- **The two exchanges cancel**: the page is to see the key that was pressed. -/
lemma presentEvent_windowing (hs : s.swapOverride = none) (e : Device.KeyEvent) (value : KeyValue)
    (held : Held) :
    s.presentEvent (Windowing.keyEvent e value held s.platform)
      = Windowing.keyEvent e value held .linux := by
  have hswaps : s.swapsControlMeta = s.platform.swapsControlMeta := by
    rw [Settings.swapsControlMeta, hs, Option.getD_none]
  cases hplatform : s.platform with
  | linux | windows =>
      rw [hplatform] at hswaps
      rw [Settings.presentEvent, hswaps]
      rfl
  | macos =>
      rw [hplatform] at hswaps
      rw [Settings.presentEvent, hswaps]
      simp [Windowing.keyEvent, Windowing.key, Windowing.modifiers, Platform.swapsControlMeta,
        Device.KeyEvent.swapControlMeta]

/-- **The page sees the key that was pressed.**  A key that a windowing system reports, taken into
the terms of a toolkit on any platform and from there to the page by settings that follow the
platform, gives the same events as on Linux, whatever the key, its text, its place, its kind and its
command; and the page sees Control held when Control is held and Meta when Super is.  Settings that
exchange Control and Meta make of every event of a toolkit what settings that do not make of the
event with its key and its modifiers exchanged. -/
theorem page_sees_key_pressed :
    (∀ (s plain : Settings) (e : Device.KeyEvent) (value : KeyValue) (held : Held) (time : Nat)
      (command : Option EditCommand), s.swapOverride = none → plain.platform = .linux →
      plain.swapOverride = none →
      keyEvents s (Windowing.keyEvent e value held s.platform) time command
          = keyEvents plain (Windowing.keyEvent e value held .linux) time command ∧
        ∀ event ∈ keyEvents s (Windowing.keyEvent e value held s.platform) time command,
          event.modifiers.control = held.control ∧ event.modifiers.metaKey = held.super) ∧
    ∀ (s plain : Settings) (e : Device.KeyEvent) (time : Nat), s.swapsControlMeta = true →
      plain.swapsControlMeta = false →
      keyEvent s e time = keyEvent plain e.swapControlMeta time := by
  refine ⟨fun s plain e value held time command hs hplatform hplain => ?_,
    fun s plain e time hs hplain => ?_⟩
  · have hswaps : plain.swapsControlMeta = false := by
      rw [Settings.swapsControlMeta, hplain, hplatform]
      rfl
    have heq : keyEvents s (Windowing.keyEvent e value held s.platform) time command
        = keyEvents plain (Windowing.keyEvent e value held .linux) time command := by
      rw [keyEvents_eq_presented s hswaps, presentEvent_windowing hs]
    refine ⟨heq, fun event hevent => ?_⟩
    rw [heq] at hevent
    rw [modifiers_of_mem_keyEvents hevent, flags, Settings.pageModifiers, Settings.presentModifiers,
      hswaps]
    exact ⟨rfl, rfl⟩
  · rw [keyEvent_eq_presented s hplain, Settings.presentEvent, if_pos hs]

/-- A key on the right of the keyboard goes down once more, with a text. -/
def rightKey : Device.KeyEvent :=
  { kind := .press, key := .none, location := .right, text := "a", autoRepeat := true }

/-- Shift and Command, as a windowing system reports them. -/
def shiftCommand : Held := { shift := true, control := false, alt := false, super := true }

theorem page_sees_key_pressed_command :
    (({ platform := .macos } : Settings).swapOverride = none ∧
      keyEvents { platform := .macos } (Windowing.keyEvent rightKey (.named "Super") shiftCommand
          .macos) 5 none
        = keyEvents {} (Windowing.keyEvent rightKey (.named "Super") shiftCommand .linux) 5 none ∧
      (keyEvents { platform := .macos } (Windowing.keyEvent rightKey (.named "Super") shiftCommand
          .macos) 5 none).map (fun event => (event.domKey, event.domCode))
        = [(.named .metaKey, "MetaRight"), (.named .metaKey, "MetaRight")]) ∧
    (({ platform := .macos } : Settings).swapsControlMeta = true ∧
      ({ platform := .macos, swapOverride := some false } : Settings).swapsControlMeta = false ∧
      keyEvent { platform := .macos } { rightKey with key := .named .control } 5
        = keyEvent { platform := .macos, swapOverride := some false }
          { rightKey with key := .named .metaKey } 5) := by
  obtain ⟨hsame, hexchange⟩ := page_sees_key_pressed
  have hpress := (hsame { platform := .macos } {} rightKey (.named "Super") shiftCommand 5 none
    rfl rfl rfl).1
  have hother := hexchange { platform := .macos }
    { platform := .macos, swapOverride := some false } { rightKey with key := .named .control } 5
    rfl rfl
  exact ⟨⟨rfl, hpress, by decide⟩, rfl, rfl, hother⟩

end Keyboard

end ViewInput
