import ViewInput.Device.Key
import ViewInput.Page.Modifiers
import ViewInput.Settings

/-!
# How keys and modifiers are presented

Where the toolkit exchanges Control and Meta, the page sees them exchanged back: **the key and the
modifiers go together**, by the same setting.
-/

namespace ViewInput.Settings

/-- The modifiers as the page is to see them. -/
def presentModifiers (s : Settings) (m : Device.Modifiers) : Device.Modifiers :=
  if s.swapsControlMeta then m.swapControlMeta else m

/-- The key as the page is to see it. -/
def presentKey (s : Settings) (k : Device.Key) : Device.Key :=
  if s.swapsControlMeta then k.swapControlMeta else k

/-- The flags of a page event, from the modifiers and the buttons held. -/
def pageModifiers (s : Settings) (m : Device.Modifiers) (b : Device.Buttons) : Page.Modifiers :=
  Page.Modifiers.ofDevice (s.presentModifiers m) b

end ViewInput.Settings
