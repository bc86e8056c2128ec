import ViewInput.Binary32.Shortest
import ViewInput.Platform

/-!
# Settings

`Settings` holds what the events of a page depend on: the platform, the limits of a click streak and
the constants of a wheel step.  **Validation** (`Settings.check`) names the first field that is out of
range, in a fixed order.
-/

namespace ViewInput

/-! ## The settings and their defaults -/

/-- The settings of one view.  Times are milliseconds and lengths logical pixels. -/
structure Settings where
  platform : Platform := .linux
  /-- The longest time between two presses of one streak. -/
  doubleClickInterval : Nat := 400
  /-- The longest distance between two presses of one streak. -/
  startDragDistance : Float32 := 10
  wheelScrollLines : Nat := 3
  /-- Units of the wheel angle that make one step. -/
  wheelDeltasPerStep : Float32 := 120
  scrollStepPixels : Float32 := 20
  /-- Whether Control and Meta are exchanged, if that is not left to the platform. -/
  swapOverride : Option Bool := none
  pinchToZoom : Bool := true
deriving DecidableEq

namespace Settings

instance : Inhabited Settings := ⟨{}⟩

/-- Whether Control and Meta are exchanged: as the override says, or else as the platform does. -/
def swapsControlMeta (s : Settings) : Bool :=
  s.swapOverride.getD s.platform.swapsControlMeta

end Settings

/-! ## Errors -/

/-- What a field asks of its value. -/
inductive Requirement where
  | atLeastOne
  | positive (found : Float32)
  | notNegative (found : Float32)

def Requirement.message : Requirement → String
  | .atLeastOne => "must be at least 1"
  | .positive found => "must be positive, got " ++ Binary32.text found
  | .notNegative found => "must not be negative, got " ++ Binary32.text found

/-- Why there are no settings. -/
inductive SettingsError where
  /-- There is no file, or it holds no text. -/
  | unreadable
  /-- The text is no document, or a field has the wrong type or does not fit its width. -/
  | malformed
  | outOfRange (field : String) (unmet : Requirement)

def SettingsError.message : SettingsError → String
  | .unreadable => "failed to read the settings file"
  | .malformed => "failed to parse the settings"
  | .outOfRange field unmet => "invalid value for `" ++ field ++ "`: " ++ unmet.message

/-- What can go wrong in the input layer. -/
inductive InputError where
  /-- More fingers than there are slots; `live` of them are held already. -/
  | tooManyTouches (live : Nat)
  | settings (cause : SettingsError)

def InputError.message : InputError → String
  | .tooManyTouches live =>
    "touch point limit exceeded: " ++ toString live ++ " points already live"
  | .settings cause => "configuration error: " ++ cause.message

/-! ## Validation -/

namespace Settings

/-- **The first field out of range**, or nothing.  A value that is no number is in no range. -/
def check (s : Settings) : Except SettingsError Unit :=
  if s.wheelScrollLines = 0 then
    .error (.outOfRange "wheel_scroll_lines" .atLeastOne)
  else if ¬ 0 < s.wheelDeltasPerStep then
    .error (.outOfRange "wheel_deltas_per_step" (.positive s.wheelDeltasPerStep))
  else if ¬ 0 < s.scrollStepPixels then
    .error (.outOfRange "scroll_step_pixels" (.positive s.scrollStepPixels))
  else if ¬ 0 ≤ s.startDragDistance then
    .error (.outOfRange "start_drag_distance" (.notNegative s.startDragDistance))
  else .ok ()

/-- The settings themselves, if all fields are in range. -/
def validated (s : Settings) : Except SettingsError Settings :=
  match s.check with
  | .ok () => .ok s
  | .error e => .error e

end Settings

end ViewInput
