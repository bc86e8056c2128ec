import ViewInput.Settings
import ViewInput.Toml.Document

/-!
# Settings from a document

A settings file is a TOML document with the fields of `Settings` at its top.  **A field that is
missing keeps its default**, and whatever else the document holds is passed over.  A whole number
may stand for a float, but not the other way round.
-/

namespace ViewInput.Settings

open Toml (Value Entries)

/-! ## Fields -/

/-- A truth value. -/
def boolean? : Value → Option Bool
  | .boolean b => some b
  | _ => none

/-- A natural number below a limit. -/
def natural? (limit : Nat) : Value → Option Nat
  | .integer n => if 0 ≤ n ∧ n < limit then some n.toNat else none
  | _ => none

/-- A number, rounded to 32 bits. -/
def number? : Value → Option Float32
  | .integer n => some (Float32.ofInt n)
  | .float x => some x.toFloat32
  | _ => none

/-- A platform, by name or as a table whose one key is the name and whose one value is empty. -/
def platform? : Value → Option Platform
  | .text name => Platform.ofName? name
  | .table _ [(name, .table _ [])] => Platform.ofName? name
  | .table _ [(name, .array [])] => Platform.ofName? name
  | _ => none

/-- The field of a name, or the default if the document does not have it. -/
def field? {α : Type} (entries : Entries) (name : String) (read : Value → Option α)
    (default : α) : Option α :=
  match entries.lookup name with
  | none => some default
  | some value => read value

/-! ## Settings -/

/-- The settings in a table, not yet validated. -/
def ofEntries? (entries : Entries) : Option Settings := do
  let base : Settings := {}
  let platform ← field? entries "platform" platform? base.platform
  let doubleClickInterval ←
    field? entries "double_click_interval_ms" (natural? UInt64.size) base.doubleClickInterval
  let startDragDistance ← field? entries "start_drag_distance" number? base.startDragDistance
  let wheelScrollLines ← field? entries "wheel_scroll_lines" (natural? UInt32.size) base.wheelScrollLines
  let wheelDeltasPerStep ← field? entries "wheel_deltas_per_step" number? base.wheelDeltasPerStep
  let scrollStepPixels ← field? entries "scroll_step_pixels" number? base.scrollStepPixels
  let swapOverride ←
    field? entries "swap_control_meta" (fun v => (boolean? v).map some) base.swapOverride
  let pinchToZoom ← field? entries "pinch_to_zoom" boolean? base.pinchToZoom
  return { platform, doubleClickInterval, startDragDistance, wheelScrollLines,
           wheelDeltasPerStep, scrollStepPixels, swapOverride, pinchToZoom }

/-- **The settings that a text describes**, if it is a document and all fields are in range. -/
def ofText (source : String) : Except SettingsError Settings :=
  match (Toml.parse? source).bind ofEntries? with
  | some settings => settings.validated
  | none => .error .malformed

/-- The settings in the contents of a file, which may be missing or hold no text. -/
def ofFile (contents : Option ByteArray) : Except SettingsError Settings :=
  match contents.bind String.fromUTF8? with
  | some source => ofText source
  | none => .error .unreadable

end ViewInput.Settings
