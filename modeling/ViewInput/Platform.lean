/-!
# Host platforms

The conventions of the host decide a few questions: which modifier is the primary one for editing,
whether Control and Meta arrive exchanged, and how an input method is told to finish.
-/

namespace ViewInput

/-- A host platform. -/
inductive Platform where
  | linux
  | windows
  | macos
deriving DecidableEq

namespace Platform

instance : Inhabited Platform := ⟨.linux⟩

/-- Whether the toolkit reports the Command key as Control. -/
def swapsControlMeta : Platform → Bool
  | .macos => true
  | .linux | .windows => false

/-- The platform of a name in a settings file. -/
def ofName? : String → Option Platform
  | "linux" => some .linux
  | "windows" => some .windows
  | "macos" => some .macos
  | _ => none

end Platform

end ViewInput
