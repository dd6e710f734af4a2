import QueryConsole.Settings.Sources
/-!
# Kept settings

Settings are made once and kept until they are cleared. Settings that could
not be made are not kept.
-/

namespace QueryConsole.Settings

/-- The settings that are kept, if any are. -/
abbrev Kept := Option Settings

/-- The kept settings, or else those of the sources, which are then kept. -/
def Kept.get (kept : Kept) (s : Sources) : Except (List Violation) Settings × Kept :=
  match kept with
  | some settings => (.ok settings, kept)
  | none =>
    match s.settings with
    | .ok settings => (.ok settings, some settings)
    | .error violations => (.error violations, none)

end QueryConsole.Settings
