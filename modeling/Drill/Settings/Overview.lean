import Drill.Settings.Library

/-!
# Settings at a glance

`Settings.overview` lists the settings by name, as they were given and before any stretching, and
`Settings.banner` is how a run shows them when it starts. Main statement: `overview_names`, the
names are the same for all settings.
-/

namespace Drill.Settings

/-- A number of milliseconds as a value. -/
def millisValue (m : Millis) : Json.Value := .int m.count

/-- A number of milliseconds that may be missing as a value. -/
def optionalValue : Option Millis → Json.Value
  | some m => millisValue m
  | none => .null

/-- The settings by name (`get_redacted_config`). How log lines are laid out is not among them. -/
def overview (s : Settings) : List (String × Json.Value) :=
  [(Field.stability.name, millisValue s.stability),
   (Field.outage.name, millisValue s.outage),
   (Field.period.name, millisValue s.period),
   (Field.formation.name, millisValue s.formation),
   (Field.restart.name, optionalValue s.restart),
   (Field.grace.name, millisValue s.grace),
   (Field.callLimit.name, optionalValue s.callLimit),
   (Field.factor.name, .number s.factor.value),
   (Field.strict.name, .bool s.strict),
   (Field.logLevel.name, .string s.logLevel.name)]

/-- The names in an overview do not depend on the settings. -/
theorem overview_names (s t : Settings) : s.overview.map (·.1) = t.overview.map (·.1) := rfl

/-- The settings in one line (the first line that `run` logs). -/
def banner (s : Settings) : String := (Json.Value.object s.overview).describe

end Drill.Settings
