import Devirt.Logging.Filter
import Devirt.Settings.Basic

/-!
# The log filter of the settings

The level in the settings is the name of a level or a list of directives. The environment may add
directives.
-/

namespace Devirt.LoggingSettings

open Logging (Filter Level)

/-- The directives that a configured level stands for. The names of levels may be written in letters
of either case and have two synonyms, and a blank text stands for the default. -/
def normalizeLevel (level : String) : List Char :=
  let trimmed := Text.trim level.toList
  let default : LoggingSettings := {}
  if trimmed.isEmpty then default.level.toList
  else
    let word := String.ofList (trimmed.map Char.toLower)
    if word = "warning" then Level.warn.name.toList
    else if word = "none" then Level.off.name.toList
    else
      match Level.all.find? (·.name = word) with
      | some l => l.name.toList
      | none => trimmed

/-- The filter of the configured level. One that cannot be read stands for `info`. -/
def configuredFilter (s : LoggingSettings) : Filter :=
  (Filter.parse? (normalizeLevel s.level)).getD (.ofLevel .info)

/-- The filter in effect. Directives from the environment come after the configured ones, alone if
those cannot be read, and not at all if they cannot be read themselves. -/
def filter (s : LoggingSettings) (environment : Option String) : Filter :=
  let extra := Text.trim (environment.getD "").toList
  if extra.isEmpty then s.configuredFilter
  else
    ((Filter.parse? (normalizeLevel s.level ++ ',' :: extra)).or
      (Filter.parse? extra)).getD s.configuredFilter

end Devirt.LoggingSettings
