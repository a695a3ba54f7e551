import Devirt.Settings.Basic
import Devirt.Settings.Directory
import Devirt.Toml.File

/-!
# Settings in files

Settings are written in TOML. A file that is no TOML at all is reported as such, whatever else is
wrong with its contents.
-/

namespace Devirt

/-- Why settings could not be loaded. -/
inductive SettingsError where
  /-- The file at this path is missing, is a directory, or is no text. -/
  | unreadable (path : String)
  | notToml
  | decode (e : DecodeError)
deriving DecidableEq

namespace Settings

/-- The name of the file in which settings are looked up. -/
def fileName : String := "sable.toml"

def parse (source : String) : Except SettingsError Settings :=
  match Toml.parse source with
  | none => .error .notToml
  | some d =>
    match ofDocument .toml d with
    | .ok s => .ok s
    | .error e => .error (.decode e)

def load (dir : Directory) (path : String) : Except SettingsError Settings :=
  match dir.readText? path with
  | some source => parse source
  | none => .error (.unreadable path)

/-- Loads the settings of a directory, which are the defaults if there is no file for them. -/
def loadDefault (dir : Directory) : Except SettingsError Settings :=
  if dir.hasFile fileName then load dir fileName else .ok {}

end Settings

end Devirt
