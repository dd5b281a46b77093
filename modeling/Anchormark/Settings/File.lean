import Anchormark.Host.Basic
import Anchormark.Settings.Document
import Anchormark.Settings.Location

/-!
# Settings in Files

No file means no settings, which is not an error. A file that is there has to be readable, to be
encoded in UTF-8, and to hold settings.

## Main definitions

* `SettingsError`: why a file gave no settings.
* `Settings.load`, `Settings.loadDefault`: the settings in a file and in the usual one.
* `Settings.save`, `Settings.saveDefault`: the same the other way round.
-/

namespace Anchormark

/-- Why a file gave no settings. -/
inductive SettingsError
  | unreadable (path : String)
  | malformed (path : String)
  deriving DecidableEq, Repr

/-- The wording of an error. -/
def SettingsError.message : SettingsError → String
  | unreadable path => "Failed to read config file at " ++ path
  | malformed path => "Failed to parse config file at " ++ path

namespace Settings

/-- The settings in what was found at a path. -/
def ofContent (path : String) :
    Except ReadFailure ByteArray → Except SettingsError (Option Settings)
  | .error .missing => .ok none
  | .error .unreadable => .error (.unreadable path)
  | .ok bytes =>
    match String.fromUTF8? bytes with
    | none => .error (.unreadable path)
    | some text =>
      match read? text with
      | none => .error (.malformed path)
      | some s => .ok (some s)

variable {m : Type → Type} [Monad m]

/-- The settings in a file, or none if there is no such file. -/
def load (host : Host m) (path : String) : m (Except SettingsError (Option Settings)) :=
  return ofContent path (← host.readFile path)

/-- The settings in the usual file, or none if there is no such file. -/
def loadDefault (host : Host m) : m (Except SettingsError (Option Settings)) := do
  load host (defaultPath (← host.environment [homeVariable]))

/-- Writes the settings to a file, and makes the folders on the way to it. -/
def save (host : Host m) (s : Settings) (path : String) : m Bool :=
  host.writeFile true path s.write

/-- Writes the settings to the usual file. -/
def saveDefault (host : Host m) (s : Settings) : m Bool := do
  s.save host (defaultPath (← host.environment [homeVariable]))

end Settings

end Anchormark
