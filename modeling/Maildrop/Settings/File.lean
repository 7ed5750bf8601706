import Maildrop.Host.Call
import Maildrop.Host.Path
import Maildrop.Settings.Reader

/-!
# Settings in files

Every user has a directory for settings, and in it a file with the usual ones. Another
file can be named instead. The usual file is read as it is and checked once the
environment has had its say; a named one is checked at once and not overridden.

A file with some other JSON value can be read as well (`Maildrop.Settings.readJson`). That is for
callers of this library; no command does it, and no result is about it.
-/

namespace Maildrop.Settings

open Host (Action)

/-- The directory for settings, below the user's directory for settings of all kinds. -/
def directory (root : String) : String := Path.join root "mailsink"

/-- The path of a file in the directory for settings. -/
def pathOf (root name : String) : String := Path.join (directory root) name

/-- The name of the file with the usual settings. -/
def usualName : String := "mailsink.json"

/-- The path of the file with the usual settings. -/
def usualPath (root : String) : String := pathOf root usualName

/-! ### Files of any content -/

/-- Makes the directory for settings, and gives its path. -/
def makeDirectory (root : String) : Action Error String := do
  Action.makeDirectories (directory root) (.noDirectory (directory root))
  pure (directory root)

/-- Whether there is something of a name in the directory for settings. -/
def isPresent (root name : String) : Action Error Bool := Action.ask (.present (pathOf root name))

/-- The JSON value in a file. -/
def readJson (path : String) : Action Error Json.Value := do
  let text ← Action.readText path (.unreadable path)
  Action.lift ((Json.parse text).mapError (.malformedFile path))

/-- Writes a text into a file in the directory for settings, and gives the path. -/
def writeText (root name : String) (text : Text) : Action Error String := do
  let _ ← makeDirectory root
  Action.write (pathOf root name) (Utf8.encode text) (.unwritable (pathOf root name))
  pure (pathOf root name)

/-! ### Files of settings -/

/-- The settings in a file, unchecked. -/
def read (path : String) : Action Error Settings := do
  let text ← Action.readText path (.unreadable path)
  Action.lift ((parse text).mapError (.malformedFile path))

/-- **The settings in a named file.** -/
def ofFile (path : String) : Action Error Settings := do
  let s ← read path
  Action.lift s.validate

/-- **The usual settings**: those of the usual file if it is there, as the environment
overrides them. -/
def load (root : String) (overrides : Overrides) : Action Error Settings := do
  let base ← if ← isPresent root usualName then read (usualPath root) else pure {}
  Action.lift (base.override overrides)

/-- **Makes settings the usual ones**, and gives the path of their file. -/
def save (root : String) (s : Settings) : Action Error String := writeText root usualName s.print

end Maildrop.Settings
