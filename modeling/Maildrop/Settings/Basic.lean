import Maildrop.DiskError
import Maildrop.Json.Fault
import Maildrop.Json.Printer
import Maildrop.Text.Blank
import Maildrop.Text.Signed32

/-!
# Settings

Two settings: where the database is, and how hard raw messages are compressed. They come
from a file or are the defaults, and the environment may override either. Whatever they
come from, the level is checked before they are used.
-/

namespace Maildrop

/-- **The settings.** -/
structure Settings where
  /-- The path of the database. -/
  databasePath : String := "./mailsink/mailsink.sqlite"
  /-- How hard raw messages are compressed. -/
  compressionLevel : Int := 3
  deriving DecidableEq, Repr

/-- **The part of the environment that overrides settings.** -/
structure Overrides where
  /-- The path of the database. -/
  database : Option String := none
  /-- The compression level, in decimal. -/
  level : Option String := none

namespace Settings

/-- **Why settings cannot be had or kept.** -/
inductive Error where
  /-- A text holds no settings. -/
  | malformed (fault : Json.Error)
  /-- A file holds no settings. -/
  | malformedFile (path : String) (fault : Json.Error)
  | unreadable (path : String) (reason : DiskError)
  | unwritable (path : String) (reason : DiskError)
  /-- The directory for settings cannot be made. -/
  | noDirectory (path : String) (reason : DiskError)
  /-- The compression level is out of range. -/
  | levelRange (level : Int)
  /-- The environment gives a compression level that is no integer. -/
  | levelText (text : String) (reason : Text.IntegerError)
  deriving DecidableEq, Repr

/-- The least compression level. -/
def leastLevel : Int := -131072

/-- The greatest compression level. -/
def greatestLevel : Int := 22

namespace Error

/-- The wording of an error. -/
def message : Error → String
  | .malformed _ => "Failed to parse config JSON"
  | .malformedFile path _ => "Failed to parse config file: " ++ path
  | .unreadable path _ => "Failed to read config file: " ++ path
  | .unwritable path _ => "Failed to write config file: " ++ path
  | .noDirectory path _ => "Failed to create config directory: " ++ path
  | .levelRange level =>
    "compression level " ++ toString level ++ " outside supported range " ++
      toString leastLevel ++ "..=" ++ toString greatestLevel
  | .levelText text _ => "MAILSINK_COMPRESSION_LEVEL is not an integer: " ++ text

/-- The wording of what lies behind an error. -/
def reason? : Error → Option String
  | .malformed fault | .malformedFile _ fault => some fault.message
  | .unreadable _ reason | .unwritable _ reason | .noDirectory _ reason => some reason.message
  | .levelRange _ => none
  | .levelText _ reason => some reason.message

/-- The wording of an error with what lies behind it. -/
def detail (e : Error) : String :=
  match e.reason? with
  | some reason => e.message ++ ": " ++ reason
  | none => e.message

end Error

/-- The settings, if the compression level is in range. -/
def validate (s : Settings) : Except Error Settings :=
  if leastLevel ≤ s.compressionLevel ∧ s.compressionLevel ≤ greatestLevel then .ok s
  else .error (.levelRange s.compressionLevel)

/-- The settings with another database, unless its path is blank. -/
def withDatabase (s : Settings) (path : Option String) : Settings :=
  match path with
  | some path => if (Text.trim path.toList).isEmpty then s else { s with databasePath := path }
  | none => s

/-- The settings with another compression level; blanks around it do not count. -/
def withLevel (s : Settings) (level : Option String) : Except Error Settings :=
  match level with
  | some text =>
    match Text.readSigned32 (Text.trim text.toList) with
    | .ok level => .ok { s with compressionLevel := level }
    | .error e => .error (.levelText text e)
  | none => .ok s

/-- **The settings as the environment overrides them**, checked. -/
def override (s : Settings) (o : Overrides) : Except Error Settings :=
  ((s.withDatabase o.database).withLevel o.level).bind validate

/-- The settings as a JSON value. -/
def toJson (s : Settings) : Json.Value :=
  .object [("database_path", .string s.databasePath),
    ("compression_level", .integer s.compressionLevel)]

/-- **The written form of the settings.** -/
def print (s : Settings) : Text := s.toJson.print

end Settings

end Maildrop
