/-!
# Log records

What the library reports while it works. A record is a level and a text; where records
go is decided outside.
-/

namespace Maildrop

/-- **How much a record matters.** -/
inductive LogLevel where
  | debug
  | info
  | warn
  | error
  deriving DecidableEq, Repr

/-- The name of a level. -/
def LogLevel.name : LogLevel → String
  | .debug => "DEBUG"
  | .info => "INFO"
  | .warn => "WARN"
  | .error => "ERROR"

/-- **A log record.** -/
structure LogRecord where
  level : LogLevel
  text : String
  deriving DecidableEq, Repr

namespace LogRecord

/-- A record of detail. -/
def debug (text : String) : LogRecord := ⟨.debug, text⟩

/-- A record of an ordinary event. -/
def info (text : String) : LogRecord := ⟨.info, text⟩

/-- A record of something unexpected. -/
def warn (text : String) : LogRecord := ⟨.warn, text⟩

/-- A record of a failure. -/
def error (text : String) : LogRecord := ⟨.error, text⟩

/-- The level and the text on one line. -/
def line (r : LogRecord) : String := r.level.name ++ " " ++ r.text

end LogRecord

end Maildrop
