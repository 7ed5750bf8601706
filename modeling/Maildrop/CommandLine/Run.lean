import Maildrop.CommandLine.Arguments
import Maildrop.CommandLine.Help
import Maildrop.CommandLine.Report
import Maildrop.Mailbox.Basic
import Maildrop.Settings.File
import Maildrop.Store.File
import Maildrop.Submission.Session

/-!
# Running a command

A command line is read, the settings are loaded, and the database that they name is
opened for the command and closed behind it, whether the command succeeds or not. What
a command prints is printed when it has succeeded; a failure is logged, and the exit
code tells whose fault it is.
-/

namespace Maildrop.CommandLine

open Store (Database)

/-- **The environment of a command line.** -/
structure Environment where
  /-- The user's directory for settings of all kinds. -/
  settingsRoot : String
  /-- The file with the settings. -/
  config : Option String := none
  overrides : Overrides := {}

/-- **What a command line leaves behind.** -/
structure Report where
  /-- The exit code. -/
  code : Nat
  output : Bytes := []
  /-- What the user is told about misuse. -/
  complaint : String := ""
  deriving DecidableEq, Repr

/-- **Why a command fails.** -/
inductive Error where
  | settings (error : Settings.Error)
  | store (failure : Store.Failure)
  | submission (error : Submission.Error)
  /-- A text is no message id. -/
  | malformedId (text : String)
  /-- No message has the id. -/
  | unknownMessage (id : String)
  /-- A file with a message cannot be opened. -/
  | unopenable (path : String) (reason : DiskError)
  deriving DecidableEq, Repr

namespace Error

/-- The wording of an error with what lies behind it. -/
def detail : Error → String
  | .settings e => e.detail
  | .store f => f.detail
  | .submission e => e.detail
  | .malformedId text => Text.quoted text ++ " is not a message id"
  | .unknownMessage id => "Message " ++ id ++ " not found"
  | .unopenable path reason => "Failed to open " ++ path ++ ": " ++ reason.message

/-- **The exit code for an error**: a submission tells faults apart. -/
def exitCode : Error → Nat
  | .submission e =>
    match e.fault with
    | .client => 2
    | .server => 1
    | .fatal => 3
  | _ => 1

end Error

/-- The octets of a string. -/
def octets (s : String) : Bytes := Utf8.encode s.toList

/-! ### Commands on a store -/

/-- A program that uses a store for a command. -/
abbrev StoreAction (α : Type) := Store.Action Error α

/-- Takes a failing look into a store for the failure of a command. -/
def lookup {α : Type} (a : Store.Action Store.Failure α) : StoreAction α := a.adapt .store

/-- A text that is the id of a message. -/
def messageId (text : String) : StoreAction String :=
  if MessageId.isValid text then pure text else throw (.malformedId text)

/-- What there is of a message. -/
def found {α : Type} (id : String) : Option α → StoreAction α
  | some a => pure a
  | none => throw (.unknownMessage id)

/-- Writes out what there is of a message. -/
def writeOut (text : String) (part : String → Store.Action Store.Failure (Option Bytes)) :
    StoreAction Bytes := do
  let id ← messageId text
  found id (← lookup (part id))

/-- Checks ids one after the other, up to the first that is none. -/
def messageIds : List String → StoreAction (List String)
  | [] => pure []
  | text :: texts => do
    let id ← messageId text
    let ids ← messageIds texts
    pure (id :: ids)

/-- Stores a delivery, and prints the id of the message. -/
def depositDelivery (sender : String) (d : Delivery) : StoreAction Bytes := do
  let id ← ExceptT.adapt .submission (ExceptT.mk (Submission.submit sender d))
  pure (octets (line id))

/-- What a command on a store prints. The delivery is what there is to ingest. -/
def Task.answer (style : TimeStyle) (d : Delivery) : Task → StoreAction Bytes
  | .ingest sender _ => depositDelivery sender d
  | .list json => do
    let ss ← lookup Mailbox.summaries
    pure (octets (if json then (Json.Value.array (ss.map (·.toJson style))).lines
      else Mailbox.listing style ss))
  | .inspect text json => do
    let id ← messageId text
    let detail ← found id (← lookup (Mailbox.detail id))
    pure (octets (if json then (detail.toJson style).lines else detail.text style))
  | .raw text => writeOut text Mailbox.content
  | .headers text => writeOut text Mailbox.headers
  | .body text => writeOut text Mailbox.body
  | .delete texts => do
    let ids ← messageIds texts
    lookup (Mailbox.remove ids)
    Store.Action.record (.info ("Deleted " ++ toString ids.length ++ " message(s)"))
    pure []
  | .count => do
    let n ← lookup (Store.Action.ask .count id)
    pure (octets (line (toString n)))

/-! ### Commands on a host -/

/-- A program that runs on a host for a command. -/
abbrev HostAction (α : Type) := Host.Action Error α

/-- The delivery that a file holds. A directory can be opened like a file, but not
read. -/
def deliveryOf (path : String) (receivedAt : Instant) :
    Except DiskError Bytes → Except Error Delivery
  | .ok octets => .ok { octets, receivedAt }
  | .error .isDirectory =>
    .ok { octets := [], failure := some DiskError.isDirectory.message, receivedAt }
  | .error reason => .error (.unopenable path reason)

/-- What there is to ingest: the content of a file, or the data that are fed to the
program. -/
def Task.delivery : Task → HostAction Delivery
  | .ingest _ (some path) => do
    let content ← Host.Action.ask (.read path)
    let now ← Host.Action.ask .now
    Host.Action.lift (deliveryOf path now content)
  | .ingest _ none => do
    let octets ← Host.Action.ask .input
    let receivedAt ← Host.Action.ask .now
    pure { octets, receivedAt }
  | _ => pure { octets := [] }

/-- Runs a command on an open database, and gives the database afterwards. -/
def Task.runOn (style : TimeStyle) (d : Database) (t : Task) :
    HostAction (Except Error Bytes × Database) := do
  match ← ExceptT.lift t.delivery.run with
  | .error e => pure (.error e, d)
  | .ok delivery => d.serve (t.answer style delivery).run

/-- **Runs a command on the database in a file.** A failure of the command counts before
one to close the database. -/
def Task.run (style : TimeStyle) (path : String) (t : Task) : HostAction Bytes := do
  let d ← (Database.openFile path).adapt .store
  let r ← t.runOn style d
  let closed ← ExceptT.lift ((Database.closeFile path r.2).adapt Error.store).run
  Host.Action.lift (r.1.bind fun output => closed.map fun _ => output)

/-- **The settings of an invocation**: those of the named file, or else the usual ones,
with the named database. -/
def Invocation.settings (environment : Environment) (i : Invocation) :
    Host.Action Settings.Error Settings := do
  let s ←
    match i.config with
    | some path => Settings.ofFile path
    | none => Settings.load environment.settingsRoot environment.overrides
  pure (match i.database with
    | some path => { s with databasePath := path }
    | none => s)

/-- Prints settings, and makes them the usual ones first if asked to. -/
def printSettings (environment : Environment) (write : Bool) (s : Settings) :
    Host.Action Settings.Error Bytes := do
  if write then
    let path ← Settings.save environment.settingsRoot s
    Host.Action.records [.info ("Wrote configuration to " ++ path)]
  pure (octets s.toJson.lines)

/-- **Runs an invocation.** -/
def Invocation.run (style : TimeStyle) (environment : Environment) (i : Invocation) :
    HostAction Bytes := do
  let s ← (i.settings environment).adapt .settings
  match i.command with
  | .settings write => (printSettings environment write s).adapt .settings
  | .onStore task => task.run style s.databasePath

/-! ### Command lines -/

/-- Reports how an invocation ended. -/
def conclude : Except Error Bytes → Host.Client Report
  | .ok output => pure { code := 0, output }
  | .error e => do
    Program.record (.error e.detail)
    pure { code := e.exitCode }

/-- What is reported where no command is run. -/
def Stop.report (environment : Environment) : Stop → Report
  | .help topic => { code := 0, output := octets (helpText environment.config topic) }
  | .version => { code := 0, output := octets versionText }
  | .misuse reason => { code := 2, complaint := reason.message }

/-- Makes the directory for settings; a failure is only logged. -/
def prepare (environment : Environment) : Host.Client Unit := do
  match ← (Settings.makeDirectory environment.settingsRoot).run with
  | .ok _ => pure ()
  | .error e => Program.record (.error ("Failed to initialize config directory: " ++ e.message))

/-- **Runs a command line.** -/
def run (style : TimeStyle) (environment : Environment) (arguments : List String) :
    Host.Client Report := do
  prepare environment
  match parse environment.config arguments with
  | .error stop => pure (stop.report environment)
  | .ok i => conclude (← (i.run style environment).run)

end Maildrop.CommandLine
