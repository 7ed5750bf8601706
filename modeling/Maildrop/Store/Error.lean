import Maildrop.DiskError
import Maildrop.Text.Quoted

/-!
# Failures of a store

A call of a store fails for a cause, and the failure gathers on its way out what was
being done when it happened, outermost last. Its text is what stands outermost; its
detail is everything, from the outside in.
-/

namespace Maildrop.Store

/-- **What was being done** when a call failed. -/
inductive Activity where
  | retrieveSender (email : String)
  | retrieveSenderById (id : Int)
  | createAddress (email : String)
  | createMessage (id : String)
  | getMessage (id : String)
  | decodeMessage (id : String)
  | deleteMessage (id : String)
  | removeMessage (id : String)
  | compareDuplicate (id : String)
  | createDirectory (path : String)
  | openDatabase (path : String)
  | migrate
  deriving DecidableEq, Repr

/-- The wording of an activity. -/
def Activity.text : Activity → String
  | .retrieveSender email => "Failed to retrieve sender record for " ++ email
  | .retrieveSenderById id => "Failed to retrieve sender record for id " ++ toString id
  | .createAddress email => "Failed to create address record for " ++ email
  | .createMessage id => "Failed to create message " ++ id
  | .getMessage id => "Cannot get message_id=" ++ id
  | .decodeMessage id => "Failed to decompress raw message " ++ id
  | .deleteMessage id => "Failed to delete message_id=" ++ id
  | .removeMessage id => "Failed to remove message " ++ id
  | .compareDuplicate id => "Failed to compare duplicate message " ++ id
  | .createDirectory path => "Failed to create database directory " ++ path
  | .openDatabase path => "Failed to open database at " ++ Text.quoted path
  | .migrate => "Failed to run database migrations"

/-- **Why a call failed.** -/
inductive Cause where
  /-- A message names a sender that the store does not know. -/
  | unknownSender (id : String) (sender : Int)
  /-- The sender of a stored message is gone. -/
  | lostSender (id : String) (sender : Int)
  /-- A row refers to a row that does not exist. -/
  | brokenReference
  /-- A table is gone. -/
  | noTable (name : String)
  /-- The stored octets of a message cannot be decoded. -/
  | undecodable
  /-- A file holds something other than a database. -/
  | notDatabase
  /-- A file cannot be opened as a database. -/
  | unopenable (path : String)
  /-- A URI does not name a database. -/
  | badUri (reason : String)
  /-- There is a NUL in a path. -/
  | embeddedNul (position : Nat)
  /-- A database was written by a later version. -/
  | tooNew
  /-- The file system refused. -/
  | disk (error : DiskError)
  /-- Anything else, in its own words. -/
  | other (text : String)
  deriving DecidableEq, Repr

/-- The wording of a cause, from the outside in. -/
def Cause.texts : Cause → List String
  | .unknownSender id sender =>
    ["Failed to create message " ++ id ++ ": unknown sender " ++ toString sender]
  | .lostSender id sender => ["Sender " ++ toString sender ++ " of message " ++ id ++ " not found"]
  | .brokenReference =>
    ["FOREIGN KEY constraint failed", "Error code 787: Foreign key constraint failed"]
  | .noTable name => ["no such table: " ++ name, "Error code 1: SQL error or missing database"]
  | .undecodable => ["Unknown frame descriptor"]
  | .notDatabase =>
    ["file is not a database", "Error code 26: File opened that is not a database file"]
  | .unopenable path =>
    ["unable to open database file: " ++ path, "Error code 14: Unable to open the database file"]
  | .badUri reason => [reason, "Error code 1: SQL error or missing database"]
  | .embeddedNul position =>
    let text := "nul byte found in provided data at position: " ++ toString position
    [text, text]
  | .tooNew =>
    ["rusqlite_migrate error: MigrationDefinition(DatabaseTooFarAhead)",
      "Attempt to migrate a database with a migration number that is too high"]
  | .disk error => [error.message]
  | .other text => [text]

/-- **A failed call.** -/
structure Failure where
  cause : Cause
  /-- What was being done, outermost last. -/
  during : List Activity := []
  deriving DecidableEq, Repr

namespace Failure

/-- The failure seen from a wider activity. -/
def within (f : Failure) (a : Activity) : Failure := { f with during := f.during ++ [a] }

/-- Everything that there is to say, from the outside in. -/
def texts (f : Failure) : List String := f.during.reverse.map Activity.text ++ f.cause.texts

/-- The outermost text. -/
def message (f : Failure) : String := f.texts.headD ""

/-- All texts, from the outside in. -/
def detail (f : Failure) : String := ": ".intercalate f.texts

end Failure

end Maildrop.Store
