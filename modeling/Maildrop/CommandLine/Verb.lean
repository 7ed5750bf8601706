/-!
# The vocabulary of the command line

A command line names a *verb*, options of the verb, and what the verb is applied to. Two
options go with every verb, and may also stand in front of it.
-/

namespace Maildrop.CommandLine

/-- **What is to be done.** -/
inductive Verb where
  /-- Store a message. -/
  | ingest
  /-- List the messages. -/
  | list
  /-- Show a message. -/
  | inspect
  /-- Write out the octets of a message. -/
  | raw
  /-- Write out the header block of a message. -/
  | headers
  /-- Write out the body of a message. -/
  | body
  /-- Delete messages. -/
  | delete
  /-- Count the messages. -/
  | count
  /-- Print the settings. -/
  | settings
  deriving DecidableEq, Repr

/-- **An option.** -/
inductive Flag where
  /-- The file with the settings. -/
  | config
  /-- The database. -/
  | database
  /-- The sender of a message. -/
  | sender
  /-- Print JSON. -/
  | json
  /-- Save the settings. -/
  | write
  deriving DecidableEq, Repr

namespace Verb

/-- All verbs, in the order in which they are explained. -/
def all : List Verb :=
  [.ingest, .list, .inspect, .raw, .headers, .body, .delete, .count, .settings]

/-- The name of a verb. -/
def name : Verb → String
  | .ingest => "ingest"
  | .list => "list"
  | .inspect => "show"
  | .raw => "raw"
  | .headers => "headers"
  | .body => "body"
  | .delete => "delete"
  | .count => "count"
  | .settings => "config"

/-- The verb of a name. -/
def ofName? (name : String) : Option Verb := all.find? fun v => v.name = name

/-- The options of a verb. -/
def accepts (v : Verb) : Flag → Bool
  | .config | .database => true
  | .sender => v = .ingest
  | .json => v = .list || v = .inspect
  | .write => v = .settings

/-- How many operands a verb may have at most, if there is a limit. -/
def mostOperands? : Verb → Option Nat
  | .ingest | .inspect | .raw | .headers | .body => some 1
  | .delete => none
  | .list | .count | .settings => some 0

end Verb

namespace Flag

/-- All options. -/
def all : List Flag := [.config, .database, .sender, .json, .write]

/-- The name of an option. -/
def name : Flag → String
  | .config => "config"
  | .database => "database"
  | .sender => "from"
  | .json => "json"
  | .write => "write"

/-- The option of a name. -/
def ofName? (name : String) : Option Flag := all.find? fun f => f.name = name

/-- Whether an option has a value. -/
def takesValue : Flag → Bool
  | .config | .database | .sender => true
  | .json | .write => false

/-- Whether an option goes with every verb. -/
def isCommon (f : Flag) : Bool := f = .config || f = .database

end Flag

end Maildrop.CommandLine
