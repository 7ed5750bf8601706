import Maildrop.CommandLine.Verb

/-!
# Help

What the command line prints about itself: one text on all verbs, and one on each.
Entries stand in a column that is as wide as the widest of them.
-/

namespace Maildrop.CommandLine

/-- The name under which the program is called. -/
def programName : String := "mailsink"

/-- **The version of the program.** -/
def versionText : String := programName ++ " 0.1.0\n"

/-- What a verb does. -/
def Verb.summary : Verb → String
  | .ingest => "Store one message read from FILE or stdin"
  | .list => "List stored messages"
  | .inspect => "Show one message"
  | .raw => "Write the raw message to stdout"
  | .headers => "Write the header block to stdout"
  | .body => "Write the body to stdout"
  | .delete => "Delete messages"
  | .count => "Print the number of stored messages"
  | .settings => "Print the effective configuration"

/-- The operands of a verb, if it has any. -/
def Verb.operandText? : Verb → Option String
  | .ingest => some "[FILE]"
  | .inspect | .raw | .headers | .body => some "<ID>"
  | .delete => some "<IDS>..."
  | .list | .count | .settings => none

/-- How an option is written. -/
def Flag.text (f : Flag) : String :=
  "--" ++ f.name ++
    match f with
    | .config | .database => " <FILE>"
    | .sender => " <SENDER>"
    | .json | .write => ""

/-- What an option is for. What the environment gives is shown. -/
def Flag.summary (environment : Option String) : Flag → String
  | .config =>
    "Config file (defaults to ~/.config/mailsink/mailsink.json) [env: MAILSINK_CONFIG=" ++
      environment.getD "" ++ "]"
  | .database => "Database file, overriding the configuration"
  | .sender => "Sender, e.g. \"Jane Doe\" <jane@example.com>"
  | .json => ""
  | .write => "Save it as the default config file"

/-- The options of a verb, in the order in which they are explained. -/
def Verb.flags (v : Verb) : List Flag :=
  .config :: [Flag.sender, .json, .write].filter v.accepts ++ [.database]

/-- A column of entries with what there is to say of each. -/
def column (entries : List (String × String)) : String :=
  let width := (entries.map fun e => e.1.length).foldl max 0
  String.join (entries.map fun e =>
    "  " ++ e.1 ++ String.ofList (List.replicate (width - e.1.length) ' ') ++ "  " ++ e.2 ++ "\n")

/-- The entries of options. Those with one letter stand further to the left. -/
def optionEntries (environment : Option String) (flags : List Flag) : List (String × String) :=
  flags.map fun f => ("    " ++ f.text, f.summary environment)

/-- The entry of the option that asks for help. -/
def helpEntry : String × String := ("-h, --help", "Print help")

/-- The help on a verb. -/
def Verb.help (environment : Option String) (v : Verb) : String :=
  let operands := v.operandText?.toList
  let required := if v = .ingest then ["--from <SENDER>"] else []
  v.summary ++ "\n\nUsage: " ++
    " ".intercalate ([programName, v.name, "[OPTIONS]"] ++ required ++ operands) ++ "\n" ++
    String.join (operands.map fun o => "\nArguments:\n" ++ column [(o, "")]) ++
    "\nOptions:\n" ++ column (optionEntries environment v.flags ++ [helpEntry])

/-- The help on all verbs. -/
def overview (environment : Option String) : String :=
  "Store every submitted message for later retrieval\n\nUsage: " ++ programName ++
    " [OPTIONS] <COMMAND>\n\nCommands:\n" ++
    column (Verb.all.map (fun v => (v.name, v.summary)) ++
      [("help", "Print this message or the help of the given subcommand(s)")]) ++
    "\nOptions:\n" ++
    column (optionEntries environment [.config, .database] ++
      [helpEntry, ("-V, --version", "Print version")])

/-- **The help** on a verb or on all of them. -/
def helpText (environment : Option String) (topic : Option Verb) : String :=
  match topic with
  | some v => v.help environment
  | none => overview environment

end Maildrop.CommandLine
