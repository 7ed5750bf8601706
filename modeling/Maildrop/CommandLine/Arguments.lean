import Maildrop.CommandLine.Verb

/-!
# Reading the command line

Arguments are read from left to right. One that starts with a hyphen is an option,
unless it is a hyphen alone or stands behind two hyphens; the value of an option stands
behind an equals sign or in the next argument, which then must not be an option itself.
The first argument that belongs to no option is the verb, and the others are its
operands. An option may be given once in front of the verb and once behind it, and the
latter counts.

Asking for help or for the version ends the reading at once, as does misuse.
-/

namespace Maildrop.CommandLine

/-! ### What a command line asks for -/

/-- **A command that works on a store.** -/
inductive Task where
  | ingest (sender : String) (file : Option String)
  | list (json : Bool)
  | inspect (id : String) (json : Bool)
  | raw (id : String)
  | headers (id : String)
  | body (id : String)
  | delete (ids : List String)
  | count
  deriving DecidableEq, Repr

/-- **A command.** -/
inductive Command where
  | onStore (task : Task)
  /-- Print the settings, and save them if asked to. -/
  | settings (write : Bool)
  deriving DecidableEq, Repr

/-- **A command line that has been understood.** -/
structure Invocation where
  /-- The file with the settings, if one is named. -/
  config : Option String
  /-- The database, if one is named. -/
  database : Option String
  command : Command
  deriving DecidableEq, Repr

/-- **Misuse of the command line.** -/
inductive Misuse where
  | unknownOption (text : String)
  | unknownVerb (text : String)
  | noVerb
  | missingValue (flag : Flag)
  | emptyValue (flag : Flag)
  | unwantedValue (flag : Flag)
  | repeated (flag : Flag)
  | missingFlag (flag : Flag)
  | missingOperand
  | emptyOperand
  | extraOperand (text : String)
  deriving DecidableEq, Repr

/-- The wording of misuse. -/
def Misuse.message : Misuse → String
  | .unknownOption text => "error: unexpected argument '" ++ text ++ "' found"
  | .unknownVerb text => "error: unrecognized subcommand '" ++ text ++ "'"
  | .noVerb => "error: a subcommand is required"
  | .missingValue flag => "error: a value is required for '--" ++ flag.name ++ "'"
  | .emptyValue flag => "error: the value of '--" ++ flag.name ++ "' is empty"
  | .unwantedValue flag => "error: '--" ++ flag.name ++ "' takes no value"
  | .repeated flag => "error: '--" ++ flag.name ++ "' cannot be used multiple times"
  | .missingFlag flag => "error: '--" ++ flag.name ++ "' is required"
  | .missingOperand => "error: an argument is missing"
  | .emptyOperand => "error: an argument is empty"
  | .extraOperand text => "error: unexpected argument '" ++ text ++ "' found"

/-- **Why no command is run.** -/
inductive Stop where
  /-- Help is asked for, with one verb or with all of it. -/
  | help (verb : Option Verb)
  | version
  | misuse (reason : Misuse)
  deriving DecidableEq, Repr

/-! ### Single arguments -/

/-- **What an argument looks like.** -/
inductive Shape where
  /-- Two hyphens: all that follows are operands. -/
  | separator
  /-- Two hyphens and a name, perhaps with a value. -/
  | long (name : String) (value : Option String)
  /-- A hyphen and a letter, perhaps with more behind it. -/
  | short (letter : Char)
  | plain
  deriving DecidableEq, Repr

/-- What an argument looks like. -/
def Shape.of (argument : String) : Shape :=
  match argument.toList with
  | ['-', '-'] => .separator
  | '-' :: '-' :: s =>
    match s.dropWhile (· ≠ '=') with
    | _ :: v => .long (String.ofList (s.takeWhile (· ≠ '='))) (some (String.ofList v))
    | [] => .long (String.ofList s) none
  | '-' :: c :: _ => .short c
  | _ => .plain

/-- **The options and operands** in front of a verb or behind it. -/
structure Level where
  config : Option String := none
  database : Option String := none
  sender : Option String := none
  json : Bool := false
  write : Bool := false
  operands : List String := []
  deriving DecidableEq, Repr

namespace Level

/-- A value that is not given yet. A path must not be empty. -/
def firstValue (flag : Flag) (old : Option String) (v : String) : Except Misuse (Option String) :=
  if old.isSome then .error (.repeated flag)
  else if v.isEmpty && flag.isCommon then .error (.emptyValue flag)
  else .ok (some v)

/-- Gives an option a value. -/
def set (l : Level) (flag : Flag) (v : String) : Except Misuse Level :=
  match flag with
  | .config => (firstValue .config l.config v).map fun x => { l with config := x }
  | .database => (firstValue .database l.database v).map fun x => { l with database := x }
  | .sender => (firstValue .sender l.sender v).map fun x => { l with sender := x }
  | .json | .write => .error (.unwantedValue flag)

/-- Gives an option without a value. -/
def mark (l : Level) (flag : Flag) : Except Misuse Level :=
  match flag with
  | .json => if l.json then .error (.repeated flag) else .ok { l with json := true }
  | .write => if l.write then .error (.repeated flag) else .ok { l with write := true }
  | .config | .database | .sender => .error (.missingValue flag)

/-- Adds an operand. The file of a message must have a name. -/
def addOperand (l : Level) (v : Verb) (operand : String) : Except Misuse Level :=
  if v.mostOperands?.any fun n => n ≤ l.operands.length then .error (.extraOperand operand)
  else if v = .ingest && operand.isEmpty then .error .emptyOperand
  else .ok { l with operands := l.operands ++ [operand] }

/-- Adds operands. -/
def addOperands (l : Level) (v : Verb) : List String → Except Misuse Level
  | [] => .ok l
  | a :: rest =>
    match l.addOperand v a with
    | .error e => .error e
    | .ok l => l.addOperands v rest

/-- Takes an option, and its value from the arguments behind it if it stands there. -/
def takeOption (l : Level) (accepts : Flag → Bool) (name : String) (value : Option String)
    (rest : List String) : Except Misuse (Level × List String) :=
  match (Flag.ofName? name).filter accepts with
  | none => .error (.unknownOption ("--" ++ name))
  | some flag =>
    if flag.takesValue then
      match value, rest with
      | some v, rest => (l.set flag v).map fun l => (l, rest)
      | none, v :: rest =>
        if Shape.of v = .plain then (l.set flag v).map fun l => (l, rest)
        else .error (.missingValue flag)
      | none, [] => .error (.missingValue flag)
    else
      match value with
      | some _ => .error (.unwantedValue flag)
      | none => (l.mark flag).map fun l => (l, rest)

theorem length_le_of_takeOption {l l' : Level} {accepts : Flag → Bool} {name : String}
    {value : Option String} {rest rest' : List String}
    (h : l.takeOption accepts name value rest = .ok (l', rest')) : rest'.length ≤ rest.length := by
  have tail : ∀ {x : Except Misuse Level} {r : List String},
      x.map (fun l => (l, r)) = .ok (l', rest') → rest' = r := by
    intro x r h
    cases x <;> simp_all [Except.map]
  unfold takeOption at h
  repeat' split at h
  all_goals first
    | simp at h
    | have hr := tail h
      subst hr
      simp

end Level

/-! ### The arguments behind a verb -/

/-- Reads the arguments behind a verb. -/
def readBehind (v : Verb) (l : Level) (arguments : List String) : Except Stop Level :=
  match arguments with
  | [] => .ok l
  | a :: rest =>
    match Shape.of a with
    | .separator => (l.addOperands v rest).mapError .misuse
    | .long "help" none | .short 'h' => .error (.help (some v))
    | .long name value =>
      match h : l.takeOption v.accepts name value rest with
      | .error e => .error (.misuse e)
      | .ok (l, rest') =>
        have : rest'.length ≤ rest.length := Level.length_le_of_takeOption h
        readBehind v l rest'
    | .short _ => .error (.misuse (.unknownOption a))
    | .plain =>
      match l.addOperand v a with
      | .error e => .error (.misuse e)
      | .ok l => readBehind v l rest
termination_by arguments.length

/-- A command that is applied to one operand. -/
def oneOperand (l : Level) (f : String → Task) : Except Misuse Command :=
  match l.operands with
  | a :: _ => .ok (.onStore (f a))
  | [] => .error .missingOperand

/-- The command of a verb with its options and operands. -/
def commandOf (v : Verb) (l : Level) : Except Misuse Command :=
  match v with
  | .ingest =>
    match l.sender with
    | some sender => .ok (.onStore (.ingest sender l.operands.head?))
    | none => .error (.missingFlag .sender)
  | .list => .ok (.onStore (.list l.json))
  | .inspect => oneOperand l fun id => .inspect id l.json
  | .raw => oneOperand l .raw
  | .headers => oneOperand l .headers
  | .body => oneOperand l .body
  | .delete =>
    if l.operands.isEmpty then .error .missingOperand else .ok (.onStore (.delete l.operands))
  | .count => .ok (.onStore .count)
  | .settings => .ok (.settings l.write)

/-- The invocation of a verb, with the options in front of it. The environment names the
file with the settings where the command line does not; it must not name it by an empty
path, unless the command line names it both in front of the verb and behind it. -/
def invocation (environment : Option String) (above : Level) (v : Verb) (l : Level) :
    Except Misuse Invocation :=
  match commandOf v l with
  | .error e => .error e
  | .ok command =>
    if environment = some "" ∧ ¬(above.config.isSome ∧ l.config.isSome) then
      .error (.emptyValue .config)
    else
      .ok
        { config := l.config.or (above.config.or environment)
          database := l.database.or above.database
          command }

/-! ### The whole command line -/

/-- What the arguments behind the word `help` ask for. -/
def helpTopic : List String → Stop
  | [] => .help none
  | [a] =>
    match Verb.ofName? a with
    | some v => .help (some v)
    | none => .misuse (.unknownVerb a)
  | _ :: a :: _ => .misuse (.unknownVerb a)

/-- Reads the arguments from the first one on, with what has been read of the options in
front of the verb. -/
def readFrom (environment : Option String) (above : Level) (arguments : List String) :
    Except Stop Invocation :=
  match arguments with
  | [] => .error (.misuse .noVerb)
  | a :: rest =>
    match Shape.of a with
    | .separator => .error (.misuse .noVerb)
    | .long "help" none | .short 'h' => .error (.help none)
    | .long "version" none | .short 'V' => .error .version
    | .long name value =>
      match h : above.takeOption Flag.isCommon name value rest with
      | .error e => .error (.misuse e)
      | .ok (above, rest') =>
        have : rest'.length ≤ rest.length := Level.length_le_of_takeOption h
        readFrom environment above rest'
    | .short _ => .error (.misuse (.unknownOption a))
    | .plain =>
      if a = "help" then .error (helpTopic rest)
      else
        match Verb.ofName? a with
        | none => .error (.misuse (.unknownVerb a))
        | some v =>
          (readBehind v {} rest).bind fun l => (invocation environment above v l).mapError .misuse
termination_by arguments.length

/-- **What a command line asks for.** The environment may name the file with the
settings. -/
def parse (environment : Option String) (arguments : List String) : Except Stop Invocation :=
  readFrom environment {} arguments

end Maildrop.CommandLine
