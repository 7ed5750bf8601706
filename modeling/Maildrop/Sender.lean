import Maildrop.Text.Lowercase

/-!
# Senders and addresses

A submission comes with a *sender*: a text in which a stranger claims an email address
and perhaps a display name. Reading it (`Maildrop.Sender.parse?`) decides nothing but
its form. An *address* is a sender that the store knows, under a number of its own; its
email is normalized, so that one mailbox has one address however it is spelt.

A sender has one of four forms, which exclude each other: a quoted name before an email
in angle brackets, such an email alone, an unquoted name before it, and a bare email.
-/

namespace Maildrop

/-- **What a sender text claims.** -/
structure Sender where
  /-- The display name. -/
  name : Option String
  /-- The email address as it is written. -/
  email : String
  deriving DecidableEq, Repr

/-- **A sender that the store knows.** -/
structure Address where
  /-- The number of the address; numbers count from 1. -/
  id : Int
  /-- The normalized email address. -/
  email : String
  /-- The display name claimed when the address was first seen. -/
  name : Option String
  deriving DecidableEq, Repr

/-- **An email in its normal form**: without blanks at its ends, in small letters. -/
def normalizeEmail (email : String) : String :=
  String.ofList (Text.lowercase (Text.trim email.toList))

/-- The address the way a mail header shows it. -/
def Address.display (a : Address) : String :=
  match a.name with
  | some name => "\"" ++ name ++ "\" <" ++ a.email ++ ">"
  | none => "<" ++ a.email ++ ">"

namespace Sender

/-! ### The form of an email -/

/-- A character that may stand on either side of the at sign. -/
def isEmailChar (c : Char) : Bool :=
  !Text.isBlank c && c != '<' && c != '>' && c != '\"' && c != '@'

/-- **An email address**: something on either side of an at sign. -/
def isEmail (t : Text) : Bool :=
  let before := t.takeWhile (· != '@')
  let after := (t.dropWhile (· != '@')).drop 1
  !before.isEmpty && !after.isEmpty && before.all isEmailChar && after.all isEmailChar

/-- The email of a text that is one in angle brackets. -/
def angled? : Text → Option Text
  | '<' :: s =>
    if s.getLast? = some '>' ∧ isEmail s.dropLast then some s.dropLast else none
  | _ => none

/-! ### The four forms -/

/-- A claim with a name that may turn out to be empty. -/
def named (name email : Text) : Sender where
  name := if name.isEmpty then none else some (String.ofList name)
  email := String.ofList email

/-- A quoted name before an email in angle brackets. -/
def quoted? : Text → Option Sender
  | '\"' :: s =>
    let name := s.takeWhile (· != '\"')
    match s.dropWhile (· != '\"') with
    | _ :: rest => (angled? (Text.trimStart rest)).map (named (Text.trim name))
    | [] => none
  | _ => none

/-- An email in angle brackets alone. -/
def bracketed? (t : Text) : Option Sender := (angled? t).map (named [])

/-- An unquoted name before an email in angle brackets. -/
def unquoted? (t : Text) : Option Sender :=
  let name := t.takeWhile (· != '<')
  if name.isEmpty || name.any fun c => c == '\"' || c == '>' then none
  else (angled? (t.dropWhile (· != '<'))).map (named (Text.trim name))

/-- An email alone. -/
def bare? (t : Text) : Option Sender := if isEmail t then some (named [] t) else none

/-- **Reads a sender**; blanks around it do not count. -/
def parse? (s : String) : Option Sender :=
  let t := Text.trim s.toList
  (quoted? t).or ((bracketed? t).or ((unquoted? t).or (bare? t)))

end Sender

end Maildrop
