import Maildrop.Text.Utf8

/-!
# Where reading JSON stops

A reader goes through a text from left to right and stops at the first fault. What is
left of the text then says where that is.

The wording of a fault goes into a log record. Of a value of the wrong type it does not say which
type that is, and a comma too many is called so in a value that is passed over as well. The kind of
a fault (`Maildrop.Json.Fault.category`) is for callers who want to tell faults apart; no command
does, and no result is about it.
-/

namespace Maildrop.Json

/-- **What is wrong with a text.** -/
inductive Fault where
  /-- The text ends before a value. -/
  | endBeforeValue
  /-- The text ends inside a string. -/
  | endInString
  /-- The text ends inside an array. -/
  | endInArray
  /-- The text ends inside an object. -/
  | endInObject
  | expectedValue
  | expectedWord
  | expectedColon
  | expectedArrayEnd
  | expectedObjectEnd
  | keyNotString
  | trailingComma
  | trailingText
  | badEscape
  | badNumber
  /-- A number is too large for a float. -/
  | numberRange
  | controlCharacter
  /-- Half of a surrogate pair. -/
  | loneSurrogate
  /-- The second half of a surrogate pair is missing. -/
  | unpairedEscape
  /-- Containers are nested too deeply. -/
  | tooDeep
  /-- A value of another type is expected. -/
  | wrongType
  /-- An integer is out of range. -/
  | outOfRange
  /-- A field is given twice. -/
  | duplicateField (name : String)
  deriving DecidableEq, Repr

/-- **The kinds of faults.** -/
inductive Category where
  /-- The text ends too early. -/
  | unfinished
  /-- The text is well formed so far, but its value does not fit. -/
  | unfitting
  /-- The text is malformed. -/
  | malformed
  deriving DecidableEq, Repr

/-- The kind of a fault. -/
def Fault.category : Fault → Category
  | .endBeforeValue | .endInString | .endInArray | .endInObject => .unfinished
  | .wrongType | .outOfRange | .duplicateField _ => .unfitting
  | _ => .malformed

/-- The wording of a fault. -/
def Fault.message : Fault → String
  | .endBeforeValue => "EOF while parsing a value"
  | .endInString => "EOF while parsing a string"
  | .endInArray => "EOF while parsing a list"
  | .endInObject => "EOF while parsing an object"
  | .expectedValue => "expected value"
  | .expectedWord => "expected ident"
  | .expectedColon => "expected \x60:\x60"
  | .expectedArrayEnd => "expected \x60,\x60 or \x60]\x60"
  | .expectedObjectEnd => "expected \x60,\x60 or \x60\x7d\x60"
  | .keyNotString => "key must be a string"
  | .trailingComma => "trailing comma"
  | .trailingText => "trailing characters"
  | .badEscape => "invalid escape"
  | .badNumber => "invalid number"
  | .numberRange => "number out of range"
  | .controlCharacter =>
    "control character (\\u0000-\\u001F) found while parsing a string"
  | .loneSurrogate => "lone leading surrogate in hex escape"
  | .unpairedEscape => "unexpected end of hex escape"
  | .tooDeep => "recursion limit exceeded"
  | .wrongType => "invalid type"
  | .outOfRange => "invalid value"
  | .duplicateField name => "duplicate field \x60" ++ name ++ "\x60"

/-- **A reader's stop**: the fault, and what is left of the text. -/
structure Stop where
  fault : Fault
  rest : Text
  /-- The fault lies in the first character that is left, and not before it. -/
  ahead : Bool := false
  deriving DecidableEq, Repr

/-- **A fault with its place** in a text, as a line and a column in octets. -/
structure Error where
  fault : Fault
  line : Nat
  column : Nat
  deriving DecidableEq, Repr

/-- The fault of a stop with its place in the whole text. -/
def Stop.locate (whole : Text) (e : Stop) : Error :=
  let before := whole.take (whole.length - e.rest.length)
  let lines := before.count '\n'
  let last := (before.reverse.takeWhile (· ≠ '\n')).reverse
  match if e.ahead then e.rest.head? else none with
  | some '\n' => ⟨e.fault, lines + 2, 0⟩
  | some _ => ⟨e.fault, lines + 1, Utf8.size last + 1⟩
  | none => ⟨e.fault, lines + 1, Utf8.size last⟩

/-- The wording of a fault with its place. -/
def Error.message (e : Error) : String :=
  e.fault.message ++ " at line " ++ toString e.line ++ " column " ++ toString e.column

end Maildrop.Json
