import Maildrop.Json.Value
import Maildrop.Text.Ascii

/-!
# Printing JSON

The layout puts each item and each member on a line of its own, indented by two spaces
for each container around it; an empty container stays on its line.
-/

namespace Maildrop.Json

/-- A hexadecimal digit. -/
def hexDigit (n : Nat) : Char := Char.ofNat (if n < 10 then 48 + n else 87 + n)

/-- The written form of a character in a string. -/
def escapeChar (c : Char) : Text :=
  if c = '\"' then ['\\', '\"']
  else if c = '\\' then ['\\', '\\']
  else if c = '\x08' then ['\\', 'b']
  else if c = '\x0c' then ['\\', 'f']
  else if c = '\n' then ['\\', 'n']
  else if c = '\r' then ['\\', 'r']
  else if c = '\t' then ['\\', 't']
  else if c.toNat < 0x20 then
    ['\\', 'u', '0', '0', hexDigit (c.toNat / 16), hexDigit (c.toNat % 16)]
  else [c]

/-- The written form of a string. -/
def printString (s : String) : Text := '\"' :: (s.toList.flatMap escapeChar ++ ['\"'])

/-- The written form of a number. -/
def Number.print : Number → Text
  | .integer n => (toString n).toList
  | .real literal => literal.toList

/-- A new line, indented for the given number of containers. -/
def newline (depth : Nat) : Text := '\n' :: List.replicate (2 * depth) ' '

mutual

/-- The written form of a value inside the given number of containers. -/
def Value.printAt (depth : Nat) : Value → Text
  | .null => ['n', 'u', 'l', 'l']
  | .bool true => ['t', 'r', 'u', 'e']
  | .bool false => ['f', 'a', 'l', 's', 'e']
  | .number n => n.print
  | .string s => printString s
  | .array [] => ['[', ']']
  | .array (v :: vs) =>
    '[' :: (newline (depth + 1) ++ v.printAt (depth + 1) ++ printItems depth vs)
  | .object [] => ['\x7b', '\x7d']
  | .object ((n, v) :: ms) =>
    '\x7b' :: (newline (depth + 1) ++ printString n ++ ':' :: ' ' :: v.printAt (depth + 1) ++
      printMembers depth ms)

/-- The items behind the first one, and the end of the array. -/
def printItems (depth : Nat) : List Value → Text
  | [] => newline depth ++ [']']
  | v :: vs => ',' :: (newline (depth + 1) ++ v.printAt (depth + 1) ++ printItems depth vs)

/-- The members behind the first one, and the end of the object. -/
def printMembers (depth : Nat) : List (String × Value) → Text
  | [] => newline depth ++ ['\x7d']
  | (n, v) :: ms =>
    ',' :: (newline (depth + 1) ++ printString n ++ ':' :: ' ' :: v.printAt (depth + 1) ++
      printMembers depth ms)

end

/-- The written form of a value. -/
def Value.print (v : Value) : Text := v.printAt 0

end Maildrop.Json
