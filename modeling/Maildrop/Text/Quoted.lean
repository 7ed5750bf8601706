import Maildrop.Text.CaseTable
import Maildrop.Text.Blank
import Maildrop.Text.EscapeTable

/-!
# Quoted texts

A text that a stranger chose is shown in log records and errors between double quotes,
with every character that would not show as itself written as an escape.
-/

namespace Maildrop.Text

/-- The hexadecimal digits of a number, in small letters and without leading zeros. -/
def hexDigits (n : Nat) : Text := Nat.toDigits 16 n

/-- How a character is written inside quotes. -/
def quoteChar (c : Char) : Text :=
  match c with
  | '\x00' => ['\\', '0']
  | '\t' => ['\\', 't']
  | '\n' => ['\\', 'n']
  | '\r' => ['\\', 'r']
  | '\"' => ['\\', '\"']
  | '\\' => ['\\', '\\']
  | c =>
    if inRanges escapedRanges c.toNat then ['\\', 'u', '\x7b'] ++ hexDigits c.toNat ++ ['\x7d']
    else [c]

/-- **The text in quotes.** -/
def quote (t : Text) : Text := '\"' :: t.flatMap quoteChar ++ ['\"']

/-- The string in quotes. -/
def quoted (s : String) : String := String.ofList (quote s.toList)

end Maildrop.Text
