import Maildrop.Text.Ascii

/-!
# Integers of 32 bits, written in decimal

An integer is an optional sign and ASCII digits. It is read digit by digit, so of two
faults the one that comes first is reported.
-/

namespace Maildrop.Text

/-- **Why a text is no integer of 32 bits.** -/
inductive IntegerError where
  /-- Nothing is there. -/
  | empty
  /-- A character is no digit. -/
  | digit
  /-- The integer is too large. -/
  | large
  /-- The integer is too small. -/
  | small
  deriving DecidableEq, Repr

/-- The wording of an error. -/
def IntegerError.message : IntegerError → String
  | .empty => "cannot parse integer from empty string"
  | .digit => "invalid digit found in string"
  | .large => "number too large to fit in target type"
  | .small => "number too small to fit in target type"

/-- The number that digits write after the digits of `n`, as long as it does not pass
the limit. -/
def readDigits (limit : Nat) (above : IntegerError) (n : Nat) : Text → Except IntegerError Nat
  | [] => .ok n
  | c :: s =>
    if isDigitAscii c then
      let m := 10 * n + (c.toNat - 48)
      if limit < m then .error above else readDigits limit above m s
    else .error .digit

/-- **Reads an integer of 32 bits.** -/
def readSigned32 (t : Text) : Except IntegerError Int :=
  match t with
  | [] => .error .empty
  | ['+'] | ['-'] => .error .digit
  | '+' :: s => (readDigits 0x7FFFFFFF .large 0 s).map Int.ofNat
  | '-' :: s => (readDigits 0x80000000 .small 0 s).map fun n => -(n : Int)
  | s => (readDigits 0x7FFFFFFF .large 0 s).map Int.ofNat

end Maildrop.Text
