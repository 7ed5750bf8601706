/-!
# JSON values

A value as it is kept: an object is a list of members in the order in which they are
written. Integers are exact; any other number is kept as it was written.
-/

namespace Maildrop.Json

/-- **A number.** -/
inductive Number where
  | integer (n : Int)
  /-- A number with a fraction or an exponent, or out of the range of integers. -/
  | real (literal : String)
  deriving DecidableEq, Repr

/-- **A JSON value.** -/
inductive Value where
  | null
  | bool (b : Bool)
  | number (n : Number)
  | string (s : String)
  | array (items : List Value)
  | object (members : List (String × Value))
  deriving Inhabited

namespace Value

/-- The value of an integer. -/
def integer (n : Int) : Value := .number (.integer n)

/-- Puts a member among members that are in the order of their names; an earlier member
of the same name is replaced. -/
def insertMember (name : String) (v : Value) : List (String × Value) → List (String × Value)
  | [] => [(name, v)]
  | (n, w) :: ms =>
    if name = n then (name, v) :: ms
    else if name < n then (name, v) :: (n, w) :: ms
    else (n, w) :: insertMember name v ms

/-- The object of members that come in any order: they are put in the order of their
names, and of two with one name the last one counts. -/
def ofMembers (members : List (String × Value)) : Value :=
  .object (members.foldl (fun ms m => insertMember m.1 m.2 ms) [])

end Value

end Maildrop.Json
