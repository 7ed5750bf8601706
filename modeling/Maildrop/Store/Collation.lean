import Maildrop.Bytes
import Maildrop.Text.Utf8

/-!
# When two emails are the same to a database

A database compares emails without regard to the case of ASCII letters. It compares
them octet by octet up to a zero octet that both have at the same place; after one it
looks no further, and they are the same if they are equally long.
-/

namespace Maildrop.Store

/-- Whether two runs of octets agree, up to a zero octet that both have. -/
def agree : Bytes → Bytes → Bool
  | [], [] => true
  | a :: s, b :: t => Ascii.toLower a == Ascii.toLower b && (a == 0 || agree s t)
  | _, _ => false

/-- **Whether two emails are the same to a database.** -/
def sameEmail (x y : String) : Bool :=
  let s := Utf8.encode x.toList
  let t := Utf8.encode y.toList
  s.length == t.length && agree s t

end Maildrop.Store
