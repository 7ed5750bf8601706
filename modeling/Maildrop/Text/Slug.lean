import Maildrop.Text.Ascii

/-!
# Slugs

A slug is a text made fit for a URL: its ASCII letters and digits in small letters,
with a single hyphen wherever something else stood between two of them.
-/

namespace Maildrop.Text

/-- The slug of the rest of a text. A hyphen is due if something else has come since the
last letter, and is written once a further letter follows; before the first letter
none is. -/
def slugFrom (started due : Bool) : Text → Text
  | [] => []
  | c :: s =>
    if isAlphanumAscii c then
      if started && due then '-' :: lowerAsciiChar c :: slugFrom true false s
      else lowerAsciiChar c :: slugFrom true false s
    else slugFrom started true s

/-- **The slug of a text.** -/
def slug (t : Text) : Text := slugFrom false false t

end Maildrop.Text
