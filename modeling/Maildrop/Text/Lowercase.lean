import Maildrop.Text.Blank
import Maildrop.Text.CaseTable

/-!
# Small letters

The small form of a text, by the full rules of Unicode. Most capital letters have one
small letter each. Two do not: the capital I with a dot becomes an i and a dot above,
and the capital sigma has a form of its own at the end of a word.

A sigma ends a word if a letter with a case comes before it and none comes after it,
where characters such as full stops and accents are looked through.
-/

namespace Maildrop.Text

/-- The capital letter I with a dot above. -/
abbrev dottedI : Char := Char.ofNat 0x130

/-- The capital letter sigma. -/
abbrev capitalSigma : Char := Char.ofNat 0x3A3

/-- The small letter sigma. -/
abbrev smallSigma : Char := Char.ofNat 0x3C3

/-- The small letter sigma at the end of a word. -/
abbrev finalSigma : Char := Char.ofNat 0x3C2

/-- The number of the small letter of the character with number `n`. -/
def lowerCode (n : Nat) : Nat :=
  match capitalRanges.find? fun r => r.first ≤ n && n ≤ r.last && (n - r.first) % r.step == 0 with
  | some r => r.target + (n - r.first)
  | none => n

/-- The small letter of a capital letter that has one of its own; every other
character stays. -/
def lowerChar (c : Char) : Char := Char.ofNat (lowerCode c.toNat)

/-- Whether the character has a case. -/
def isCased (c : Char) : Bool := inRanges casedRanges c.toNat

/-- Whether a word goes on through the character. -/
def isCaseIgnorable (c : Char) : Bool := inRanges caseIgnorableRanges c.toNat

/-- Whether the first character that is not looked through has a case. -/
def startsCased (t : Text) : Bool := (t.dropWhile isCaseIgnorable).head?.any isCased

/-- The small form of a text, where `before` holds the characters before it, last one
first. -/
def lowercaseAfter (before : Text) : Text → Text
  | [] => []
  | c :: s =>
    let small :=
      if c = capitalSigma then
        [if startsCased before && !startsCased s then finalSigma else smallSigma]
      else if c = dottedI then ['i', Char.ofNat 0x307]
      else [lowerChar c]
    small ++ lowercaseAfter (c :: before) s

/-- **The small form of a text.** -/
def lowercase (t : Text) : Text := lowercaseAfter [] t

end Maildrop.Text
