import Maildrop.Mime.Sextets
import Maildrop.Text.Ascii
import Maildrop.Text.Utf8

/-!
# Character sets

The octets of a body or of an encoded word are read as text in a named character set.
A name is looked up without regard to ASCII case, with hyphens and underscores alike;
octets under a name that is not known here are read as UTF-8.

Eight-bit sets are tables of their upper half. The two wide forms are UTF-16, in either
order of octets, and the seven-bit form that hides UTF-16 in base64 between `+` and `-`.
Whatever stands for no character is read as U+FFFD.
-/

namespace Maildrop.Mime

/-! ### Eight-bit sets -/

/-- The characters of windows-1252 from 80 to 9F; above these it is Latin-1. -/
def windows1252Table : String :=
  "€\ufffd‚ƒ„…†‡ˆ‰Š‹Œ\ufffdŽ\ufffd\ufffd‘’“”•–—˜™š›œ\ufffdžŸ"

/-- The characters of windows-1251 from 80 to FF. -/
def windows1251Table : String :=
  "ЂЃ‚ѓ„…†‡€‰Љ‹ЊЌЋЏђ‘’“”•–—\ufffd™љ›њќћџ" ++
  "\u00a0ЎўЈ¤Ґ¦§Ё©Є«¬\u00ad®Ї°±Ііґµ¶·ё№є»јЅѕї" ++
  "АБВГДЕЖЗИЙКЛМНОПРСТУФХЦЧШЩЪЫЬЭЮЯ" ++
  "абвгдежзийклмнопрстуфхцчшщъыьэюя"

/-- The characters of KOI8-R from 80 to FF. -/
def koi8rTable : String :=
  "─│┌┐└┘├┤┬┴┼▀▄█▌▐░▒▓⌠■∙√≈≤≥\u00a0⌡°²·÷" ++
  "═║╒ё╓╔╕╖╗╘╙╚╛╜╝╞╟╠╡Ё╢╣╤╥╦╧╨╩╪╫╬©" ++
  "юабцдефгхийклмнопярстужвьызшэщчъ" ++
  "ЮАБЦДЕФГХИЙКЛМНОПЯРСТУЖВЬЫЗШЭЩЧЪ"

/-- Where Latin-9 differs from Latin-1. -/
def latin9Changes : List (Nat × Char) :=
  [(0xA4, '€'), (0xA6, 'Š'), (0xA8, 'š'), (0xB4, 'Ž'), (0xB8, 'ž'), (0xBC, 'Œ'), (0xBD, 'œ'),
   (0xBE, 'Ÿ')]

/-- The character of an octet in the set whose upper half starts with the table:
outside the table it is that of Latin-1. -/
def charIn (table : Text) (b : UInt8) : Char :=
  if b < 0x80 then Char.ofNat b.toNat
  else table.getD (b.toNat - 0x80) (Char.ofNat b.toNat)

/-! ### UTF-16 -/

/-- The order of the two octets of a unit. -/
inductive OctetOrder where
  | bigEndian
  | littleEndian
  deriving DecidableEq, Repr

/-- The 16-bit units of the octets; a last single octet is dropped. -/
def units (o : OctetOrder) : Bytes → List Nat
  | a :: b :: s =>
    match o with
    | .bigEndian => (a.toNat * 256 + b.toNat) :: units o s
    | .littleEndian => (b.toNat * 256 + a.toNat) :: units o s
  | _ => []

/-- A unit that opens a pair. -/
def isHighSurrogate (u : Nat) : Bool := 0xD800 ≤ u && u < 0xDC00

/-- A unit that closes a pair. -/
def isLowSurrogate (u : Nat) : Bool := 0xDC00 ≤ u && u < 0xE000

/-- The character of a unit that belongs to no pair. -/
def charOfUnit (u : Nat) : Char :=
  if isHighSurrogate u || isLowSurrogate u then Utf8.replacement else Char.ofNat u

/-- The text of a list of units; two units make a pair only if they are neighbours. -/
def textOfUnits : List Nat → Text
  | u :: v :: s =>
    if isHighSurrogate u && isLowSurrogate v then
      Char.ofNat (0x10000 + (u - 0xD800) * 1024 + (v - 0xDC00)) :: textOfUnits s
    else charOfUnit u :: textOfUnits (v :: s)
  | [u] => [charOfUnit u]
  | [] => []

/-- The text of octets in UTF-16. -/
def decodeUtf16 (o : OctetOrder) (s : Bytes) : Text := textOfUnits (units o s)

/-- The text of octets in UTF-16 whose order a mark at the front may give. -/
def decodeUtf16Marked : Bytes → Text
  | 0xFE :: 0xFF :: s => decodeUtf16 .bigEndian s
  | 0xFF :: 0xFE :: s => decodeUtf16 .littleEndian s
  | s => decodeUtf16 .littleEndian s

/-! ### UTF-7 -/

/-- The text of a base64 stretch that the octet `c` ends. A stretch with nothing in it
stands for the plus sign that opened it and that octet. -/
def textOfStretch (q : Sextets) (c : UInt8) : Text :=
  let s := q.flush.bytes
  if 2 ≤ s.length then decodeUtf16 .bigEndian s
  else if s.isEmpty then ['+', Char.ofNat c.toNat]
  else [Utf8.replacement]

/-- The text of octets in UTF-7 after a base64 stretch, if one is open. An octet that
ends a stretch is dropped, and so is a stretch that the input does not end. -/
def decodeUtf7 (stretch : Option Sextets) : Bytes → Text
  | [] => []
  | c :: s =>
    match stretch with
    | none =>
      if c = Ascii.octet '+' then decodeUtf7 (some {}) s
      else Char.ofNat c.toNat :: decodeUtf7 none s
    | some q =>
      match Sextets.value? c with
      | some v => decodeUtf7 (some (q.push v)) s
      | none => textOfStretch q c ++ decodeUtf7 none s

/-! ### Sets and their names -/

/-- **A character set.** -/
inductive Charset where
  | utf8
  | utf7
  | utf16 (order : OctetOrder)
  | utf16Marked
  | latin1
  | latin9
  | windows1252
  | windows1251
  | koi8r
  deriving DecidableEq, Repr

namespace Charset

/-- The text of octets in the character set. -/
def decode : Charset → Bytes → Text
  | .utf8, s => Utf8.decodeLossy s
  | .utf7, s => decodeUtf7 none s
  | .utf16 o, s => decodeUtf16 o s
  | .utf16Marked, s => decodeUtf16Marked s
  | .latin1, s => s.map (charIn [])
  | .latin9, s => s.map fun b => (latin9Changes.lookup b.toNat).getD (charIn [] b)
  | .windows1252, s => s.map (charIn windows1252Table.toList)
  | .windows1251, s => s.map (charIn windows1251Table.toList)
  | .koi8r, s => s.map (charIn koi8rTable.toList)

/-- The names of the character sets, in small letters and with underscores. -/
def names : List (Charset × List String) :=
  [(.latin1, ["l1", "latin1", "cp819", "iso_8859_1", "iso_ir_100", "iso_8859_1:1987",
      "csisolatin1", "ibm819"]),
   (.latin9, ["latin_9", "iso_8859_15", "csiso885915"]),
   (.windows1252, ["windows_1252", "cswindows1252"]),
   (.windows1251, ["windows_1251", "cswindows1251"]),
   (.koi8r, ["koi8_r", "cskoi8r"]),
   (.utf16 .littleEndian, ["utf_16le", "csutf16le"]),
   (.utf16 .bigEndian, ["utf_16be", "csutf16be"]),
   (.utf16Marked, ["utf_16", "csutf16"]),
   (.utf7, ["utf_7", "csutf7"])]

/-- A name as it is looked up. -/
def foldName (name : Text) : Text :=
  name.map fun c => if c = '-' then '_' else Text.lowerAsciiChar c

/-- **The character set of a name**: UTF-8 where the name is unknown. -/
def ofName (name : Text) : Charset :=
  ((names.find? fun e => e.2.contains (String.ofList (foldName name))).map (·.1)).getD .utf8

/-- The text of octets in the set of a name, and in UTF-8 without one. -/
def decodeNamed (name : Option Text) (s : Bytes) : Text :=
  ((name.map ofName).getD .utf8).decode s

end Charset

end Maildrop.Mime
