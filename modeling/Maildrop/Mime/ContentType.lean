import Maildrop.Mime.FieldText

/-!
# Content types

A content type names what a part of a message holds: a type, perhaps a subtype, and
parameters such as the charset of a text or the boundary of a container.

A value is read octet by octet (`Maildrop.Mime.ContentType.Reading.step`). What the
reader has to keep is where it is (`Maildrop.Mime.ContentType.Place`), the token being
read, and the parameter being put together. A parameter may be given in numbered
sections (`name*0`, `name*1`), in a percent-encoded form that names its charset
(`name*=charset'language'value`), or in quotes with escapes and encoded words inside;
so its value is collected in pieces. Sections are put in order of name and number and
joined at the end of the field.

The reader takes anything: a comment, a stray quote or a missing value never stops it,
and only a field without any type has no content type.
-/

namespace Maildrop.Mime

/-- **A content type**, in small letters, with its parameters in order. -/
structure ContentType where
  /-- The type, such as `text`. -/
  kind : Text
  /-- The subtype, such as `plain`. -/
  subtype : Option Text
  /-- Names and values. -/
  parameters : List (Text × Text)

namespace ContentType

/-- The value of the first parameter of a name. -/
def parameter? (t : ContentType) (name : String) : Option Text := t.parameters.lookup name.toList

/-- The type and subtype as they are written in a message. -/
def label (t : ContentType) : Text :=
  match t.subtype with
  | some u => t.kind ++ '/' :: u
  | none => t.kind

/-! ### Percent encoding -/

/-- The octets that percent escapes stand for; none if one of them is not followed by
hexadecimal digits. An escape that the end of the text cuts off is dropped. -/
def unescape? : Bytes → Option Bytes
  | [] => some []
  | 0x25 :: a :: b :: s =>
    match Ascii.hexValue? a, Ascii.hexValue? b with
    | some x, some y => (unescape? s).map ((x * 16 + y) :: ·)
    | _, _ => none
  | [0x25, a] => if (Ascii.hexValue? a).isSome then some [] else none
  | [0x25] => some []
  | c :: s => (unescape? s).map (c :: ·)

/-! ### Sections -/

/-- **One numbered section** of a parameter's value. -/
structure Section where
  name : Text
  number : Nat
  value : Text

/-- Sections are ordered by name, then number, then value. -/
def Section.le (x y : Section) : Bool :=
  x.name < y.name || (x.name == y.name &&
    (x.number < y.number || (x.number == y.number && !(y.value < x.value))))

/-- Appends a section to the first parameter of its name, or adds it as one. -/
def addSection (parameters : List (Text × Text)) (x : Section) : List (Text × Text) :=
  match parameters with
  | [] => [(x.name, x.value)]
  | (n, v) :: ps => if n = x.name then (n, v ++ x.value) :: ps else (n, v) :: addSection ps x

/-! ### The state of a reader -/

/-- **Where in the value a reader is.** -/
inductive Place where
  | kind
  | subtype
  | name
  | value
  | quoted
  deriving DecidableEq, Repr

/-- **What a reader keeps** between two octets. -/
structure Reading where
  place : Place := .kind
  /-- How many comments are open. -/
  comments : Nat := 0
  /-- The token being read. -/
  token : Option Span := none
  /-- A backslash came before. -/
  escaped : Bool := false
  /-- No octet of a token came since the last blank. -/
  fresh : Bool := true
  /-- The token may hold capital letters. -/
  capitals : Bool := false
  /-- A quoted value runs over a line end. -/
  folded : Bool := false
  kind : Option Text := none
  subtype : Option Text := none
  /-- The name of the parameter being put together. -/
  name : Option Text := none
  /-- Its name was followed by a star. -/
  starred : Bool := false
  /-- Its value is percent-encoded. -/
  percent : Bool := false
  /-- The number of its section. -/
  number : Nat := 0
  /-- The charset that its value names. -/
  charset : Option Text := none
  /-- The pieces of its value, in order. -/
  pieces : List Text := []
  parameters : List (Text × Text) := []
  sections : List Section := []

namespace Reading

/-- Passes over an octet. -/
def skip (r : Reading) (c : UInt8) : Reading := { r with token := r.token.map (·.skip c) }

/-- Takes an octet into the token. -/
def take (r : Reading) (c : UInt8) : Reading :=
  { r with token := some (Span.takeInto r.token c), escaped := false, fresh := false }

/-- Forgets the token. -/
def drop (r : Reading) : Reading := { r with token := none, fresh := true }

/-- Uses the token as the type, the subtype or the name of a parameter. -/
def closeWord (r : Reading) : Reading :=
  match r.token with
  | none => r
  | some t =>
    let word := if r.capitals then Text.lowerAscii t.text else t.text
    let r : Reading := { r.drop with capitals := false }
    match r.place with
    | .kind => { r with kind := some word }
    | .name => { r with name := some word }
    | _ => { r with subtype := some word }

/-- Uses the token as a piece of a value. In quotes the piece may include the gap after
it; elsewhere a space follows it. -/
def closePiece (r : Reading) (withGap : Bool) : Reading :=
  match r.token with
  | none => r
  | some t =>
    let new :=
      if r.place = .quoted then
        [if withGap then Utf8.decodeLossy t.octetsWithGap else t.text]
      else [t.text, [' ']]
    { r.drop with pieces := r.pieces ++ new }

/-- Adds the value of the parameter being put together, now complete. -/
def addValue (r : Reading) (name : Text) : Reading :=
  let value := r.pieces.flatten
  let r : Reading := { r.drop with pieces := [], name := none }
  if !r.starred then { r with parameters := r.parameters ++ [(name, value)] }
  else
    let value :=
      if r.percent then
        match unescape? (Utf8.encode value) with
        | some raw => Charset.decodeNamed r.charset raw
        | none => value
      else value
    let r : Reading := { r with percent := false, starred := false, charset := none }
    if 0 < r.number then
      { r with sections := r.sections ++ [⟨name, r.number, value⟩], number := 0 }
    else { r with parameters := r.parameters ++ [(name, value)] }

/-- Uses the token as the last piece of a value and adds the value. Without a name, or
with nothing to add, nothing happens. -/
def closeValue (r : Reading) : Reading :=
  match r.name, r.token with
  | none, _ => r
  | some name, some t =>
    let octets :=
      if r.folded then t.octets.filter fun c => c ≠ Ascii.cr ∧ c ≠ Ascii.lf else t.octets
    { r with folded := false, pieces := r.pieces ++ [Utf8.decodeLossy octets] }.addValue name
  | some name, none => if r.pieces.isEmpty then r else r.addValue name

/-- Uses the token as the number of a section; what is no number counts as zero. -/
def closeNumber (r : Reading) : Reading :=
  match r.token with
  | none => r
  | some t =>
    let digits := match t.text with
      | '+' :: ds => ds
      | ds => ds
    let n := Text.decimal digits
    let valid := !digits.isEmpty && digits.all Text.isDigitAscii && n < 0x100000000
    { r.drop with number := if valid then n else 0 }

/-- A single quote inside a percent-encoded value ends the charset and then the
language, which is kept as a parameter of its own. -/
def closeCharset (r : Reading) : Reading :=
  match r.token with
  | none => r
  | some t =>
    if r.charset.isNone then { r.drop with charset := some t.text }
    else
      let key := r.name.getD "unknown".toList ++ "-language".toList
      if (r.parameters.lookup key).isSome then
        { r.drop with pieces := r.pieces ++ [['\x27'], t.text] }
      else { r.drop with parameters := r.parameters ++ [(key, t.text)] }

/-! ### One octet -/

open Ascii in
/-- An octet inside a comment. -/
def stepComment (r : Reading) (c : UInt8) : Reading :=
  if c = octet '"' || c = cr then r.skip c
  else if c = octet '(' then { r.skip c with comments := r.comments + 1 }
  else if c = octet ')' then { r.drop with comments := r.comments - 1 }
  else r.take c

open Ascii in
/-- An octet in the type, the subtype or the name of a parameter. -/
def stepWord (r : Reading) (c : UInt8) : Reading :=
  if isCapital c then { r.take c with capitals := true }
  else if c = octet '/' ∧ r.place = .kind then { r.closeWord with place := .subtype }
  else if c = octet ';' then { r.closeWord with place := .name }
  else if c = octet '*' ∧ r.place = .name then
    if !r.starred then { r.closeWord with starred := r.token.isSome }
    else if !r.percent then { r.closeNumber with percent := true }
    else r.drop
  else if c = octet '=' ∧ r.place = .name then
    if !r.starred then
      if r.token.isSome then { r.closeWord with place := .value } else r
    else if !r.percent then { r.closeNumber with percent := r.token.isNone, place := .value }
    else { r.drop with place := .value }
  else if c = octet '"' || c = octet '\\' || c = cr then r.skip c
  else if c = octet '(' then
    if r.escaped then { r.skip c with escaped := false }
    else { r.closeWord with comments := 1 }
  else r.take c

open Ascii in
/-- An octet in a value, quoted or not. -/
def stepValue (r : Reading) (c : UInt8) : Reading :=
  if c = cr then r.skip c
  else if c = octet '\\' then
    if r.escaped then r.take c else { r.closePiece true with escaped := true }
  else if c = octet '\x27' ∧ r.percent ∧ ¬r.escaped then r.closeCharset
  else if r.place = .quoted then
    if c = octet '"' ∧ ¬r.escaped then { r.closeValue.skip c with place := .name } else r.take c
  else if c = octet '"' then { r.skip c with fresh := true, place := .quoted }
  else if c = octet ';' then
    if r.escaped then { r.skip c with escaped := false }
    else { r.closeValue.skip c with place := .name }
  else if c = octet '(' then
    if r.escaped then { r.skip c with escaped := false }
    else { r.closeValue.skip c with comments := 1 }
  else r.take c

/-- Ends the word or the value at a line end. -/
def closeLine (r : Reading) : Reading :=
  if 0 < r.comments then r
  else
    match r.place with
    | .value | .quoted => r.closeValue
    | _ => r.closeWord

open Ascii in
/-- **What one octet does.** A line feed here is followed by a blank: the value goes on
in quotes, and elsewhere a parameter's name is expected. -/
def step (r : Reading) (c : UInt8) : Reading :=
  let quoted := r.place = .quoted ∧ r.comments = 0
  if isBlank c then
    if quoted then { r with token := some (Span.takeInto r.token c), fresh := true }
    else { r.skip c with fresh := true }
  else if c = lf then
    if quoted then { r.skip c with folded := true }
    else { r.closeLine.skip c with comments := 0, place := .name }
  else if 0 < r.comments then r.stepComment c
  else
    match r.place with
    | .value | .quoted => r.stepValue c
    | _ => r.stepWord c

/-- Whether an encoded word may start with the octet. -/
def allowsEncodedWord (r : Reading) : Bool :=
  r.comments = 0 && (r.place = .value || r.place = .quoted) && r.fresh

/-- Reads a value to its end. -/
def run (r : Reading) : Bytes → Reading
  | [] => r.closeLine
  | c :: s =>
    match h : if r.allowsEncodedWord then encodedWord? c s else none with
    | some (w, rest) =>
      have : rest.length < s.length := by
        split at h
        · exact length_lt_of_encodedWord? h
        · simp at h
      let r := r.closePiece false
      run { r with pieces := r.pieces ++ [w] } rest
    | none => run (r.step c) s
termination_by s => s.length

/-- The content type that has been read, with the sections joined to their parameters. -/
def result? (r : Reading) : Option ContentType :=
  r.kind.map fun kind =>
    ⟨kind, r.subtype, (r.sections.mergeSort Section.le).foldl addSection r.parameters⟩

end Reading

/-- **The content type that a field's value writes.** -/
def read? (value : Bytes) : Option ContentType := (Reading.run {} value).result?

end ContentType

end Maildrop.Mime
