import Maildrop.Mime.Header
import Maildrop.Mime.Transfer

/-!
# The parts of a message

A message is read into a table of parts. Part 0 is the message itself; a container
holds the numbers of the parts that were found inside it, in order.

Reading goes through the input once, from header block to header block. What encloses
the place where it stands is a list of *frames*, innermost first: a container that
waits for the parts inside it to end, or a message whose own table waits for a message
nested in it. The parts of a nested message are read only to find where it ends, and are
then forgotten, so a table holds the parts of one message.

After a part its boundary line says whether the container goes on or ends
(`Maildrop.Mime.atEnd`). An ended container is entered in the table with its children,
and the reader looks for the boundary of the container around it
(`Maildrop.Mime.Assembly.leave`). Where the input ends early, everything still open is
closed (`Maildrop.Mime.Assembly.close`).

Every step consumes input, which is why reading ends
(`Maildrop.Mime.Assembly.length_le_of_readPart`).
-/

namespace Maildrop.Mime

open Ascii

/-! ### Parts -/

/-- **What a part holds.** -/
inductive Content where
  /-- Decoded text. -/
  | text (t : Text)
  /-- The numbers of the parts inside. -/
  | children (parts : List Nat)
  /-- Something that is not looked into. -/
  | other

/-- **A part of a message.** -/
structure Part where
  header : Header
  content : Content

/-- **A table of parts**, the message itself first. -/
abbrev PartTable := List Part

/-- The table with the children of a part entered. -/
def PartTable.setChildren (table : PartTable) (part : Nat) (children : List Nat) : PartTable :=
  table.modify part fun p => { p with content := .children children }

/-- **How a part is read**, by its content type. -/
inductive Form where
  | text
  | message
  | multipart
  | digest
  | other
  deriving DecidableEq, Repr

/-- How a part is read inside a container of form `parent`: without a type it is text,
except that a digest holds messages. -/
def Form.ofType (type : Option ContentType) (parent : Form) : Form :=
  match type with
  | none => if parent = .digest then .message else .text
  | some t =>
    let isSubtype (name : String) : Bool := t.subtype = some name.toList
    if t.kind = "multipart".toList then if isSubtype "digest" then .digest else .multipart
    else if t.kind = "text".toList then .text
    else if t.kind = "message".toList ∧ (isSubtype "rfc822" ∨ isSubtype "global") then .message
    else .other

/-! ### What is open while reading -/

/-- **A container being read**: a message, or a part made of parts. -/
structure Container where
  form : Form
  /-- What ends the parts in it; a message that reaches to the end of the input has none. -/
  boundary : Option Bytes
  /-- Its number in the table that it belongs to. -/
  part : Nat
  /-- The parts found in it so far. -/
  children : List Nat := []

/-- **What waits** for the parts inside it to end. -/
structure Frame where
  container : Container
  /-- The table that a nested message has replaced for the time being. -/
  table : Option PartTable

/-- **A message being read.** -/
structure Assembly where
  table : PartTable := []
  current : Container := ⟨.message, none, 0, []⟩
  /-- What encloses the current container, innermost first. -/
  outer : List Frame := []

/-! ### Boundary lines -/

/-- The rest of a line that holds nothing but blanks is passed over. -/
def skipLineEnd : Bytes → Bytes
  | [] => []
  | c :: s =>
    if c = lf then s else if isBlank c || c = cr then skipLineEnd s else c :: s

/-- Whether what follows a boundary ends the container, and what is left. -/
def atEnd (s : Bytes) : Bool × Bytes :=
  match s with
  | [] => (false, [])
  | a :: t =>
    if a = cr ∧ t.head? = some lf then (false, t.tail)
    else if a = octet '-' ∧ t.head? = some (octet '-') then (true, t.tail)
    else if a = lf then (false, t)
    else if isWhite a then (false, skipLineEnd t)
    else (false, s)

/-- What follows the next boundary line. -/
def afterBoundary? (boundary : Bytes) (s : Bytes) : Option Bytes :=
  if boundary.isEmpty then none else Bytes.after? (octet '-' :: octet '-' :: boundary) s

theorem length_skipLineEnd_le (s : Bytes) : (skipLineEnd s).length ≤ s.length := by
  fun_induction skipLineEnd s with
  | case1 => exact Nat.le_refl 0
  | case2 s => exact Nat.le_succ s.length
  | case3 c s _ _ ih => exact Nat.le_succ_of_le ih
  | case4 c s => exact Nat.le_refl _

theorem length_atEnd_le (s : Bytes) : (atEnd s).2.length ≤ s.length := by
  rw [atEnd.eq_def]
  split
  · exact Nat.le_refl 0
  · next a t =>
    have htail : t.tail.length ≤ t.length := by simp
    split
    · exact Nat.le_succ_of_le htail
    · split
      · exact Nat.le_succ_of_le htail
      · split
        · exact Nat.le_succ t.length
        · split
          · exact Nat.le_succ_of_le (length_skipLineEnd_le t)
          · exact Nat.le_refl _

theorem length_le_of_afterBoundary? {b s rest : Bytes} (h : afterBoundary? b s = some rest) :
    rest.length ≤ s.length := by
  unfold afterBoundary? at h
  split at h
  · simp at h
  · exact Bytes.length_le_of_after? h

namespace Assembly

/-! ### Leaving containers -/

/-- Where a nested message has ended, the message around it goes on with its boundary;
none if no message is around it. -/
def leaveMessage (a : Assembly) : Option Assembly :=
  if a.current.form ≠ .message then some a
  else
    match a.outer with
    | ⟨c, some table⟩ :: outer => some ⟨table, { c with boundary := a.current.boundary }, outer⟩
    | _ => none

theorem length_outer_leaveMessage {a a' : Assembly} (h : a.leaveMessage = some a') :
    a'.outer.length ≤ a.outer.length := by
  unfold leaveMessage at h
  split at h
  · cases h; exact Nat.le_refl _
  · split at h
    · next heq => cases h; simp [heq]
    · simp at h

/-- **What a boundary line does**: the container goes on with what is left, or it ends
and the reader looks for the boundary of the one around it. Without anything left,
reading is over. -/
def leave (a : Assembly) (s : Bytes) : Assembly × Option Bytes :=
  match ha : a.leaveMessage with
  | none => (a, none)
  | some a' =>
    match atEnd s with
    | (false, rest) => (a', some rest)
    | (true, rest) =>
      let table := a'.table.setChildren a'.current.part a'.current.children
      match ho : a'.outer with
      | [] => ({ a' with table }, none)
      | f :: outer =>
        let next : Assembly := ⟨f.table.getD table, f.container, outer⟩
        match f.container.boundary.bind (afterBoundary? · rest) with
        | none => (next, none)
        | some rest =>
          have : outer.length < a.outer.length := by
            have := length_outer_leaveMessage ha
            rw [ho] at this
            exact this
          next.leave rest
termination_by a.outer.length

theorem length_le_of_leave {a a' : Assembly} {s rest : Bytes}
    (h : a.leave s = (a', some rest)) : rest.length ≤ s.length := by
  fun_induction leave a s with
  | case1 => simp at h
  | case2 a s a' ha rest' he =>
    have := length_atEnd_le s
    rw [he] at this
    simp_all
  | case3 => simp at h
  | case4 => simp at h
  | case5 a s a' ha rest₁ he table f outer ho next rest₂ hb _ ih =>
    have h₁ := length_atEnd_le s
    rw [he] at h₁
    obtain ⟨b, _, hb⟩ := Option.bind_eq_some_iff.mp hb
    have h₂ := length_le_of_afterBoundary? hb
    have h₃ := ih h
    simp only at h₁
    omega

/-- **Closes what is open** when the input has ended: the table of the outermost
message. -/
def close (table : PartTable) (current : Container) : List Frame → PartTable
  | [] => table
  | ⟨c, some outer⟩ :: fs => close outer c fs
  | ⟨c, none⟩ :: fs => close (table.setChildren current.part current.children) c fs

/-! ### Reading a part -/

/-- The table with one more part. -/
def addPart (a : Assembly) (header : Header) (content : Content) : Assembly :=
  { a with table := a.table ++ [⟨header, content⟩] }

/-- The container with the next part of the table as one more child. -/
def addChild (a : Assembly) : Assembly :=
  { a with current := { a.current with children := a.current.children ++ [a.table.length] } }

/-- Opens a container for the part that comes next. -/
def openContainer (a : Assembly) (header : Header) (form : Form) (boundary : Bytes) : Assembly :=
  { a.addPart header .other with
    current := ⟨form, some boundary, a.table.length, []⟩
    outer := ⟨a.current, none⟩ :: a.outer }

/-- Opens a nested message, which takes over the boundary of the container it is in and
has a table of its own. -/
def openMessage (a : Assembly) (header : Header) : Assembly where
  table := []
  current := ⟨.message, a.current.boundary, a.table.length, []⟩
  outer := ⟨{ a.current with boundary := none }, some (a.addPart header .other).table⟩ :: a.outer

/-- Reads the body of a part that holds no parts, and adds the part. What cannot be
decoded is text as it is, up to the boundary or else to the end of the input. -/
def readLeaf (a : Assembly) (header : Header) (type : Option ContentType) (form : Form)
    (transfer : Transfer) (body : Bytes) : Assembly × Option Bytes :=
  let asText (octets : Bytes) : Content :=
    .text (Charset.decodeNamed (type.bind (·.parameter? "charset")) octets)
  let boundary := a.current.boundary
  match transfer.read boundary body with
  | some (octets, rest) =>
    let a := a.addPart header (if form = .text then asText octets else .other)
    if boundary.isSome then a.leave rest else (a, none)
  | none =>
    match boundary.bind (Transfer.cut · body) with
    | some (octets, rest) => (a.addPart header (asText octets)).leave rest
    | none => (a.addPart header (asText body), none)

/-- **Reads one part** whose header block has been read: what is open then, and what is
left, unless reading is over. -/
def readPart (a : Assembly) (header : Header) (body : Bytes) : Assembly × Option Bytes :=
  let type := header.contentType?
  let form := Form.ofType type a.current.form
  let a := a.addChild
  let transfer := Transfer.ofName (header.text? "content-transfer-encoding")
  let readOther (form : Form) : Assembly × Option Bytes :=
    if form = .message ∧ transfer = .identity then (a.openMessage header, some body)
    else a.readLeaf header type form transfer body
  if form = .multipart ∨ form = .digest then
    match (type.bind (·.parameter? "boundary")).map Utf8.encode with
    | none => readOther form
    | some boundary =>
      match afterBoundary? boundary body with
      | some rest => (a.openContainer header form boundary, some (skipLineEnd rest))
      | none => readOther .text
  else readOther form

theorem length_le_of_readLeaf {a a' : Assembly} {header : Header} {type : Option ContentType}
    {form : Form} {transfer : Transfer} {body rest : Bytes}
    (h : a.readLeaf header type form transfer body = (a', some rest)) :
    rest.length ≤ body.length := by
  simp only [readLeaf] at h
  split at h
  · next octets rest₁ hr =>
    have h₁ := Transfer.length_le_of_read hr
    split at h
    · have h₂ := length_le_of_leave h
      omega
    · simp at h
  · split at h
    · next octets rest₁ hb =>
      obtain ⟨b, _, hb⟩ := Option.bind_eq_some_iff.mp hb
      have h₁ := Transfer.length_le_of_cutFrom hb
      have h₂ := length_le_of_leave h
      omega
    · simp at h

theorem length_le_of_readPart {a a' : Assembly} {header : Header} {body rest : Bytes}
    (h : a.readPart header body = (a', some rest)) : rest.length ≤ body.length := by
  have other {form : Form} {transfer : Transfer}
      (h : (if form = .message ∧ transfer = .identity then
          (a.addChild.openMessage header, some body)
        else a.addChild.readLeaf header header.contentType? form transfer body) =
          (a', some rest)) : rest.length ≤ body.length := by
    split at h
    · simp_all
    · exact length_le_of_readLeaf h
  simp only [readPart] at h
  split at h
  · split at h
    · exact other h
    · split at h
      · next hb =>
        have h₁ := length_le_of_afterBoundary? hb
        have h₂ := length_skipLineEnd_le
        simp only [Prod.mk.injEq, Option.some.injEq] at h
        have := h.2 ▸ h₂ _
        omega
      · exact other h
  · exact other h

/-- **Reads part after part**: what is open when the input ends or reading is over, and
the fields of a last header block that has no end. -/
def run (a : Assembly) (s : Bytes) : Assembly × Header :=
  match hr : Header.read s with
  | (header, none) => (a, header)
  | (header, some body) =>
    match hp : a.readPart header body with
    | (a, none) => (a, [])
    | (a, some rest) =>
      have : rest.length < s.length := by
        have h₁ : (Header.read s).2 = some body := by rw [hr]
        have h₂ := Header.length_lt_of_read h₁
        have h₃ := length_le_of_readPart hp
        omega
      run a rest
termination_by s.length

end Assembly

/-- **The parts of a message**; none if the input has neither a header block nor a
field. A message that ends inside its first header block is an empty text. -/
def PartTable.ofBytes? (raw : Bytes) : Option PartTable :=
  let r := Assembly.run {} raw
  match Assembly.close r.1.table r.1.current r.1.outer with
  | [] => if r.2.isEmpty then none else some [⟨r.2, .text []⟩]
  | table => some table

end Maildrop.Mime
