import Maildrop.Store.Frame
import Maildrop.Store.Schema
import Maildrop.Text.Utf8

/-!
# Databases in pages

The tables of the first version were kept in an SQLite file, and a database of that version is
read from one. The file is cut into pages of one size. A table is a tree of pages: the leaves
hold its rows in the order of their numbers, and the pages above hold the numbers of the pages
below. What does not fit into its leaf goes on in a chain of further pages. A row is a record,
which names the kinds of its values before it gives the values.

Of the file only tables are read. At which page each of them starts is said in a table of its
own, which starts at the first page, behind the header of the file.
-/

namespace Maildrop.Store

/-! ### Numbers and values -/

namespace Pages

/-- A number in base 256, first digit first. -/
def number (s : Bytes) : Nat := s.foldl (fun n b => n * 256 + b.toNat) 0

/-- A number in two's complement, first digit first. -/
def signed (s : Bytes) : Int :=
  let bound := Nat.pow 256 s.length
  if 2 * number s < bound then number s else number s - bound

/-- So many octets at the front, and what follows them. -/
def cut? (n : Nat) (s : Bytes) : Option (Bytes × Bytes) :=
  if n ≤ s.length then some (s.take n, s.drop n) else none

/-- Reads a number in base 128, first digit first, behind the digits read so far. Every octet
but the last is marked; after so many more octets the next one is the last and a whole digit
of its own. -/
def readNumberFrom : Nat → Nat → Bytes → Option (Nat × Bytes)
  | _, _, [] => none
  | 0, n, b :: s => some (n * 256 + b.toNat, s)
  | more + 1, n, b :: s =>
    if b.toNat < 128 then some (n * 128 + b.toNat, s)
    else readNumberFrom more (n * 128 + (b.toNat - 128)) s

/-- Reads a number of nine octets at most. -/
def readNumber (s : Bytes) : Option (Nat × Bytes) := readNumberFrom 8 0 s

theorem length_lt_of_readNumberFrom {more n k : Nat} {s rest : Bytes}
    (h : readNumberFrom more n s = some (k, rest)) : rest.length < s.length := by
  induction s generalizing more n with
  | nil => simp [readNumberFrom] at h
  | cons b s ih =>
    cases more with
    | zero =>
      obtain ⟨-, rfl⟩ := Prod.mk.inj (Option.some.inj h)
      exact Nat.lt_succ_self _
    | succ more =>
      rw [readNumberFrom] at h
      split at h
      · obtain ⟨-, rfl⟩ := Prod.mk.inj (Option.some.inj h)
        exact Nat.lt_succ_self _
      · exact Nat.lt_succ_of_lt (ih h)

/-- **A value in a row.** -/
inductive Value where
  | null
  | integer (n : Int)
  | real (octets : Bytes)
  | text (octets : Bytes)
  | blob (octets : Bytes)
  deriving DecidableEq, Repr

namespace Value

/-- How many octets a value of a kind takes. -/
def width (kind : Nat) : Nat :=
  if kind ≤ 4 then kind
  else if kind = 5 then 6
  else if kind ≤ 7 then 8
  else (kind - 12) / 2

/-- The value of a kind that octets stand for. -/
def ofOctets (kind : Nat) (s : Bytes) : Value :=
  if kind = 0 then .null
  else if kind ≤ 6 then .integer (signed s)
  else if kind = 7 then .real s
  else if kind < 10 then .integer (kind - 8)
  else if kind < 12 then .null
  else if kind % 2 = 0 then .blob s
  else .text s

/-- The text of a value that is one. -/
def text? : Value → Option String
  | .text s => (Utf8.decode? s).map String.ofList
  | _ => none

end Value

/-- The kinds of values that the header of a record names. -/
def kinds? (s : Bytes) : Option (List Nat) :=
  if s.isEmpty then some []
  else
    match h : readNumber s with
    | none => none
    | some (kind, rest) =>
      have := length_lt_of_readNumberFrom h
      (kinds? rest).map (kind :: ·)
termination_by s.length

/-- Values of given kinds, one behind the other. -/
def values? : List Nat → Bytes → Option (List Value)
  | [], _ => some []
  | kind :: kinds, s => do
    let (front, rest) ← cut? (Value.width kind) s
    (values? kinds rest).map (Value.ofOctets kind front :: ·)

/-- The values of a record. It starts with the length of its header, itself included. -/
def record? (s : Bytes) : Option (List Value) := do
  let (length, rest) ← readNumber s
  let (header, body) ← cut? (length - (s.length - rest.length)) rest
  values? (← kinds? header) body

end Pages

/-! ### Tables -/

/-- **A row of a table**: its number and its values. -/
structure PageRow where
  rowid : Nat
  values : List Pages.Value

/-- **A file cut into pages.** -/
structure Pages where
  octets : Bytes
  /-- The number of octets of a page. -/
  size : Nat
  /-- How many of them, at its end, are not used. -/
  spare : Nat

namespace Pages

variable (f : Pages)

/-- How many octets of a page are used. -/
def usable : Nat := f.size - f.spare

/-- How many pages there are. -/
def count : Nat := f.octets.length / f.size

/-- The page with a number; numbers count from 1. -/
def page? (n : Nat) : Option Bytes :=
  if 0 < n ∧ n ≤ f.count then some ((f.octets.drop ((n - 1) * f.size)).take f.size) else none

/-- The octets still due in the chain that starts at a page, which is of so many pages at
most. Each page starts with the number of the next one. -/
def chain? : Nat → Nat → Nat → Option Bytes
  | 0, _, _ => none
  | pages + 1, n, due => do
    let page ← f.page? n
    let here := (page.take f.usable).drop 4
    if due ≤ here.length then some (here.take due)
    else (chain? pages (number (page.take 4)) (due - here.length)).map (here ++ ·)

/-- How many octets of a record of a length are in its leaf. -/
def inLeaf (length : Nat) : Nat :=
  let most := f.usable - 35
  let least := (f.usable - 12) * 32 / 255 - 23
  let even := least + (length - least) % (f.usable - 4)
  if length ≤ most then length else if even ≤ most then even else least

/-- The row that starts where the given part of a leaf does. -/
def row? (s : Bytes) : Option PageRow := do
  let (length, s) ← readNumber s
  let (rowid, s) ← readNumber s
  let (front, s) ← cut? (f.inLeaf length) s
  let rest ←
    if front.length = length then some []
    else f.chain? f.count (number (s.take 4)) (length - front.length)
  (record? (front ++ rest)).map (PageRow.mk rowid)

/-- So many numbers of two octets. -/
def places (n : Nat) (s : Bytes) : List Nat :=
  (List.range n).map fun i => number ((s.drop (2 * i)).take 2)

/-- No tree of pages is deeper than this. -/
def maxDepth : Nat := 20

/-- The rows of the tree that starts at a page, which is so deep at most. -/
def rowsFrom? : Nat → Nat → Option (List PageRow)
  | 0, _ => none
  | depth + 1, n => do
    let page ← f.page? n
    let head := page.drop (if n = 1 then 100 else 0)
    let cells := number ((head.drop 3).take 2)
    match head.head? with
    | some 0x0D => (places cells (head.drop 8)).mapM fun i => f.row? (page.drop i)
    | some 0x05 =>
      let below := (places cells (head.drop 12)).map fun i => number ((page.drop i).take 4)
      let last := number ((head.drop 8).take 4)
      ((below ++ [last]).mapM (rowsFrom? depth)).map List.flatten
    | _ => none

/-- The rows of the table that starts at a page. -/
def rows? (n : Nat) : Option (List PageRow) := f.rowsFrom? maxDepth n

/-- The octets of a name. -/
def nameOctets (name : String) : Bytes := Utf8.encode name.toList

/-- The page at which a table starts. -/
def start? (name : String) : Option Nat := do
  (← f.rows? 1).findSome? fun r =>
    match r.values with
    | .text kind :: .text n :: _ :: .integer page :: _ =>
      if kind = nameOctets "table" ∧ n = nameOctets name then some page.toNat else none
    | _ => none

/-- The rows of the table with a name. -/
def table? (name : String) : Option (List PageRow) := (f.start? name).bind f.rows?

end Pages

/-! ### Rows of the first version -/

namespace PageRow

/-- The address in a row; its number is that of the row. -/
def address? (r : PageRow) : Option Address :=
  match r.values with
  | [_, email, .null] => email.text?.map fun e => ⟨r.rowid, e, none⟩
  | [_, email, name] => do return ⟨r.rowid, ← email.text?, some (← name.text?)⟩
  | _ => none

/-- Octets as the first version has packed them. -/
def payload (s : Bytes) : Payload :=
  match Frame.unpack? s with
  | some raw => .packed raw
  | none => .damaged

/-- The message in a row. -/
def message? (r : PageRow) : Option FirstRow :=
  match r.values with
  | [id, .integer sender, subject, body, .blob packed] => do
    return ⟨r.rowid, ← id.text?, sender, ← subject.text?, ← body.text?, payload packed⟩
  | _ => none

/-- The largest number ever used in a table, if the row is the one that says so. -/
def last? (table : String) (r : PageRow) : Option Nat :=
  match r.values with
  | [.text name, .integer n] => if name = Pages.nameOctets table then some n.toNat else none
  | _ => none

end PageRow

namespace Pages

/-- The tables of the first version. -/
def firstTables? (f : Pages) : Option FirstTables := do
  let addresses ← (← f.table? "addresses").mapM PageRow.address?
  let last := (← f.table? "sqlite_sequence").findSome? (PageRow.last? "addresses")
  let messages ← (← f.table? "messages").mapM PageRow.message?
  return ⟨addresses, last.getD 0, messages⟩

/-- The octets at the start of every such file. -/
def mark : Bytes :=
  ['S', 'Q', 'L', 'i', 't', 'e', ' ', 'f', 'o', 'r', 'm', 'a', 't', ' ', '3', '\x00'].map
    Ascii.octet

/-- The part of the header of a file from one octet up to another. -/
def headerNumber (s : Bytes) (first last : Nat) : Nat := number ((s.drop first).take (last - first))

/-- **The database in pages**, if the file holds one: nothing yet, the tables of the first
version, or a database of a version that is not known here, whose tables are left unread. The
second version is kept in another form (`Maildrop.Store.DatabaseFile.octets`). -/
def database? (s : Bytes) : Option DatabaseFile :=
  match Bytes.stripPrefix? mark s with
  | none => none
  | some _ =>
    let size := headerNumber s 16 18
    let f : Pages := ⟨s, if size = 1 then 65536 else size, headerNumber s 20 21⟩
    let version := headerNumber s 60 64
    if version = 0 then (f.rows? 1).bind fun rs => if rs.isEmpty then some .blank else none
    else if version = 1 then
      if headerNumber s 56 60 = 1 then f.firstTables?.map .first else none
    else if schemaVersion < version then some (.later ⟨version, none⟩)
    else none

end Pages

end Maildrop.Store
