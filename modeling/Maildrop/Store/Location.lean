import Maildrop.Host.Path
import Maildrop.Store.Error
import Maildrop.Text.Utf8

/-!
# Where a database is kept

A database is named by the path of its file. The empty path and `:memory:` name one in memory,
which ends with the program that has opened it, and a path with a NUL in it names none. A path is
gone along without its detours, as a text: nothing needs to be at the places that it leads back
from, but there may be no file on the way to them.

A text that starts with `file:` is no path but a URI. It may name a host, which has to be this
one; then comes the path, and behind a question mark the options, each of them a name and a value.
A hash sign ends the URI. In all of this a percent sign with two hexadecimal digits stands for an
octet.

Of the options, `mode` says whether the database is in memory, and `cache` is checked, but does
not matter to a database that one program uses alone. Options that nobody knows do not matter
either. What other modes and some more options ask for, such as a database that is only read, is
not done here (`Maildrop.Store.Location.special`), and neither are names of files read that are
not in UTF-8.
-/

namespace Maildrop.Store

/-- **Where a database is kept.** -/
inductive Location where
  /-- In memory: it ends with the program that has opened it. -/
  | memory
  /-- In the file to which a path without detours leads. The detours that have been left out may
  not lead through a file. -/
  | file (path : String) (detours : List String)
  /-- In a file that is not used in the ordinary way, or whose name is no text. -/
  | special
  deriving DecidableEq, Repr

/-- The location that a name stands for. -/
def Location.ofName (name : String) : Location :=
  if name = "" ∨ name = ":memory:" then .memory
  else .file (Path.normal name) (Path.detours name)

/-! ### URIs -/

/-- **A URI**: the octets of its path, and the names and values of its options. -/
structure Uri where
  path : Bytes
  options : List (Bytes × Bytes)

namespace Uri

/-- The octets that a part of a URI stands for. An escaped NUL ends the part. -/
def unescape : Bytes → Bytes
  | 0x25 :: a :: b :: s =>
    match Ascii.hexValue? a, Ascii.hexValue? b with
    | some x, some y => if x = 0 ∧ y = 0 then [] else (x * 16 + y) :: unescape s
    | _, _ => 0x25 :: unescape (a :: b :: s)
  | c :: s => c :: unescape s
  | [] => []

/-- The octets in front of the first of some octet, and those behind it. -/
def cutAt (mark : UInt8) (s : Bytes) : Bytes × Bytes :=
  (s.takeWhile (· ≠ mark), (s.dropWhile (· ≠ mark)).drop 1)

/-- The octets of a word. -/
def word (s : String) : Bytes := Utf8.encode s.toList

/-- What follows the host, or the host if it is another one. -/
def withoutHost (s : Bytes) : Except Bytes Bytes :=
  match Bytes.stripPrefix? (word "//") s with
  | none => .ok s
  | some s =>
    let host := s.takeWhile (· ≠ Ascii.octet '/')
    if host = [] ∨ host = word "localhost" then .ok (s.dropWhile (· ≠ Ascii.octet '/'))
    else .error host

/-- The name and the value of an option. -/
def option (s : Bytes) : Bytes × Bytes :=
  let (name, value) := cutAt (Ascii.octet '=') s
  (unescape name, unescape value)

/-- The URI of the octets that follow its host. Options without a name are left out. -/
def ofOctets (s : Bytes) : Uri :=
  let (path, options) := cutAt (Ascii.octet '?') (s.takeWhile (· ≠ Ascii.octet '#'))
  ⟨unescape path, ((options.splitOn (Ascii.octet '&')).map option).filter fun o => !o.1.isEmpty⟩

/-- **What an option asks for.** -/
inductive Request where
  /-- A database in memory. -/
  | memory
  /-- A database that is read and written, and made if it is missing. -/
  | file
  | nothing
  | special
  deriving DecidableEq, Repr

/-- The options that change how a file is used. -/
def modifiers : List String := ["vfs", "immutable", "nolock", "psow", "modeof", "readonly_shm"]

/-- What an option asks for, or what is wrong with it. -/
def request (name value : Bytes) : Except Cause Request :=
  if name = word "mode" then
    if value = word "memory" then .ok .memory
    else if value = word "rwc" then .ok .file
    else if value = word "ro" ∨ value = word "rw" then .ok .special
    else .error (.badUri ("no such access mode: " ++ String.ofList (Utf8.decodeLossy value)))
  else if name = word "cache" then
    if value = word "shared" ∨ value = word "private" then .ok .nothing
    else .error (.badUri ("no such cache mode: " ++ String.ofList (Utf8.decodeLossy value)))
  else if modifiers.any fun m => name = word m then .ok .special
  else .ok .nothing

/-- The location that a URI stands for. The last mode counts. -/
def location (u : Uri) : Except Cause Location := do
  let requests ← u.options.mapM fun o => request o.1 o.2
  if requests.contains .special then pure .special
  else if requests.reverse.find? (· ≠ .nothing) = some .memory then pure .memory
  else
    match Utf8.decode? u.path with
    | some name => pure (.ofName (String.ofList name))
    | none => pure .special

end Uri

/-! ### Paths of databases -/

namespace Database

/-- **Where the database of a path is kept**, or why the path names none. -/
def location (path : String) : Except Cause Location :=
  let octets := Utf8.encode path.toList
  if octets.contains 0 then .error (.embeddedNul (octets.takeWhile (· ≠ 0)).length)
  else
    match Bytes.stripPrefix? (Uri.word "file:") octets with
    | none => .ok (.ofName path)
    | some s =>
      match Uri.withoutHost s with
      | .ok s => (Uri.ofOctets s).location
      | .error host =>
        .error (.badUri ("invalid uri authority: " ++ String.ofList (Utf8.decodeLossy host)))

/-- The path of the file in which the database of a path is kept, if it is kept in one. -/
def fileOf? (path : String) : Option String :=
  match location path with
  | .ok (.file name _) => some name
  | _ => none

/-- The detours of the path of that file. -/
def detours (path : String) : List String :=
  match location path with
  | .ok (.file _ detours) => detours
  | _ => []

end Database

end Maildrop.Store
