import Maildrop.Text.Blank

/-!
# Paths

A path is a text of parts between slashes. An empty part and a single dot lead nowhere,
and a path that starts with a slash starts at the root.
-/

namespace Maildrop.Path

/-- The parts of a path; a slash at an end stands beside an empty part. -/
def parts : Text → List Text
  | [] => [[]]
  | c :: s =>
    if c = '/' then [] :: parts s
    else
      match parts s with
      | p :: ps => (c :: p) :: ps
      | [] => [[c]]

/-- The path of parts. -/
def ofParts (ps : List Text) : Text := List.intercalate ['/'] ps

/-- A part that leads nowhere. -/
def isIdle (p : Text) : Bool := p = [] || p = ['.']

/-- Parts without those at the end that lead nowhere. -/
def dropIdle (ps : List Text) : List Text := (ps.reverse.dropWhile isIdle).reverse

/-- A path without the slashes at its end. -/
def dropSlashes (path : Text) : Text := Text.dropEndWhile (· = '/') path

/-- Whether a path starts at the root. -/
def isAbsolute (path : String) : Bool := path.toList.head? = some '/'

/-- The path of the directory that a path is in; empty where that is the working
directory. The root is in no directory. -/
def parent? (path : String) : Option String :=
  match parts path.toList with
  | [] => none
  | first :: rest =>
    if (dropIdle rest).isEmpty then if first.isEmpty then none else some ""
    else
      match first, dropIdle (dropIdle rest).dropLast with
      | [], [] => some "/"
      | first, rest => some (String.ofList (ofParts (first :: rest)))

/-- The parts that have led somewhere, last one first, with one more. Two dots lead back, as far
as there is a way back. -/
def goOn (rooted : Bool) (taken : List Text) (part : Text) : List Text :=
  if isIdle part then taken
  else if part = ['.', '.'] then
    match taken with
    | [] => if rooted then [] else [part]
    | last :: before => if last = part then part :: taken else before
  else part :: taken

/-- The path of the parts that have led somewhere, last one first. -/
def ofTaken (rooted : Bool) (taken : List Text) : String :=
  String.ofList
    (if rooted then '/' :: ofParts taken.reverse
    else if taken.isEmpty then ['.'] else ofParts taken.reverse)

/-- **The path without its detours**: parts that lead nowhere are left out, and so are parts from
which the path leads back. -/
def normal (path : String) : String :=
  ofTaken (isAbsolute path) ((parts path.toList).foldl (goOn (isAbsolute path)) [])

/-- The paths, without their own detours, from which parts lead back, behind parts that have led
somewhere. -/
def detoursAlong (rooted : Bool) (taken : List Text) : List Text → List String
  | [] => []
  | part :: parts =>
    if part = ['.', '.'] then
      ofTaken rooted taken :: detoursAlong rooted (goOn rooted taken part) parts
    else detoursAlong rooted (goOn rooted taken part) parts

/-- **The detours of a path**: the paths from which it leads back. -/
def detours (path : String) : List String :=
  detoursAlong (isAbsolute path) [] (parts path.toList)

/-- The path of something in a directory. A path that starts at the root is in none. -/
def join (directory name : String) : String :=
  if isAbsolute name || directory.isEmpty then name
  else if directory.toList.getLast? = some '/' then directory ++ name
  else directory ++ "/" ++ name

end Maildrop.Path
