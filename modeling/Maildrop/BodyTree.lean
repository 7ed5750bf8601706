import Maildrop.Mime.Part

/-!
# Body trees

What a reader of mail needs of a body: texts, containers of further parts in their
declared order, and parts it cannot show, of which only the content type is kept. The
tree is unfolded from the table of parts of a message
(`Maildrop.Mime.PartTable.bodyTree`).

The *gist* of a body is the first text in it that holds anything
(`Maildrop.BodyTree.gist`). A part that cannot be shown and comes before any such text
is an error, since it is then unclear what the message says.
-/

namespace Maildrop

/-- **The body of a message.** -/
inductive BodyTree where
  /-- Decoded text. -/
  | text (content : String)
  /-- Parts in their declared order. -/
  | multipart (parts : List BodyTree)
  /-- A part that is not looked into, with its content type. -/
  | unsupported (contentType : String)
  deriving Inhabited

/-- **A part that has no gist**, because nothing is known about its content type. -/
structure UnsupportedContent where
  contentType : String
  deriving DecidableEq, Repr

/-- The wording of the error. -/
def UnsupportedContent.message (e : UnsupportedContent) : String :=
  "don't know how to handle content type " ++ e.contentType

namespace BodyTree

/-! ### The gist -/

/-- A text without the line ends at its end; none if nothing is left. -/
def textGist (content : String) : Option String :=
  let t := Text.dropEndWhile (fun c => c == '\r' || c == '\n') content.toList
  if t.isEmpty then none else some (String.ofList t)

mutual

/-- **The first readable text**, unless a part that cannot be shown comes before it. -/
def gist : BodyTree → Except UnsupportedContent (Option String)
  | .text content => .ok (textGist content)
  | .multipart parts => gistOfParts parts
  | .unsupported contentType => .error ⟨contentType⟩

/-- The first readable text of parts in order. -/
def gistOfParts : List BodyTree → Except UnsupportedContent (Option String)
  | [] => .ok none
  | p :: ps =>
    match p.gist with
    | .ok none => gistOfParts ps
    | r => r

end

/-! ### The shape -/

mutual

/-- A short description: texts with their number of octets, containers with their
parts, and content types. -/
def shape : BodyTree → String
  | .text content => "text(" ++ toString content.utf8ByteSize ++ ")"
  | .multipart parts => "multipart[" ++ ",".intercalate (shapes parts) ++ "]"
  | .unsupported contentType => contentType

/-- The descriptions of parts in order. -/
def shapes : List BodyTree → List String
  | [] => []
  | p :: ps => p.shape :: shapes ps

end

end BodyTree

/-! ### Unfolding a table of parts -/

namespace Mime

/-- The content type of a part that declares none. -/
def undeclaredType : String := "application/octet-stream"

/-- The content type of a part as it is reported. -/
def Part.typeLabel (p : Part) : String :=
  match p.header.contentType? with
  | some t => String.ofList t.label
  | none => undeclaredType

/-- The tree below a part, down to so many levels of containers. Children that the table
does not hold are left out. -/
def Part.bodyTree (table : PartTable) (levels : Nat) (p : Part) : BodyTree :=
  match p.content, levels with
  | .text t, _ => .text (String.ofList t)
  | .other, _ => .unsupported p.typeLabel
  | .children _, 0 => .multipart []
  | .children ids, n + 1 => .multipart ((ids.filterMap (table[·]?)).map (bodyTree table n))

/-- **The body tree of a message**, from its table of parts. Containers nested deeper
than the table has parts cannot occur unless one of them contains itself. -/
def PartTable.bodyTree (table : PartTable) (root : Part) : BodyTree :=
  root.bodyTree table table.length

end Mime

end Maildrop
