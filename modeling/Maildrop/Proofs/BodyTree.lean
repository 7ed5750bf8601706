import Maildrop.BodyTree

/-!
# The gist of a body, leaf by leaf

How the parts of a body are nested makes no difference to its gist. Only the *leaves*
count: its texts and the parts that cannot be shown, read depth first in declared order
(`Maildrop.BodyTree.leaves`), each text without the run of line ends at its end
(`Maildrop.BodyTree.bareLeaves`). Of these the first that is not an empty text decides
(`Maildrop.BodyTree.gist_eq_ofLeaf`), so the gist can be found by one pass over a list
(`Maildrop.BodyTree.gist_scan`).

What makes this true is that a container without any text passes the question on to what
comes behind it, and that an empty container has nothing to ask.
-/

namespace Maildrop

namespace Text

/-- A character that ends a line. -/
def isLineEnd (c : Char) : Bool := c == '\r' || c == '\n'

/-- The text without the run of line ends at its end. -/
def dropLineEnds (s : String) : String := String.ofList (dropEndWhile isLineEnd s.toList)

/-- What is left of a text does not end in a line end. -/
theorem getLast?_dropLineEnds (s : String) :
    ∀ c ∈ (dropLineEnds s).toList.getLast?, c ≠ '\r' ∧ c ≠ '\n' := by
  intro c hc
  rw [dropLineEnds, String.toList_ofList, dropEndWhile, List.getLast?_reverse] at hc
  have hnot := List.head?_dropWhile_not isLineEnd s.toList.reverse
  rw [hc] at hnot
  simpa [isLineEnd] using hnot

/-- What is dropped are line ends, and nothing else is. -/
theorem dropLineEnds_append (s : String) :
    ∃ ends, dropLineEnds s ++ ends = s ∧ ∀ c ∈ ends.toList, c = '\r' ∨ c = '\n' := by
  obtain ⟨ends, happend, hends⟩ := exists_dropEndWhile_append isLineEnd s.toList
  refine ⟨String.ofList ends, ?_, fun c hc => ?_⟩
  · rw [dropLineEnds, ← String.ofList_append, happend, String.ofList_toList]
  · rw [String.toList_ofList] at hc
    simpa [isLineEnd] using hends c hc

end Text

namespace BodyTree

/-! ### Leaves -/

/-- **A leaf of a body**: what a part says that holds no further parts. -/
inductive Leaf where
  /-- Decoded text. -/
  | text (content : String)
  /-- A part that is not looked into, with its content type. -/
  | unsupported (contentType : String)
  deriving DecidableEq

/-- A leaf with its text as a reader takes it, without the line ends at its end. -/
def Leaf.bare : Leaf → Leaf
  | .text content => .text (Text.dropLineEnds content)
  | .unsupported contentType => .unsupported contentType

mutual

/-- **The leaves of a body**, depth first and in declared order. -/
def leaves : BodyTree → List Leaf
  | .text content => [.text content]
  | .multipart parts => leavesOfParts parts
  | .unsupported contentType => [.unsupported contentType]

/-- The leaves of parts in order. -/
def leavesOfParts : List BodyTree → List Leaf
  | [] => []
  | p :: ps => p.leaves ++ leavesOfParts ps

end

/-- The leaves of a body, each text without the line ends at its end. -/
def bareLeaves (t : BodyTree) : List Leaf := t.leaves.map Leaf.bare

/-! ### The leaf that decides -/

/-- A leaf that decides what the gist is: anything but an empty text. -/
def Leaf.decides (l : Leaf) : Bool := l ≠ .text ""

theorem Leaf.not_decides_iff {l : Leaf} : !l.decides ↔ l = .text "" := by
  simp [decides]

/-- The gist of a body in which this leaf decides, or in which none does. -/
def ofLeaf : Option Leaf → Except UnsupportedContent (Option String)
  | none => .ok none
  | some (.text content) => .ok (some content)
  | some (.unsupported contentType) => .error ⟨contentType⟩

/-- What the gist is says which leaf has decided. -/
theorem ofLeaf_injective : Function.Injective ofLeaf := by
  rintro (_ | _ | _) (_ | _ | _) h <;> simp_all [ofLeaf]

/-- The gist of a text is the text without the line ends at its end, unless that is empty. -/
theorem textGist_eq (content : String) :
    textGist content =
      if Text.dropLineEnds content = "" then none else some (Text.dropLineEnds content) := by
  have hempty : (Text.dropEndWhile Text.isLineEnd content.toList).isEmpty ↔
      Text.dropLineEnds content = "" := by
    rw [List.isEmpty_iff, Text.dropLineEnds, String.ofList_eq_empty_iff]
  simp only [← hempty]
  rfl

theorem gist_text (content : String) :
    (text content).gist = ofLeaf ([Leaf.text (Text.dropLineEnds content)].find? Leaf.decides) := by
  rw [gist, textGist_eq, List.find?_singleton]
  by_cases h : Text.dropLineEnds content = ""
  · rw [if_pos h, h]
    rfl
  · have hdecides : (Leaf.text (Text.dropLineEnds content)).decides := by
      simpa [Leaf.decides] using h
    rw [if_neg h, hdecides]
    rfl

/-- Parts in order are asked one after the other, until a leaf decides. -/
theorem ofLeaf_or (l r : Option Leaf) :
    ofLeaf (l.or r) = match ofLeaf l with
      | .ok none => ofLeaf r
      | x => x := by
  rcases l with _ | (_ | _) <;> rfl

mutual

/-- **The first leaf that is not an empty text decides what the gist is.** -/
theorem gist_eq_ofLeaf : ∀ t : BodyTree, t.gist = ofLeaf (t.bareLeaves.find? Leaf.decides)
  | .text content => gist_text content
  | .multipart parts => gistOfParts_eq_ofLeaf parts
  | .unsupported _ => rfl

/-- The same for parts in order. -/
theorem gistOfParts_eq_ofLeaf :
    ∀ ps : List BodyTree,
      gistOfParts ps = ofLeaf (((leavesOfParts ps).map Leaf.bare).find? Leaf.decides)
  | [] => rfl
  | p :: ps => by
    rw [gistOfParts, gist_eq_ofLeaf p, gistOfParts_eq_ofLeaf ps, leavesOfParts, List.map_append,
      List.find?_append, ofLeaf_or]
    rfl

end

/-- What the gist is and which leaf decides say the same. -/
theorem gist_eq_iff {t : BodyTree} {l : Option Leaf} :
    t.gist = ofLeaf l ↔ t.bareLeaves.find? Leaf.decides = l := by
  rw [gist_eq_ofLeaf, ofLeaf_injective.eq_iff]

/-- A leaf decides if it is not an empty text and only empty texts come before it. -/
theorem find?_decides_eq_some_iff {ls : List Leaf} {l : Leaf} :
    ls.find? Leaf.decides = some l ↔
      l ≠ .text "" ∧ ∃ before after, ls = before ++ l :: after ∧ ∀ x ∈ before, x = .text "" := by
  simp only [List.find?_eq_some_iff_append, Leaf.not_decides_iff]
  rw [Leaf.decides, decide_eq_true_iff]

/-- A bare text comes of a text of the body, and is all of it but line ends. -/
theorem exists_mem_leaves {tree : BodyTree} {t : String} (h : Leaf.text t ∈ tree.bareLeaves) :
    ∃ content, Leaf.text content ∈ tree.leaves ∧ Text.dropLineEnds content = t := by
  obtain ⟨content | contentType, hmem, hbare⟩ := List.mem_map.mp h
  · exact ⟨content, hmem, Leaf.text.inj hbare⟩
  · exact absurd hbare (by simp [Leaf.bare])

/-- **The gist of a body is found by one pass over its leaves**: it is the first text that is
not empty, an error if a part that cannot be shown comes before every such text, and nothing
if there is neither. So bodies with the same leaves have the same gist, however their parts
are nested. A gist has something in it and no line end at its end, and is a text of the body
up to such line ends. -/
theorem gist_scan (tree : BodyTree) :
    (∀ t, tree.gist = .ok (some t) ↔
      t ≠ "" ∧ ∃ before after, tree.bareLeaves = before ++ .text t :: after ∧
        ∀ l ∈ before, l = .text "") ∧
    (∀ e, tree.gist = .error e ↔
      ∃ before after, tree.bareLeaves = before ++ .unsupported e.contentType :: after ∧
        ∀ l ∈ before, l = .text "") ∧
    (tree.gist = .ok none ↔ ∀ l ∈ tree.bareLeaves, l = .text "") ∧
    (∀ other : BodyTree, other.bareLeaves = tree.bareLeaves → other.gist = tree.gist) ∧
    ∀ t, tree.gist = .ok (some t) →
      t ≠ "" ∧ (∀ c ∈ t.toList.getLast?, c ≠ '\r' ∧ c ≠ '\n') ∧
        ∃ ends, Leaf.text (t ++ ends) ∈ tree.leaves ∧ ∀ c ∈ ends.toList, c = '\r' ∨ c = '\n' := by
  have htext : ∀ t, tree.gist = .ok (some t) ↔
      t ≠ "" ∧ ∃ before after, tree.bareLeaves = before ++ .text t :: after ∧
        ∀ l ∈ before, l = .text "" := fun t => by
    refine (gist_eq_iff (l := some (.text t))).trans ?_
    rw [find?_decides_eq_some_iff, ne_eq, Leaf.text.injEq]
  refine ⟨htext, fun e => ?_, ?_, fun other h => ?_, fun t ht => ?_⟩
  · refine (gist_eq_iff (l := some (.unsupported e.contentType))).trans ?_
    rw [find?_decides_eq_some_iff]
    exact and_iff_right (by simp)
  · refine (gist_eq_iff (l := none)).trans ?_
    simp [Leaf.decides]
  · rw [gist_eq_ofLeaf, gist_eq_ofLeaf, h]
  · obtain ⟨hne, before, after, hleaves, -⟩ := (htext t).mp ht
    have hbare : Leaf.text t ∈ tree.bareLeaves := by simp [hleaves]
    obtain ⟨content, hmem, rfl⟩ := exists_mem_leaves hbare
    obtain ⟨ends, happend, hends⟩ := Text.dropLineEnds_append content
    exact ⟨hne, Text.getLast?_dropLineEnds content, ends, by rwa [happend], hends⟩

/-- An empty text and an empty container are passed over, and what comes behind a text is not
looked at. -/
example : gist (.multipart [.text "\r\n", .multipart [], .text "second\r\n",
    .unsupported "image/png"]) = .ok (some "second") := rfl

end BodyTree

end Maildrop
