import Maildrop.Proofs.BodyTree
import Maildrop.Proofs.Envelope
import Mathlib.Data.List.Perm.Subperm
import Mathlib.Data.List.TakeWhile
import Mathlib.Logic.Relation

/-!
# Unfolding a table of parts

The parts of a message are kept in a table, and a container lists its children by number. Nothing
in a table keeps such a list from naming a part twice, a part that does not exist, or the container
itself. What the table means as a tree is said by a relation: a part *unfolds* to a tree and to its
leaf parts, both in declared order (`Maildrop.Mime.Unfolds`).

A part unfolds in one way at most (`Maildrop.Mime.Unfolds.unique`), and the message does if and only
if no part of it is its own descendant (`Maildrop.Mime.PartTable.exists_unfolds_iff_acyclic`). In
one direction the tree of a descendant is smaller than that of the part above it; in the other the
parts above one another are different parts of the table, so that there are no more levels than
parts. This is why the reader, which counts the levels, finds the tree
(`Maildrop.Mime.PartTable.unfolding`).
-/

namespace Maildrop

/-- The body of an envelope is the tree of the table that its octets have been read into. -/
theorem Envelope.body_of_parse {raw : Bytes} {root : Mime.Part} {parts : Mime.PartTable}
    {e : Envelope} (hraw : Mime.PartTable.ofBytes? raw = some (root :: parts))
    (he : Envelope.parse raw = .ok e) : e.body = Mime.PartTable.bodyTree (root :: parts) root := by
  obtain ⟨-, root', parts', hread, -, rfl⟩ := parse_eq_ok_iff.mp he
  obtain ⟨rfl, rfl⟩ := List.cons.inj (Option.some.inj (hraw.symm.trans hread))
  rfl

namespace Mime

open Relation (ReflTransGen TransGen)

/-! ### Parts below one another -/

namespace PartTable

variable {table : PartTable} {i j : Nat}

/-- **Part `j` is a child of part `i`**: a container that lists it, and it is in the table. -/
def Child (table : PartTable) (i j : Nat) : Prop :=
  ∃ p ids, table[i]? = some p ∧ p.content = .children ids ∧ j ∈ ids ∧ j < table.length

/-- **No part of the message is its own descendant.** -/
def Acyclic (table : PartTable) : Prop :=
  ∀ i, ReflTransGen table.Child 0 i → ¬TransGen table.Child i i

/-- A part that has descendants is in the table. -/
theorem lt_length_of_transGen (h : TransGen table.Child i j) : i < table.length := by
  obtain ⟨_, ⟨p, ids, hp, -⟩, -⟩ := TransGen.head'_iff.mp h
  exact (List.getElem?_eq_some_iff.mp hp).1

/-- **A table is without cycles** if every container has a lower rank than its children. -/
theorem acyclic_of_rank (rank : Nat → Nat) (h : ∀ i j, table.Child i j → rank i < rank j) :
    table.Acyclic := by
  have hlt : ∀ {i j}, TransGen table.Child i j → rank i < rank j := by
    intro i j hpath
    induction hpath with
    | single hchild => exact h _ _ hchild
    | tail _ hchild ih => exact Nat.lt_trans ih (h _ _ hchild)
  exact fun i _ hcycle => absurd (hlt hcycle) (Nat.lt_irrefl _)

end PartTable

/-! ### The tree of a part -/

/-- **What a part declares to be**: its type and subtype, its type if there is no subtype, and
something unknown if it declares nothing. -/
inductive Part.Declares (p : Part) : String → Prop
  | subtype {t : ContentType} {subtype : Text} (declared : p.header.contentType? = some t)
    (named : t.subtype = some subtype) : Declares p (String.ofList (t.kind ++ '/' :: subtype))
  | kind {t : ContentType} (declared : p.header.contentType? = some t)
    (unnamed : t.subtype = none) : Declares p (String.ofList t.kind)
  | undeclared (missing : p.header.contentType? = none) : Declares p "application/octet-stream"

/-- A part declares what is reported of it, and nothing else. -/
theorem Part.declares_iff {p : Part} {label : String} : p.Declares label ↔ label = p.typeLabel := by
  rw [typeLabel]
  constructor
  · rintro (⟨ht, hs⟩ | ⟨ht, hs⟩ | ht)
    · simp only [ht, ContentType.label, hs]
    · simp only [ht, ContentType.label, hs]
    · rw [ht, undeclaredType]
  · rintro rfl
    split
    · next t ht =>
      rw [ContentType.label]
      split
      · next hs => exact .subtype ht hs
      · next hs => exact .kind ht hs
    · next ht => exact .undeclared ht

mutual

/-- **A part unfolds to a tree and its leaf parts.** A text is what it says, and something that is
not looked into is what it declares to be. -/
inductive Unfolds (table : PartTable) : Part → BodyTree → List Part → Prop
  | text {p : Part} {t : Text} (content : p.content = .text t) :
    Unfolds table p (.text (String.ofList t)) [p]
  | other {p : Part} {label : String} (content : p.content = .other)
    (declared : p.Declares label) : Unfolds table p (.unsupported label) [p]
  | children {p : Part} {ids : List Nat} {trees : List BodyTree} {leaves : List Part}
    (content : p.content = .children ids) (below : UnfoldsEach table ids trees leaves) :
    Unfolds table p (.multipart trees) leaves

/-- The children of a container unfold, one tree for each that exists, in the order in which they
are listed. -/
inductive UnfoldsEach (table : PartTable) : List Nat → List BodyTree → List Part → Prop
  | nil : UnfoldsEach table [] [] []
  | dangling {id : Nat} {ids : List Nat} {trees : List BodyTree} {leaves : List Part}
    (absent : table[id]? = none) (rest : UnfoldsEach table ids trees leaves) :
    UnfoldsEach table (id :: ids) trees leaves
  | child {id : Nat} {ids : List Nat} {p : Part} {tree : BodyTree} {trees : List BodyTree}
    {leaves others : List Part} (present : table[id]? = some p)
    (below : Unfolds table p tree leaves) (rest : UnfoldsEach table ids trees others) :
    UnfoldsEach table (id :: ids) (tree :: trees) (leaves ++ others)

end

variable {table : PartTable} {p : Part}

mutual

/-- **A part unfolds in one way at most.** -/
theorem Unfolds.unique {p : Part} {tree tree' : BodyTree} {leaves leaves' : List Part}
    (h : Unfolds table p tree leaves) (h' : Unfolds table p tree' leaves') :
    tree' = tree ∧ leaves' = leaves := by
  cases h with
  | text hp => cases h' <;> simp_all
  | other hp hd =>
    cases h' with
    | other hp' hd' =>
      rw [Part.declares_iff] at hd hd'
      rw [hd, hd']
      exact ⟨rfl, rfl⟩
    | _ => simp_all
  | children hp below =>
    cases h' with
    | children hp' below' =>
      obtain rfl := Content.children.inj (hp'.symm.trans hp)
      obtain ⟨rfl, rfl⟩ := below.unique below'
      exact ⟨rfl, rfl⟩
    | _ => simp_all

/-- So do the children of a container. -/
theorem UnfoldsEach.unique {ids : List Nat} {trees trees' : List BodyTree}
    {leaves leaves' : List Part} (h : UnfoldsEach table ids trees leaves)
    (h' : UnfoldsEach table ids trees' leaves') : trees' = trees ∧ leaves' = leaves := by
  cases h with
  | nil => cases h'; exact ⟨rfl, rfl⟩
  | dangling habsent rest =>
    cases h' with
    | dangling _ rest' => exact rest.unique rest'
    | child hpresent _ _ => exact absurd (habsent.symm.trans hpresent) (by simp)
  | child hpresent below rest =>
    cases h' with
    | dangling habsent _ => exact absurd (habsent.symm.trans hpresent) (by simp)
    | child hpresent' below' rest' =>
      obtain rfl := Option.some.inj (hpresent'.symm.trans hpresent)
      obtain ⟨rfl, rfl⟩ := below.unique below'
      obtain ⟨rfl, rfl⟩ := rest.unique rest'
      exact ⟨rfl, rfl⟩

end

/-! ### Which parts unfold -/

/-- A child unfolds to a tree of the container it is in. -/
theorem UnfoldsEach.exists_of_mem {ids : List Nat} {trees : List BodyTree} {leaves : List Part}
    (h : UnfoldsEach table ids trees leaves) {j : Nat} (hj : j ∈ ids) {q : Part}
    (hq : table[j]? = some q) : ∃ tree ∈ trees, ∃ leaves, Unfolds table q tree leaves := by
  cases h with
  | nil => exact absurd hj List.not_mem_nil
  | dangling habsent rest =>
    rcases List.mem_cons.mp hj with rfl | hj
    · exact absurd (habsent.symm.trans hq) (by simp)
    · exact rest.exists_of_mem hj hq
  | child hpresent below rest =>
    rcases List.mem_cons.mp hj with rfl | hj
    · obtain rfl := Option.some.inj (hpresent.symm.trans hq)
      exact ⟨_, List.mem_cons_self, _, below⟩
    · obtain ⟨tree, htree, hunfolds⟩ := rest.exists_of_mem hj hq
      exact ⟨tree, List.mem_cons_of_mem _ htree, hunfolds⟩

/-- The number of the part at a place of the table, and what it unfolds to. -/
def UnfoldsAt (table : PartTable) (i : Nat) (tree : BodyTree) : Prop :=
  ∃ p leaves, table[i]? = some p ∧ Unfolds table p tree leaves

/-- Below a part that unfolds, a child unfolds to a smaller tree. -/
theorem UnfoldsAt.child {i j : Nat} {tree : BodyTree} (h : UnfoldsAt table i tree)
    (hchild : table.Child i j) : ∃ tree', UnfoldsAt table j tree' ∧ sizeOf tree' < sizeOf tree := by
  obtain ⟨p, leaves, hp, hunfolds⟩ := h
  obtain ⟨p', ids, hp', hids, hj, hlt⟩ := hchild
  obtain rfl := Option.some.inj (hp.symm.trans hp')
  cases hunfolds with
  | children hids' below =>
    obtain rfl := Content.children.inj (hids'.symm.trans hids)
    obtain ⟨tree, htree, leaves, hbelow⟩ := below.exists_of_mem hj (List.getElem?_eq_getElem hlt)
    refine ⟨tree, ⟨_, leaves, List.getElem?_eq_getElem hlt, hbelow⟩, ?_⟩
    have := List.sizeOf_lt_of_mem htree
    rw [BodyTree.multipart.sizeOf_spec]
    omega
  | _ => simp_all

/-- So does every descendant. -/
theorem UnfoldsAt.descendant {i j : Nat} {tree : BodyTree} (h : UnfoldsAt table i tree)
    (hpath : TransGen table.Child i j) :
    ∃ tree', UnfoldsAt table j tree' ∧ sizeOf tree' < sizeOf tree := by
  induction hpath with
  | single hchild => exact h.child hchild
  | tail _ hchild ih =>
    obtain ⟨_, hat, hlt⟩ := ih
    obtain ⟨tree', hat', hlt'⟩ := hat.child hchild
    exact ⟨tree', hat', Nat.lt_trans hlt' hlt⟩

/-- **A part that unfolds is not its own descendant**: its tree would be smaller than itself. -/
theorem UnfoldsAt.not_transGen {i : Nat} {tree : BodyTree} (h : UnfoldsAt table i tree) :
    ¬TransGen table.Child i i := by
  intro hcycle
  obtain ⟨tree', ⟨p', _, hp', h'⟩, hlt⟩ := h.descendant hcycle
  obtain ⟨p, _, hp, h⟩ := h
  obtain rfl := Option.some.inj (hp.symm.trans hp')
  obtain ⟨rfl, -⟩ := h.unique h'
  exact absurd hlt (Nat.lt_irrefl _)

/-- If the children of a container that exist unfold, the container does. -/
theorem UnfoldsEach.of_forall {f : Part → BodyTree} {ids : List Nat}
    (h : ∀ j ∈ ids, ∀ q, table[j]? = some q → ∃ leaves, Unfolds table q (f q) leaves) :
    ∃ leaves, UnfoldsEach table ids ((ids.filterMap (table[·]?)).map f) leaves := by
  induction ids with
  | nil => exact ⟨[], .nil⟩
  | cons j ids ih =>
    obtain ⟨hj, hids⟩ := List.forall_mem_cons.mp h
    obtain ⟨others, hrest⟩ := ih hids
    rcases hq : table[j]? with _ | q
    · rw [List.filterMap_cons_none hq]
      exact ⟨others, .dangling hq hrest⟩
    · rw [List.filterMap_cons_some hq]
      obtain ⟨leaves, hbelow⟩ := hj q hq
      exact ⟨leaves ++ others, .child hq hbelow hrest⟩

/-- **The reader finds what a part unfolds to** if it may go down as many levels as there are parts
that are not above the part. The parts above are listed without repetition, since none of them is
its own descendant. -/
theorem unfolds_bodyTree (h : table.Acyclic) {levels i : Nat} {above : List Nat}
    (hp : table[i]? = some p) (hreached : ReflTransGen table.Child 0 i) (hnodup : above.Nodup)
    (habove : ∀ a ∈ above, TransGen table.Child a i)
    (hlevels : table.length ≤ levels + above.length) :
    ∃ leaves, Unfolds table p (p.bodyTree table levels) leaves := by
  have hself : i ∉ above := fun hmem => h i hreached (habove i hmem)
  induction levels generalizing i p above with
  | zero =>
    -- the part and those above it are more than the table has
    have hsubset : i :: above ⊆ List.range table.length := by
      rintro a ha
      rw [List.mem_range]
      rcases List.mem_cons.mp ha with rfl | ha
      · exact (List.getElem?_eq_some_iff.mp hp).1
      · exact PartTable.lt_length_of_transGen (habove a ha)
    have hle := (List.subperm_of_subset (List.nodup_cons.mpr ⟨hself, hnodup⟩) hsubset).length_le
    rw [List.length_range, List.length_cons] at hle
    omega
  | succ n ih =>
    rcases hcontent : p.content with t | ids | _
    · rw [Part.bodyTree.eq_def, hcontent]
      exact ⟨[p], .text hcontent⟩
    · have hchildren : ∀ j ∈ ids, ∀ q, table[j]? = some q →
          ∃ leaves, Unfolds table q (q.bodyTree table n) leaves := by
        intro j hj q hq
        have hchild : table.Child i j :=
          ⟨p, ids, hp, hcontent, hj, (List.getElem?_eq_some_iff.mp hq).1⟩
        have hreached' : ReflTransGen table.Child 0 j := hreached.tail hchild
        have habove' : ∀ a ∈ i :: above, TransGen table.Child a j := by
          rintro a ha
          rcases List.mem_cons.mp ha with rfl | ha
          · exact .single hchild
          · exact (habove a ha).tail hchild
        refine ih hq hreached' (List.nodup_cons.mpr ⟨hself, hnodup⟩) habove' ?_ fun hmem =>
          h j hreached' (habove' j hmem)
        rw [List.length_cons]
        omega
      obtain ⟨leaves, hbelow⟩ := UnfoldsEach.of_forall hchildren
      rw [Part.bodyTree.eq_def, hcontent]
      exact ⟨leaves, .children hcontent hbelow⟩
    · rw [Part.bodyTree.eq_def, hcontent]
      exact ⟨[p], .other hcontent (Part.declares_iff.mpr rfl)⟩

/-- Above the message there is no part, so the levels are enough that the table has parts. -/
theorem unfolds_root {root : Part} {parts : PartTable} (h : PartTable.Acyclic (root :: parts))
    {levels : Nat} (hlevels : (root :: parts).length ≤ levels) :
    ∃ leaves, Unfolds (root :: parts) root (root.bodyTree (root :: parts) levels) leaves := by
  have hnone : ∀ a ∈ ([] : List Nat), TransGen (PartTable.Child (root :: parts)) a 0 := by simp
  exact unfolds_bodyTree h rfl .refl List.nodup_nil hnone hlevels

/-- **The message unfolds if and only if no part of it is its own descendant.** -/
theorem PartTable.exists_unfolds_iff_acyclic {root : Part} {parts : PartTable} :
    (∃ tree leaves, Unfolds (root :: parts) root tree leaves) ↔
      PartTable.Acyclic (root :: parts) := by
  constructor
  · rintro ⟨tree, leaves, h⟩ i hreached
    have hroot : UnfoldsAt (root :: parts) 0 tree := ⟨root, leaves, rfl, h⟩
    rcases Relation.reflTransGen_iff_eq_or_transGen.mp hreached with rfl | hpath
    · exact hroot.not_transGen
    · obtain ⟨_, hat, -⟩ := hroot.descendant hpath
      exact hat.not_transGen
  · intro h
    obtain ⟨leaves, hunfolds⟩ := unfolds_root h (Nat.le_refl _)
    exact ⟨_, leaves, hunfolds⟩

/-! ### The part that decides -/

/-- **A part that says nothing**: a text of line ends only. -/
def Part.Silent (p : Part) : Prop :=
  ∃ t, p.content = .text t ∧ ∀ c ∈ t, c = '\r' ∨ c = '\n'

/-- **The first part that says something**: everything before it is silent. -/
def SpeaksFirst (leaves : List Part) (q : Part) : Prop :=
  ∃ before after, leaves = before ++ q :: after ∧ (∀ x ∈ before, x.Silent) ∧ ¬q.Silent

/-- Of parts in order all are silent, or one of them is the first that is not. -/
theorem silent_or_exists_speaksFirst (leaves : List Part) :
    (∀ q ∈ leaves, q.Silent) ∨ ∃ q, SpeaksFirst leaves q := by
  induction leaves with
  | nil => exact .inl (by simp)
  | cons p leaves ih =>
    by_cases hp : p.Silent
    · rcases ih with hall | ⟨q, before, after, rfl, hbefore, hq⟩
      · exact .inl (List.forall_mem_cons.mpr ⟨hp, hall⟩)
      · exact .inr ⟨q, p :: before, after, rfl, List.forall_mem_cons.mpr ⟨hp, hbefore⟩, hq⟩
    · exact .inr ⟨p, [], leaves, rfl, by simp, hp⟩

/-- The leaf of a tree that a leaf part becomes. -/
def Part.leaf (p : Part) : BodyTree.Leaf :=
  match p.content with
  | .text t => .text (String.ofList t)
  | _ => .unsupported p.typeLabel

mutual

/-- **The leaves of the tree are the leaf parts**, in the same order. -/
theorem Unfolds.leaves_eq : ∀ {p : Part} {tree : BodyTree} {leaves : List Part},
    Unfolds table p tree leaves → tree.leaves = leaves.map Part.leaf
  | _, _, _, .text hp => by rw [BodyTree.leaves, List.map_singleton, Part.leaf, hp]
  | _, _, _, .other hp hd => by
    rw [BodyTree.leaves, List.map_singleton, Part.leaf, hp, Part.declares_iff.mp hd]
  | _, _, _, .children _ below => by rw [BodyTree.leaves, below.leaves_eq]

/-- The same for the children of a container. -/
theorem UnfoldsEach.leaves_eq : ∀ {ids : List Nat} {trees : List BodyTree} {leaves : List Part},
    UnfoldsEach table ids trees leaves → BodyTree.leavesOfParts trees = leaves.map Part.leaf
  | _, _, _, .nil => rfl
  | _, _, _, .dangling _ rest => rest.leaves_eq
  | _, _, _, .child _ below rest => by
    rw [BodyTree.leavesOfParts, below.leaves_eq, rest.leaves_eq, List.map_append]

end

mutual

/-- A leaf part has no parts inside. -/
theorem Unfolds.content_of_mem : ∀ {p : Part} {tree : BodyTree} {leaves : List Part},
    Unfolds table p tree leaves → ∀ q ∈ leaves, (∃ t, q.content = .text t) ∨ q.content = .other
  | _, _, _, .text hp => fun _ hq => .inl ⟨_, List.mem_singleton.mp hq ▸ hp⟩
  | _, _, _, .other hp _ => fun _ hq => .inr (List.mem_singleton.mp hq ▸ hp)
  | _, _, _, .children _ below => below.content_of_mem

/-- The same for the children of a container. -/
theorem UnfoldsEach.content_of_mem :
    ∀ {ids : List Nat} {trees : List BodyTree} {leaves : List Part},
    UnfoldsEach table ids trees leaves →
      ∀ q ∈ leaves, (∃ t, q.content = .text t) ∨ q.content = .other
  | _, _, _, .nil => fun _ hq => absurd hq List.not_mem_nil
  | _, _, _, .dangling _ rest => rest.content_of_mem
  | _, _, _, .child _ below rest => fun q hq =>
    (List.mem_append.mp hq).elim (below.content_of_mem q) (rest.content_of_mem q)

end

/-- Nothing but line ends is left of a text if and only if it has nothing else. -/
theorem dropLineEnds_eq_empty_iff {t : Text} :
    Text.dropLineEnds (String.ofList t) = "" ↔ ∀ c ∈ t, c = '\r' ∨ c = '\n' := by
  rw [Text.dropLineEnds, String.toList_ofList, String.ofList_eq_empty_iff, Text.dropEndWhile,
    List.reverse_eq_nil_iff, List.dropWhile_eq_nil_iff]
  simp [Text.isLineEnd]

/-- A part is silent if and only if its leaf is an empty text. -/
theorem Part.bare_leaf_eq_iff {q : Part} : q.leaf.bare = .text "" ↔ q.Silent := by
  rw [leaf, Silent]
  split
  · next t ht =>
    rw [BodyTree.Leaf.bare, BodyTree.Leaf.text.injEq, dropLineEnds_eq_empty_iff, ht]
    simp
  · next hnot =>
    refine iff_of_false (by simp [BodyTree.Leaf.bare]) ?_
    rintro ⟨t, ht, -⟩
    exact hnot t ht

/-- **The first part that says something decides what the gist is**, and there is no gist if no part
does. -/
theorem Unfolds.gist {p : Part} {tree : BodyTree} {leaves : List Part}
    (h : Unfolds table p tree leaves) :
    ((∀ q ∈ leaves, q.Silent) → tree.gist = .ok none) ∧
    ∀ q, SpeaksFirst leaves q →
      (∀ t, q.content = .text t →
        tree.gist = .ok (some (Text.dropLineEnds (String.ofList t)))) ∧
      ∀ label, q.content = .other → q.Declares label → tree.gist = .error ⟨label⟩ := by
  have hbare : tree.bareLeaves = leaves.map fun q => q.leaf.bare := by
    rw [BodyTree.bareLeaves, h.leaves_eq, List.map_map]
    rfl
  constructor
  · intro hall
    refine (BodyTree.gist_eq_iff (l := none)).mpr (List.find?_eq_none.mpr ?_)
    rw [hbare]
    exact List.forall_mem_map.mpr fun q hq => by
      simp [BodyTree.Leaf.decides, Part.bare_leaf_eq_iff.mpr (hall q hq)]
  · rintro q ⟨before, after, rfl, hbefore, hq⟩
    have hdecides : tree.bareLeaves.find? BodyTree.Leaf.decides = some q.leaf.bare := by
      rw [hbare, List.map_append, List.map_cons, BodyTree.find?_decides_eq_some_iff]
      exact ⟨fun hempty => hq (Part.bare_leaf_eq_iff.mp hempty), _, _, rfl,
        List.forall_mem_map.mpr fun q hq => Part.bare_leaf_eq_iff.mpr (hbefore q hq)⟩
    have hgist := BodyTree.gist_eq_iff.mpr hdecides
    constructor
    · intro t ht
      rw [hgist, Part.leaf, ht]
      rfl
    · intro label hother hlabel
      rw [hgist, Part.leaf, hother, Part.declares_iff.mp hlabel]
      rfl

/-! ### What the reader finds -/

/-- **A message is what its table unfolds to.** In a table in which no part is its own descendant,
the message unfolds to a tree and to its leaf parts, and to nothing else. The tree is what the
reader finds, however many levels more it is allowed, and it is the body of the envelope. So the
gist of the envelope is decided by the first leaf part that is not a text of line ends: it is the
text without the line ends at its end, or an error that says what a part declares to be that cannot
be shown. -/
theorem PartTable.unfolding {root : Part} {parts : PartTable}
    (h : PartTable.Acyclic (root :: parts)) :
    ∃ tree leaves,
      (∀ tree' leaves', Unfolds (root :: parts) root tree' leaves' ↔
        tree' = tree ∧ leaves' = leaves) ∧
      PartTable.bodyTree (root :: parts) root = tree ∧
      (∀ levels, (root :: parts).length ≤ levels → root.bodyTree (root :: parts) levels = tree) ∧
      (∀ raw e, PartTable.ofBytes? raw = some (root :: parts) → Envelope.parse raw = .ok e →
        e.body = tree ∧ e.gist = tree.gist) ∧
      ((∀ q ∈ leaves, q.Silent) → tree.gist = .ok none) ∧
      (∀ q, SpeaksFirst leaves q →
        (∀ t, q.content = .text t →
          tree.gist = .ok (some (Text.dropLineEnds (String.ofList t)))) ∧
        ∀ label, q.content = .other → q.Declares label → tree.gist = .error ⟨label⟩) ∧
      ((∀ q ∈ leaves, q.Silent) ∨ ∃ q, SpeaksFirst leaves q ∧
        ((∃ t, q.content = .text t) ∨ q.content = .other ∧ ∃ label, q.Declares label)) := by
  obtain ⟨leaves, htree⟩ := unfolds_root h (Nat.le_refl _)
  refine ⟨PartTable.bodyTree (root :: parts) root, leaves, fun tree' leaves' => ⟨htree.unique, ?_⟩,
    rfl, fun levels hlevels => ?_, fun raw e hraw he => ?_, htree.gist.1, htree.gist.2, ?_⟩
  · rintro ⟨rfl, rfl⟩
    exact htree
  · obtain ⟨_, htree'⟩ := unfolds_root h hlevels
    exact (htree.unique htree').1
  · have hbody : e.body = PartTable.bodyTree (root :: parts) root := Envelope.body_of_parse hraw he
    exact ⟨hbody, congrArg BodyTree.gist hbody⟩
  · refine (silent_or_exists_speaksFirst leaves).imp id ?_
    rintro ⟨q, hq⟩
    have hmem : q ∈ leaves := by
      obtain ⟨before, after, rfl, -⟩ := hq
      simp
    refine ⟨q, hq, (htree.content_of_mem q hmem).imp id fun hother => ?_⟩
    exact ⟨hother, _, Part.declares_iff.mpr rfl⟩

/-- A container may list a part that does not exist, and one that other containers have listed. -/
theorem PartTable.unfolding_repeated :
    let root : Part := ⟨[], .children [2, 7, 1]⟩
    let table : PartTable := [root, ⟨[], .text "a\n".toList⟩, ⟨[], .children [1, 3]⟩, ⟨[], .other⟩]
    table.Acyclic ∧ ∃ leaves, Unfolds table root
      (.multipart [.multipart [.text "a\n", .unsupported "application/octet-stream"], .text "a\n"])
      leaves := by
  intro root table
  have hacyclic : table.Acyclic := by
    refine acyclic_of_rank (fun i => [0, 2, 1].getD i 2) ?_
    rintro i j ⟨p, ids, hp, hids, hj, -⟩
    obtain ⟨hi, rfl⟩ := List.getElem?_eq_some_iff.mp hp
    have hcases : i = 0 ∨ i = 1 ∨ i = 2 ∨ i = 3 := by
      change i < 4 at hi
      omega
    rcases hcases with rfl | rfl | rfl | rfl <;> cases hids <;> revert j <;> decide
  obtain ⟨tree, leaves, hunfolds, hread, -⟩ := PartTable.unfolding hacyclic
  exact ⟨hacyclic, leaves, (hunfolds _ _).mpr ⟨Eq.trans rfl hread, rfl⟩⟩

end Mime

end Maildrop
