import Maildrop.Mailbox.HeaderBlock
import Mathlib.Data.List.Basic

/-!
# The two halves of a message

A message is cut into its header block and its body without losing or gaining an octet of
the body. The cut is behind the first line that is empty or a lone carriage return: what
stands before it is the *head* of the message (`Maildrop.Mailbox.IsHead`), the shortest
beginning that ends with such a line, or the whole message if it has none. The body is what
is left, and the header block is made of the lines of the head that are not empty, each with
a single line feed behind it (`Maildrop.Mailbox.split_partition`).

The reader goes through the message octet by octet. Its laws are said line by line instead,
for a last line without a line feed and for a line with one, and everything else follows by
induction on lines (`Maildrop.Mailbox.lines_induction`).
-/

namespace Maildrop.Mailbox

open Ascii (lf cr)

/-! ### Lines -/

/-- **Induction on lines**: octets are a last line without a line feed, or a line with one
before other octets. -/
@[elab_as_elim]
theorem lines_induction {motive : Bytes → Prop} (last : ∀ l, lf ∉ l → motive l)
    (line : ∀ l s, lf ∉ l → motive s → motive (l ++ lf :: s)) (raw : Bytes) : motive raw := by
  -- what has been read of a line stands before the octets of the induction
  suffices h : ∀ l, lf ∉ l → motive (l ++ raw) from h [] List.not_mem_nil
  induction raw with
  | nil =>
    intro l hl
    rw [List.append_nil]
    exact last l hl
  | cons c s ih =>
    intro l hl
    by_cases hc : c = lf
    · rw [hc]
      exact line l s hl (ih [] List.not_mem_nil)
    · rw [List.append_cons]
      exact ih (l ++ [c]) (by simp [hl, Ne.symm hc])

/-- A line that is empty once its carriage return is gone. -/
theorem stripReturn_eq_nil {l : Bytes} : stripReturn l = [] ↔ l = [] ∨ l = [cr] := by
  rw [stripReturn]
  split
  · next h =>
    obtain ⟨s, rfl⟩ := List.getLast?_eq_some_iff.mp h
    simp
  · next h =>
    refine (or_iff_left ?_).symm
    rintro rfl
    exact h rfl

/-- A line loses one octet at most. -/
theorem length_stripReturn_le (l : Bytes) : (stripReturn l).length ≤ l.length := by
  rw [stripReturn]
  split
  · rw [List.length_dropLast]
    omega
  · exact Nat.le_refl _

/-- A line that does not end in a carriage return stays. -/
theorem stripReturn_of_getLast? {l : Bytes} (h : l.getLast? ≠ some cr) : stripReturn l = l :=
  if_neg h

theorem stripReturn_concat (l : Bytes) : stripReturn (l ++ [cr]) = l := by
  rw [stripReturn, List.getLast?_concat, if_pos rfl, List.dropLast_concat]

/-- **The lines of a header block** that octets hold: what stands between the line feeds, each
without one carriage return at its end, and no empty ones. -/
def headerLines (p : Bytes) : List Bytes := ((p.splitOn lf).map stripReturn).filter (· ≠ [])

theorem headerLines_last {l : Bytes} (h : lf ∉ l) :
    headerLines l = if stripReturn l = [] then [] else [stripReturn l] := by
  rw [headerLines, List.splitOn_eq_singleton h, List.map_singleton, List.filter_singleton]
  by_cases hs : stripReturn l = [] <;> simp [hs]

theorem headerLines_append (l s : Bytes) :
    headerLines (l ++ lf :: s) = headerLines l ++ headerLines s := by
  rw [headerLines, headerLines, headerLines, List.splitOn_append_cons_self, List.map_append,
    List.filter_append]

/-! ### The reader, line by line -/

/-- What has been read of a line goes over to the octets read before. -/
theorem splitFrom_append {l : Bytes} (h : lf ∉ l) (before s : Bytes) :
    splitFrom before (l ++ s) = splitFrom (l.reverse ++ before) s := by
  induction l generalizing before with
  | nil => rfl
  | cons c l ih =>
    rw [List.mem_cons, not_or] at h
    rw [List.cons_append, splitFrom, if_neg (Ne.symm h.1), ih h.2, List.reverse_cons,
      List.append_assoc, List.singleton_append]

/-- A last line ends the header block, with no body behind it. -/
theorem splitFrom_last {l : Bytes} (h : lf ∉ l) : splitFrom [] l = (headerLines l, []) := by
  have happend := splitFrom_append h [] []
  rw [List.append_nil, List.append_nil] at happend
  rw [happend, splitFrom, List.reverse_reverse, headerLines_last h]
  simp only [List.isEmpty_iff]

/-- A line that is not empty is one of the header block; after an empty one comes the body. -/
theorem splitFrom_line {l : Bytes} (h : lf ∉ l) (s : Bytes) :
    splitFrom [] (l ++ lf :: s) =
      if stripReturn l = [] then ([], s)
      else (stripReturn l :: (splitFrom [] s).1, (splitFrom [] s).2) := by
  rw [splitFrom_append h, List.append_nil, splitFrom, if_pos rfl, List.reverse_reverse]
  simp only [List.isEmpty_iff]

/-! ### The head of a message -/

/-- **Octets whose last line is blank**: it is empty or a lone carriage return, and a line
feed stands behind it. -/
def EndsBlank (p : Bytes) : Prop :=
  ∃ before line, p.splitOn lf = before ++ [line, []] ∧ (line = [] ∨ line = [cr])

/-- **The head of a message**: the shortest beginning whose last line is blank, or the whole
message if no beginning has a blank last line. -/
inductive IsHead (raw : Bytes) : Bytes → Prop where
  | closed {p : Bytes} (isPrefix : p <+: raw) (blank : EndsBlank p)
    (shortest : ∀ q, q <+: raw → EndsBlank q → p.length ≤ q.length) : IsHead raw p
  | unclosed (blank : ∀ q, q <+: raw → ¬EndsBlank q) : IsHead raw raw

theorem not_endsBlank_of_not_mem {p : Bytes} (h : lf ∉ p) : ¬EndsBlank p := by
  rintro ⟨before, line, hsplit, -⟩
  rw [List.splitOn_eq_singleton h] at hsplit
  simpa using congrArg List.length hsplit

/-- Behind a line with its line feed the last line is blank if it was before, or if nothing
stands there and the line is blank. -/
theorem endsBlank_line {l : Bytes} (h : lf ∉ l) (p : Bytes) :
    EndsBlank (l ++ lf :: p) ↔ (stripReturn l = [] ∧ p = []) ∨ EndsBlank p := by
  rw [EndsBlank, List.splitOn_append_cons_self_of_not_mem h, stripReturn_eq_nil]
  constructor
  · rintro ⟨_ | ⟨b, before⟩, line, hsplit, hline⟩
    · obtain ⟨rfl, hp⟩ := List.cons.inj hsplit
      refine .inl ⟨hline, ?_⟩
      have hjoined : [lf].intercalate (p.splitOn lf) = p := List.intercalate_splitOn lf
      rw [← hjoined, hp, List.intercalate_singleton]
    · exact .inr ⟨before, line, (List.cons.inj hsplit).2, hline⟩
  · rintro (⟨hline, rfl⟩ | ⟨before, line, hsplit, hline⟩)
    · exact ⟨[], l, by simp, hline⟩
    · exact ⟨l :: before, line, by rw [hsplit]; rfl, hline⟩

/-- A beginning whose last line is blank goes beyond the first line feed. -/
theorem exists_of_endsBlank {l s q : Bytes} (h : lf ∉ l) (hq : q <+: l ++ lf :: s)
    (hblank : EndsBlank q) : ∃ p, q = l ++ lf :: p ∧ p <+: s := by
  rw [List.append_cons] at hq
  rcases List.prefix_or_prefix_of_prefix hq (List.prefix_append _ s) with hshort | ⟨p, rfl⟩
  · rcases List.prefix_concat_iff.mp hshort with rfl | hl
    · exact ⟨[], rfl, List.nil_prefix⟩
    · exact absurd hblank (not_endsBlank_of_not_mem fun hm => h (hl.subset hm))
  · exact ⟨p, (List.append_cons l lf p).symm, (List.prefix_append_right_inj _).mp hq⟩

/-- A message of one line without a line feed is all head. -/
theorem isHead_last {l : Bytes} (h : lf ∉ l) : IsHead l l :=
  .unclosed fun _ hq => not_endsBlank_of_not_mem fun hm => h (hq.subset hm)

/-- A blank line at the front is the head. -/
theorem isHead_blank {l : Bytes} (h : lf ∉ l) (hblank : stripReturn l = []) (s : Bytes) :
    IsHead (l ++ lf :: s) (l ++ [lf]) := by
  refine .closed ⟨s, by simp⟩ ((endsBlank_line h []).mpr (.inl ⟨hblank, rfl⟩)) fun q hq hq' => ?_
  obtain ⟨p, rfl, -⟩ := exists_of_endsBlank h hq hq'
  simp

/-- Any other line at the front belongs to the head, together with the head of the rest. -/
theorem isHead_line {l s p : Bytes} (h : lf ∉ l) (hline : stripReturn l ≠ [])
    (hp : IsHead s p) : IsHead (l ++ lf :: s) (l ++ lf :: p) := by
  have hrest : ∀ q, EndsBlank (l ++ lf :: q) ↔ EndsBlank q := fun q => by
    rw [endsBlank_line h, or_iff_right fun hq => hline hq.1]
  cases hp with
  | closed isPrefix blank shortest =>
    refine .closed ?_ ((hrest p).mpr blank) fun q hq hq' => ?_
    · exact (List.prefix_append_right_inj l).mpr (List.cons_prefix_cons.mpr ⟨rfl, isPrefix⟩)
    · obtain ⟨t, rfl, ht⟩ := exists_of_endsBlank h hq hq'
      have := shortest t ht ((hrest t).mp hq')
      simpa using this
  | unclosed blank =>
    refine .unclosed fun q hq hq' => ?_
    obtain ⟨t, rfl, ht⟩ := exists_of_endsBlank h hq hq'
    exact blank t ht ((hrest t).mp hq')

/-- A message has one head. -/
theorem IsHead.unique {raw p q : Bytes} (hp : IsHead raw p) (hq : IsHead raw q) : p = q := by
  cases hp with
  | closed hp hpb hps =>
    cases hq with
    | closed hq hqb hqs =>
      exact (List.prefix_of_prefix_length_le hp hq (hps q hq hqb)).eq_of_length_le (hqs p hp hpb)
    | unclosed hqb => exact absurd hpb (hqb p hp)
  | unclosed hpb =>
    cases hq with
    | closed hq hqb _ => exact absurd hqb (hpb q hq)
    | unclosed _ => rfl

/-! ### The partition -/

/-- **The reader cuts a message behind its head**, and takes the lines of the head. -/
theorem exists_isHead (raw : Bytes) :
    ∃ p, IsHead raw p ∧ p ++ (splitFrom [] raw).2 = raw ∧ (splitFrom [] raw).1 = headerLines p := by
  induction raw using lines_induction with
  | last l h => exact ⟨l, isHead_last h, by rw [splitFrom_last h, List.append_nil],
      by rw [splitFrom_last h]⟩
  | line l s h ih =>
    rw [splitFrom_line h]
    by_cases hblank : stripReturn l = []
    · rw [if_pos hblank]
      refine ⟨l ++ [lf], isHead_blank h hblank s, by simp, ?_⟩
      rw [headerLines_append, headerLines_last h, if_pos hblank]
      rfl
    · rw [if_neg hblank]
      obtain ⟨p, hp, happend, hlines⟩ := ih
      refine ⟨l ++ lf :: p, isHead_line h hblank hp, ?_, ?_⟩
      · rw [List.append_assoc, List.cons_append, happend]
      · rw [headerLines_append, headerLines_last h, if_neg hblank, hlines]
        rfl

/-- With a line feed behind each of them, the lines of a header block are at most one octet
longer than what they have been read from. -/
theorem length_headerLines_le (p : Bytes) :
    ((headerLines p).flatMap (· ++ [lf])).length ≤ p.length + 1 := by
  have hlast : ∀ l, lf ∉ l → ((headerLines l).flatMap (· ++ [lf])).length ≤ l.length + 1 := by
    intro l h
    rw [headerLines_last h]
    split
    · simp
    · simpa using length_stripReturn_le l
  induction p using lines_induction with
  | last l h => exact hlast l h
  | line l s h ih =>
    have hl := hlast l h
    rw [headerLines_append, List.flatMap_append]
    simp only [List.length_append, List.length_cons]
    omega

/-! ### Line ends of either kind -/

/-- **How a line ends.** -/
inductive LineEnd where
  /-- In a line feed. -/
  | feed
  /-- In a carriage return and a line feed. -/
  | returnFeed

/-- The octets at the end of a line. -/
def LineEnd.octets : LineEnd → Bytes
  | .feed => [lf]
  | .returnFeed => [cr, lf]

/-- **A line of a header block**, without its end. -/
structure IsLine (l : Bytes) : Prop where
  nonempty : l ≠ []
  unbroken : lf ∉ l
  noReturn : l.getLast? ≠ some cr

/-- Lines with their ends. -/
def written (ls : List (Bytes × LineEnd)) : Bytes := ls.flatMap fun l => l.1 ++ l.2.octets

/-- However a line ends, the reader finds the line in front of the line feed. -/
theorem LineEnd.exists_octets (e : LineEnd) {l : Bytes} (hfeed : lf ∉ l)
    (hreturn : l.getLast? ≠ some cr) :
    ∃ l', l ++ e.octets = l' ++ [lf] ∧ lf ∉ l' ∧ stripReturn l' = l := by
  cases e with
  | feed => exact ⟨l, rfl, hfeed, stripReturn_of_getLast? hreturn⟩
  | returnFeed =>
    have hne : lf ≠ cr := by decide
    exact ⟨l ++ [cr], by simp [octets], by simp [hfeed, hne], stripReturn_concat l⟩

theorem splitFrom_written {ls : List (Bytes × LineEnd)} (h : ∀ l ∈ ls, IsLine l.1) (e : LineEnd)
    (body : Bytes) :
    splitFrom [] (written ls ++ e.octets ++ body) = (ls.map Prod.fst, body) := by
  induction ls with
  | nil =>
    obtain ⟨l, heq, hfeed, hstrip⟩ := e.exists_octets (l := []) List.not_mem_nil (by simp)
    rw [written, List.flatMap_nil, heq, List.append_assoc, List.singleton_append,
      splitFrom_line hfeed, if_pos hstrip]
    rfl
  | cons x ls ih =>
    obtain ⟨hx, hls⟩ := List.forall_mem_cons.mp h
    obtain ⟨l, heq, hfeed, hstrip⟩ := x.2.exists_octets hx.unbroken hx.noReturn
    have hne : stripReturn l ≠ [] := hstrip ▸ hx.nonempty
    have hwritten : written (x :: ls) ++ e.octets ++ body =
        l ++ lf :: (written ls ++ e.octets ++ body) := by
      rw [written, List.flatMap_cons, heq]
      simp [written]
    rw [hwritten, splitFrom_line hfeed, if_neg hne, ih hls, hstrip]
    rfl

/-- **A message is its head and its body, octet for octet**, and its header block is made of the
lines of the head that are not empty, each ending in a line feed. The two halves together are
at most one octet longer than the message, by the line feed that a last line may lack. However
the lines of a header block and the empty line behind them end, the halves are the same. -/
theorem split_partition (raw : Bytes) :
    (∃! p, IsHead raw p) ∧
    (∀ p, IsHead raw p → p ++ (split raw).2 = raw ∧
      (split raw).1 = (headerLines p).flatMap (· ++ [lf])) ∧
    (split raw).1.length + (split raw).2.length ≤ raw.length + 1 ∧
    ∀ (ls : List (Bytes × LineEnd)) (e : LineEnd) (body : Bytes), (∀ l ∈ ls, IsLine l.1) →
      raw = written ls ++ e.octets ++ body →
        split raw = ((ls.map Prod.fst).flatMap (· ++ [lf]), body) := by
  obtain ⟨p, hp, happend, hlines⟩ := exists_isHead raw
  have hlength : (split raw).1.length + (split raw).2.length ≤ raw.length + 1 := by
    have hle := length_headerLines_le p
    have heq := congrArg List.length happend
    rw [List.length_append] at heq
    change ((splitFrom [] raw).1.flatMap (· ++ [lf])).length + (splitFrom [] raw).2.length ≤ _
    rw [hlines]
    omega
  refine ⟨⟨p, hp, fun q hq => hq.unique hp⟩, fun q hq => ?_, hlength, ?_⟩
  · obtain rfl := hq.unique hp
    exact ⟨happend, congrArg (List.flatMap (· ++ [lf])) hlines⟩
  · rintro ls e body hls rfl
    rw [split, splitFrom_written hls]

end Maildrop.Mailbox
