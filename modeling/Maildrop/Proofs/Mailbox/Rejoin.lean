import Maildrop.Proofs.Mailbox.HeaderBlock
import Maildrop.Proofs.Text.Lines

/-!
# Messages put together again

The two halves of a message can be put together again, with an empty line between them
(`Maildrop.Mailbox.rejoin`), and what comes out can be split in its turn. Were the lines of a
header block in a normal form, the halves would be the same as before. They are not always:
a line that ends in several carriage returns loses only one of them, so the header block still
has a line with a carriage return at its end, and splitting takes the next one away. A line of
nothing but two carriage returns leaves a lone one in the header block; the second time it is
the empty line, and the rest of the header block goes over to the body.

The halves are the same just if no line of the head ends in two carriage returns
(`Maildrop.Mailbox.split_rejoin`), and nothing goes over to the body just if none consists of
them. Both follow from what splitting does to lines with a line feed behind each, which is said
for lines without a lone carriage return (`Maildrop.Mailbox.split_rejoin_of_not_mem`) and for
those in front of the first one (`Maildrop.Mailbox.split_rejoin_of_mem`).
-/

namespace Maildrop.Mailbox

open Ascii (lf cr)

/-- **Two halves put together**, with an empty line between them. -/
def rejoin (halves : Bytes × Bytes) : Bytes := halves.1 ++ lf :: halves.2

/-! ### The lines of a header block -/

/-- A line still ends in a carriage return if it ended in two. -/
theorem getLast?_stripReturn (l : Bytes) :
    (stripReturn l).getLast? = some cr ↔ [cr, cr] <:+ l := by
  rw [stripReturn]
  split
  · next h =>
    obtain ⟨s, rfl⟩ := List.getLast?_eq_some_iff.mp h
    rw [List.dropLast_concat, List.getLast?_eq_some_iff]
    constructor
    · rintro ⟨t, rfl⟩
      exact ⟨t, by simp⟩
    · rintro ⟨t, ht⟩
      refine ⟨t, ?_⟩
      rw [List.append_cons] at ht
      exact (List.append_inj_left' ht rfl).symm
  · next h =>
    refine iff_of_false h ?_
    rintro ⟨t, rfl⟩
    exact h (by simp)

/-- A line is left with a lone carriage return if it was nothing but two. -/
theorem stripReturn_eq_return (l : Bytes) : stripReturn l = [cr] ↔ l = [cr, cr] := by
  constructor
  · intro h
    obtain ⟨t, rfl⟩ := (getLast?_stripReturn l).mp (by rw [h]; rfl)
    rw [List.append_cons, stripReturn_concat] at h
    obtain rfl : t = [] := List.append_left_eq_self.mp h
    rfl
  · rintro rfl
    exact stripReturn_concat [cr]

/-- What is left of a line was in it before. -/
theorem stripReturn_subset (l : Bytes) : stripReturn l ⊆ l := by
  rw [stripReturn]
  split
  · exact List.dropLast_subset l
  · exact List.Subset.refl l

/-- A line of a header block is neither empty nor broken. -/
theorem of_mem_headerLines {p l : Bytes} (hl : l ∈ headerLines p) : l ≠ [] ∧ lf ∉ l := by
  have hlast : ∀ l', lf ∉ l' → l ∈ headerLines l' → l ≠ [] ∧ lf ∉ l := by
    intro l' h hl
    rw [headerLines_last h] at hl
    split at hl
    · exact absurd hl List.not_mem_nil
    · next hne =>
      obtain rfl := List.mem_singleton.mp hl
      exact ⟨hne, fun hm => h (stripReturn_subset l' hm)⟩
  induction p using lines_induction with
  | last l' h => exact hlast l' h hl
  | line l' s h ih =>
    rw [headerLines_append, List.mem_append] at hl
    exact hl.elim (hlast l' h) ih

/-- A lone carriage return in the header block was a line of two. -/
theorem return_mem_headerLines (p : Bytes) :
    [cr] ∈ headerLines p ↔ [cr, cr] ∈ p.splitOn lf := by
  simp only [headerLines, List.mem_filter, List.mem_map, stripReturn_eq_return]
  simp

/-- The lines of the header block that still end in a carriage return ended in two. -/
theorem forall_mem_headerLines (p : Bytes) :
    (∀ l ∈ headerLines p, l.getLast? ≠ some cr) ↔ ∀ l ∈ p.splitOn lf, ¬[cr, cr] <:+ l := by
  constructor
  · intro h l hl hreturns
    have hlast := (getLast?_stripReturn l).mpr hreturns
    refine h (stripReturn l) ?_ hlast
    rw [headerLines, List.mem_filter]
    refine ⟨List.mem_map_of_mem hl, decide_eq_true ?_⟩
    intro hnil
    rw [hnil] at hlast
    exact absurd hlast (by simp)
  · intro h l hl
    rw [headerLines, List.mem_filter, List.mem_map] at hl
    obtain ⟨⟨l', hl', rfl⟩, -⟩ := hl
    rw [ne_eq, getLast?_stripReturn]
    exact h l' hl'

/-! ### Splitting lines with a line feed behind each -/

variable {ls : List Bytes}

/-- Lines with a line feed behind each, of which none is blank, are all in the header block. -/
theorem splitFrom_lines (hls : ∀ l ∈ ls, stripReturn l ≠ [] ∧ lf ∉ l) (s : Bytes) :
    splitFrom [] (ls.flatMap (· ++ [lf]) ++ s) =
      (ls.map stripReturn ++ (splitFrom [] s).1, (splitFrom [] s).2) := by
  induction ls with
  | nil => rfl
  | cons l ls ih =>
    obtain ⟨⟨hne, hfeed⟩, hrest⟩ := List.forall_mem_cons.mp hls
    have happend : (l :: ls).flatMap (· ++ [lf]) ++ s =
        l ++ lf :: (ls.flatMap (· ++ [lf]) ++ s) := by simp
    rw [happend, splitFrom_line hfeed, if_neg hne, ih hrest]
    rfl

/-- A line of a header block is blank if it is a lone carriage return. -/
theorem stripReturn_ne_nil {l : Bytes} (h : l ≠ []) (hreturn : l ≠ [cr]) : stripReturn l ≠ [] := by
  rw [ne_eq, stripReturn_eq_nil]
  exact not_or_intro h hreturn

/-- Without a lone carriage return among them, the lines of a header block lose a carriage return
at their end, and nothing else changes. -/
theorem split_rejoin_of_not_mem (hls : ∀ l ∈ ls, l ≠ [] ∧ lf ∉ l) (h : [cr] ∉ ls) (body : Bytes) :
    split (rejoin (ls.flatMap (· ++ [lf]), body)) =
      ((ls.map stripReturn).flatMap (· ++ [lf]), body) := by
  have hkept : ∀ l ∈ ls, stripReturn l ≠ [] ∧ lf ∉ l := fun l hl =>
    ⟨stripReturn_ne_nil (hls l hl).1 fun he => h (he ▸ hl), (hls l hl).2⟩
  have hblank : splitFrom [] (lf :: body) = ([], body) := rfl
  rw [split, rejoin, splitFrom_lines hkept, hblank, List.append_nil]

/-- The first lone carriage return among the lines ends the header block. -/
theorem split_rejoin_of_mem {after : List Bytes} (hls : ∀ l ∈ ls, l ≠ [] ∧ lf ∉ l) (h : [cr] ∉ ls)
    (body : Bytes) :
    split (rejoin ((ls ++ [cr] :: after).flatMap (· ++ [lf]), body)) =
      ((ls.map stripReturn).flatMap (· ++ [lf]), rejoin (after.flatMap (· ++ [lf]), body)) := by
  have hkept : ∀ l ∈ ls, stripReturn l ≠ [] ∧ lf ∉ l := fun l hl =>
    ⟨stripReturn_ne_nil (hls l hl).1 fun he => h (he ▸ hl), (hls l hl).2⟩
  have happend : rejoin ((ls ++ [cr] :: after).flatMap (· ++ [lf]), body) =
      ls.flatMap (· ++ [lf]) ++ ([cr] ++ lf :: rejoin (after.flatMap (· ++ [lf]), body)) := by
    simp [rejoin]
  have hfeed : lf ∉ [cr] := by decide
  rw [happend, split, splitFrom_lines hkept, splitFrom_line hfeed, if_pos (by decide),
    List.append_nil]

/-- Lines with a line feed behind each can be told from what they make together. -/
theorem flatMap_feed_injective {ls' : List Bytes} (hls : ∀ l ∈ ls, lf ∉ l)
    (hls' : ∀ l ∈ ls', lf ∉ l) (h : ls.flatMap (· ++ [lf]) = ls'.flatMap (· ++ [lf])) :
    ls = ls' := by
  have heq := congrArg (List.splitOn lf) h
  rw [Text.splitOn_flatMap_concat hls, Text.splitOn_flatMap_concat hls'] at heq
  exact List.append_cancel_right heq

/-! ### When the halves stay -/

/-- Lines stay if none of them ends in a carriage return. -/
theorem map_stripReturn_eq_self : ls.map stripReturn = ls ↔ ∀ l ∈ ls, l.getLast? ≠ some cr := by
  induction ls with
  | nil => simp
  | cons l ls ih =>
    rw [List.map_cons, List.cons_eq_cons, ih, List.forall_mem_cons]
    refine and_congr_left fun _ => ⟨fun h hreturn => ?_, stripReturn_of_getLast?⟩
    obtain ⟨s, rfl⟩ := List.getLast?_eq_some_iff.mp hreturn
    rw [stripReturn_concat] at h
    simpa using congrArg List.length h

/-- The body stays if no line of the header block is a lone carriage return. -/
theorem split_rejoin_snd (hls : ∀ l ∈ ls, l ≠ [] ∧ lf ∉ l) (body : Bytes) :
    (split (rejoin (ls.flatMap (· ++ [lf]), body))).2 = body ↔ [cr] ∉ ls := by
  by_cases h : [cr] ∈ ls
  · refine iff_of_false (fun hbody => ?_) (not_not_intro h)
    obtain ⟨before, after, rfl, hbefore⟩ := List.eq_append_cons_of_mem h
    rw [split_rejoin_of_mem (fun l hl => hls l (List.mem_append_left _ hl)) hbefore] at hbody
    -- what goes over to the body makes it longer
    have hlength := congrArg List.length hbody
    simp only [rejoin, List.length_append, List.length_cons] at hlength
    omega
  · rw [split_rejoin_of_not_mem hls h]
    exact iff_of_true rfl h

/-- Both halves stay if no line of the header block ends in a carriage return. -/
theorem split_rejoin_lines (hls : ∀ l ∈ ls, l ≠ [] ∧ lf ∉ l) (body : Bytes) :
    split (rejoin (ls.flatMap (· ++ [lf]), body)) = (ls.flatMap (· ++ [lf]), body) ↔
      ∀ l ∈ ls, l.getLast? ≠ some cr := by
  by_cases h : [cr] ∈ ls
  · refine iff_of_false (fun heq => ?_) fun hlast => hlast [cr] h rfl
    exact (split_rejoin_snd hls body).mp (congrArg Prod.snd heq) h
  · rw [split_rejoin_of_not_mem hls h, Prod.mk.injEq, and_iff_left rfl, ← map_stripReturn_eq_self]
    refine ⟨flatMap_feed_injective (fun l hl => ?_) fun l hl => (hls l hl).2, fun he => by rw [he]⟩
    obtain ⟨l', hl', rfl⟩ := List.mem_map.mp hl
    exact fun hm => (hls l' hl').2 (stripReturn_subset l' hm)

/-- **What becomes of the halves of a message** that are put together and split again. Let the
message have the head `p`. The halves stay exactly when no line of `p` ends in two carriage returns,
that is, when every line of the header block ends in its line feed alone; and the body stays
just if no line of `p` consists of two carriage returns. Then each line of the header block loses
a carriage return at its end. Otherwise the first lone carriage return ends the header block, and
the lines behind it go over to the body. -/
theorem split_rejoin (raw : Bytes) :
    ∃ p, IsHead raw p ∧ (split raw).1 = (headerLines p).flatMap (· ++ [lf]) ∧
      (split (rejoin (split raw)) = split raw ↔ ∀ l ∈ p.splitOn lf, ¬[cr, cr] <:+ l) ∧
      ((∀ l ∈ headerLines p, l.getLast? ≠ some cr) ↔ ∀ l ∈ p.splitOn lf, ¬[cr, cr] <:+ l) ∧
      ((split (rejoin (split raw))).2 = (split raw).2 ↔ [cr, cr] ∉ p.splitOn lf) ∧
      ([cr, cr] ∉ p.splitOn lf → split (rejoin (split raw)) =
        (((headerLines p).map stripReturn).flatMap (· ++ [lf]), (split raw).2)) ∧
      ∀ before after, headerLines p = before ++ [cr] :: after → [cr] ∉ before →
        split (rejoin (split raw)) =
          ((before.map stripReturn).flatMap (· ++ [lf]),
            rejoin (after.flatMap (· ++ [lf]), (split raw).2)) := by
  obtain ⟨p, hp, -, hlines⟩ := exists_isHead raw
  have hkept : ∀ l ∈ headerLines p, l ≠ [] ∧ lf ∉ l := fun _ => of_mem_headerLines
  have hsplit : split raw = ((headerLines p).flatMap (· ++ [lf]), (split raw).2) :=
    Prod.ext (congrArg (List.flatMap (· ++ [lf])) hlines) rfl
  generalize (split raw).2 = body at hsplit
  refine ⟨p, hp, ?_⟩
  rw [hsplit, ← forall_mem_headerLines, ← return_mem_headerLines]
  refine ⟨rfl, split_rejoin_lines hkept body, Iff.rfl, split_rejoin_snd hkept body,
    fun h => split_rejoin_of_not_mem hkept h body, fun before after heq hbefore => ?_⟩
  rw [heq] at hkept ⊢
  exact split_rejoin_of_mem (fun l hl => hkept l (List.mem_append_left _ hl)) hbefore body

/-- A line that ends in two carriage returns keeps one, and loses it the second time; a line of
nothing but two takes what is behind it over to the body. -/
theorem split_rejoin_ne :
    let raw : Bytes := "a: b\r\r\n\r\nc".toList.map Ascii.octet
    let raw' : Bytes := "a: b\r\n\r\r\nc: d\r\n\r\ne".toList.map Ascii.octet
    split (rejoin (split raw)) ≠ split raw ∧ split (rejoin (split raw')) ≠ split raw' := by
  decide

end Maildrop.Mailbox
