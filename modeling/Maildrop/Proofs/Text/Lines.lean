import Maildrop.Text.Blank
import Mathlib.Data.List.Basic

/-!
# Lines

A text is made of lines if each of them ends in a line feed and holds no other
(`Maildrop.Text.HasLines`). It is made of lines in one way at most, and their number is that of its
line feeds. So whatever is printed as one line is one, unless there is a line feed in it: then it is
as many lines more as it has of them (`Maildrop.Text.hasLines_splitOn`).
-/

namespace Maildrop.Text

/-- **What has been joined is split again**: parts without the mark that stands behind each. -/
theorem splitOn_flatMap_concat {α : Type} [DecidableEq α] {d : α} {ls : List (List α)}
    (h : ∀ l ∈ ls, d ∉ l) : (ls.flatMap (· ++ [d])).splitOn d = ls ++ [[]] := by
  induction ls with
  | nil => rfl
  | cons l ls ih =>
    obtain ⟨hl, hls⟩ := List.forall_mem_cons.mp h
    rw [List.flatMap_cons, List.append_assoc, List.singleton_append,
      List.splitOn_append_cons_self_of_not_mem hl, ih hls]
    rfl

/-- **A text is made of lines**: each ends in a line feed and holds no other. -/
structure HasLines (t : Text) (ls : List Text) : Prop where
  joined : t = ls.flatMap (· ++ ['\n'])
  unbroken : ∀ l ∈ ls, '\n' ∉ l

namespace HasLines

variable {s t : Text} {ls ms : List Text}

theorem nil : HasLines [] [] := ⟨rfl, by simp⟩

/-- **A text is made of lines in one way.** -/
theorem unique (h : HasLines t ls) (h' : HasLines t ms) : ms = ls := by
  have hsplit := splitOn_flatMap_concat h.unbroken
  rw [← h.joined, h'.joined, splitOn_flatMap_concat h'.unbroken] at hsplit
  exact List.append_cancel_right hsplit

/-- Behind the lines of one text stand those of the next. -/
theorem append (h : HasLines s ls) (h' : HasLines t ms) : HasLines (s ++ t) (ls ++ ms) where
  joined := by rw [h.joined, h'.joined, List.flatMap_append]
  unbroken l hl := (List.mem_append.mp hl).elim (h.unbroken l) (h'.unbroken l)

/-- So it is with any number of texts. -/
theorem flatten {ts : List Text} {groups : List (List Text)}
    (h : List.Forall₂ HasLines ts groups) : HasLines ts.flatten groups.flatten := by
  induction h with
  | nil => exact .nil
  | cons hlines _ ih => exact hlines.append ih

/-- **There are as many lines as line feeds.** -/
theorem length_eq (h : HasLines t ls) : ls.length = t.count '\n' := by
  obtain ⟨rfl, hunbroken⟩ := h
  induction ls with
  | nil => rfl
  | cons l ls ih =>
    obtain ⟨hl, hls⟩ := List.forall_mem_cons.mp hunbroken
    rw [List.flatMap_cons, List.count_append, ← ih hls, List.count_append,
      List.count_singleton_self, List.count_eq_zero_of_not_mem hl, List.length_cons]
    omega

end HasLines

/-- A text without a line feed is one line. -/
theorem hasLines_singleton {t : Text} (h : '\n' ∉ t) : HasLines (t ++ ['\n']) [t] :=
  ⟨by simp, by simpa using h⟩

/-- **A text with a line feed behind it is made of the parts between its line feeds.** -/
theorem hasLines_splitOn (t : Text) : HasLines (t ++ ['\n']) (t.splitOn '\n') := by
  by_cases h : '\n' ∈ t
  · obtain ⟨l, s, rfl, hl⟩ := List.eq_append_cons_of_mem h
    have hlines := (hasLines_singleton hl).append (hasLines_splitOn s)
    rw [List.splitOn_append_cons_self_of_not_mem hl]
    simpa using hlines
  · rw [List.splitOn_eq_singleton h]
    exact hasLines_singleton h
termination_by t.length

/-- There is one part more than there are line feeds. -/
theorem length_splitOn (t : Text) : (t.splitOn '\n').length = t.count '\n' + 1 := by
  rw [(hasLines_splitOn t).length_eq, List.count_append, List.count_singleton_self]

/-- What stands before the first line feed begins the first of the parts. -/
theorem splitOn_append_of_not_mem {s : Text} (h : '\n' ∉ s) (t : Text) :
    ∃ first rest, (s ++ t).splitOn '\n' = first :: rest ∧ s <+: first := by
  by_cases ht : '\n' ∈ t
  · obtain ⟨l, rest, rfl, hl⟩ := List.eq_append_cons_of_mem ht
    have hline : '\n' ∉ s ++ l := by simp [h, hl]
    rw [← List.append_assoc, List.splitOn_append_cons_self_of_not_mem hline]
    exact ⟨_, _, rfl, List.prefix_append s l⟩
  · rw [List.splitOn_eq_singleton (by simp [h, ht])]
    exact ⟨_, _, rfl, List.prefix_append s t⟩

end Maildrop.Text
