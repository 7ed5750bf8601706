import Maildrop.Text.Blank

/-!
# Runs of characters

A text falls into runs of characters of one kind and what stands between them: words and
blanks, or letters and everything else. A run is *maximal* if it could not be longer at either
end (`Maildrop.Text.IsRun`), and a text has a definite list of maximal runs
(`Maildrop.Text.HasRuns`): what is left when it is split at all other characters and the empty
parts are thrown away (`Maildrop.Text.hasRuns_iff`).

So a character of the other kind divides the runs into those before and those behind it
(`Maildrop.Text.runs_append_cons`), whatever the texts on its sides are.
-/

namespace Maildrop.Text

variable {p : Char → Bool}

/-! ### Maximal runs -/

/-- **A maximal run** of characters in `p`, with what stands before it and behind it. -/
structure IsRun (p : Char → Bool) (before run after : Text) : Prop where
  ne_nil : run ≠ []
  forall_mem : ∀ c ∈ run, p c
  /-- It could not begin earlier. -/
  before : ∀ c ∈ before.getLast?, p c = false
  /-- It could not end later. -/
  after : ∀ c ∈ after.head?, p c = false

/-- **The maximal runs of a text**, from first to last. -/
inductive HasRuns (p : Char → Bool) : Text → List Text → Prop where
  /-- There are none if no character is in `p`. -/
  | nil {gap : Text} (hgap : ∀ c ∈ gap, p c = false) : HasRuns p gap []
  /-- The first run begins with the first character in `p`. -/
  | cons {gap run rest : Text} {rs : List Text} (hgap : ∀ c ∈ gap, p c = false)
    (hrun : IsRun p gap run rest) (hrest : HasRuns p rest rs) :
    HasRuns p (gap ++ run ++ rest) (run :: rs)

/-- A run behind characters of the other kind could not begin earlier. -/
theorem isRun_of_gap {gap run rest : Text} (hgap : ∀ c ∈ gap, p c = false) (hne : run ≠ [])
    (hrun : ∀ c ∈ run, p c) (hrest : ∀ c ∈ rest.head?, p c = false) : IsRun p gap run rest :=
  ⟨hne, hrun, fun c hc => hgap c (List.mem_of_getLast? hc), hrest⟩

theorem HasRuns.forall_mem {t : Text} {rs : List Text} (h : HasRuns p t rs) :
    ∀ w ∈ rs, w ≠ [] ∧ ∀ c ∈ w, p c := by
  induction h with
  | nil _ => simp
  | cons _ hrun _ ih => exact List.forall_mem_cons.mpr ⟨⟨hrun.ne_nil, hrun.forall_mem⟩, ih⟩

/-- A text without runs has no character in `p`. -/
theorem HasRuns.eq_nil_iff {t : Text} {rs : List Text} (h : HasRuns p t rs) :
    rs = [] ↔ ∀ c ∈ t, p c = false := by
  cases h with
  | nil hgap => exact iff_of_true rfl hgap
  | @cons gap run rest rs _ hrun _ =>
    refine iff_of_false (List.cons_ne_nil run rs) fun hall => ?_
    obtain ⟨c, hc⟩ := List.exists_mem_of_ne_nil run hrun.ne_nil
    have hfalse := hall c (by simp [hc])
    rw [hrun.forall_mem c hc] at hfalse
    exact absurd hfalse (by simp)

/-- **Every text has a list of maximal runs.** -/
theorem exists_hasRuns (p : Char → Bool) (t : Text) : ∃ rs, HasRuns p t rs := by
  induction t with
  | nil => exact ⟨[], .nil (by simp)⟩
  | cons c s ih =>
    obtain ⟨rs, h⟩ := ih
    rcases hc : p c with _ | _
    · -- the character stands before everything
      cases h with
      | nil hgap => exact ⟨[], .nil (List.forall_mem_cons.mpr ⟨hc, hgap⟩)⟩
      | @cons gap run rest rs hgap hrun hrest =>
        have hgap' : ∀ x ∈ c :: gap, p x = false := List.forall_mem_cons.mpr ⟨hc, hgap⟩
        exact ⟨_, .cons hgap' (isRun_of_gap hgap' hrun.ne_nil hrun.forall_mem hrun.after) hrest⟩
    · -- the character makes the first run longer, or is a run of its own
      have halone : ∀ {rest}, (∀ x ∈ rest.head?, p x = false) → IsRun p [] [c] rest :=
        fun hrest => isRun_of_gap (by simp) (by simp) (by simpa using hc) hrest
      have hfront : ∀ x ∈ ([] : Text), p x = false := by simp
      cases h with
      | nil hgap =>
        have hs : IsRun p [] [c] s := halone fun x hx => hgap x (List.mem_of_head? hx)
        exact ⟨_, .cons hfront hs (.nil hgap)⟩
      | @cons gap run rest rs hgap hrun hrest =>
        rcases gap with _ | ⟨d, gap⟩
        · have hlonger : IsRun p [] (c :: run) rest :=
            isRun_of_gap (by simp) (by simp) (List.forall_mem_cons.mpr ⟨hc, hrun.forall_mem⟩)
              hrun.after
          exact ⟨_, .cons hfront hlonger hrest⟩
        · have hd : ∀ x ∈ (d :: gap ++ run ++ rest).head?, p x = false := by
            simpa using hgap d List.mem_cons_self
          exact ⟨_, .cons hfront (halone hd) (.cons hgap hrun hrest)⟩

/-! ### Finding the runs -/

/-- **The runs of a text**: the parts between the characters of the other kind, but for those
where two of them stand side by side. -/
def runs (p : Char → Bool) (t : Text) : List Text :=
  (t.splitOnP fun c => !p c).filter fun w => w ≠ []

/-- **A character of the other kind divides the runs.** -/
theorem runs_append_cons {c : Char} (hc : p c = false) (s t : Text) :
    runs p (s ++ c :: t) = runs p s ++ runs p t := by
  rw [runs, List.splitOnP_append_cons s t (by rw [hc]; rfl), List.filter_append]
  rfl

/-- Characters of the other kind are passed over. -/
theorem runs_gap_append {gap : Text} (hgap : ∀ c ∈ gap, p c = false) (t : Text) :
    runs p (gap ++ t) = runs p t := by
  induction gap with
  | nil => rfl
  | cons c gap ih =>
    obtain ⟨hc, hgap⟩ := List.forall_mem_cons.mp hgap
    exact (runs_append_cons hc [] (gap ++ t)).trans (ih hgap)

/-- A text of characters in `p` is one run. -/
theorem runs_of_forall_mem {run : Text} (hne : run ≠ []) (hrun : ∀ c ∈ run, p c) :
    runs p run = [run] := by
  rw [runs, List.splitOnP_eq_singleton fun c hc => by rw [hrun c hc]; rfl]
  exact List.filter_cons_of_pos (decide_eq_true hne)

theorem HasRuns.eq_runs {t : Text} {rs : List Text} (h : HasRuns p t rs) : rs = runs p t := by
  induction h with
  | @nil gap hgap =>
    rw [← List.append_nil gap, runs_gap_append hgap]
    rfl
  | @cons gap run rest rs hgap hrun _ ih =>
    rw [List.append_assoc, runs_gap_append hgap, ih]
    rcases rest with _ | ⟨c, rest⟩
    · rw [List.append_nil, runs_of_forall_mem hrun.ne_nil hrun.forall_mem]
      rfl
    · -- the character that ends the run divides it from the others
      have hc : p c = false := hrun.after c rfl
      rw [runs_append_cons hc, runs_of_forall_mem hrun.ne_nil hrun.forall_mem]
      exact congrArg (run :: ·) (runs_append_cons hc [] rest)

/-- **A text has one list of maximal runs**, and it is found by splitting. -/
theorem hasRuns_iff {t : Text} {rs : List Text} : HasRuns p t rs ↔ rs = runs p t := by
  refine ⟨HasRuns.eq_runs, ?_⟩
  rintro rfl
  obtain ⟨rs, h⟩ := exists_hasRuns p t
  exact h.eq_runs ▸ h

theorem hasRuns_runs (p : Char → Bool) (t : Text) : HasRuns p t (runs p t) := hasRuns_iff.mpr rfl

/-- What stands between two texts, if anything does, divides their runs. -/
theorem runs_append_gap {gap : Text} (hne : gap ≠ []) (hgap : ∀ c ∈ gap, p c = false)
    (s t : Text) : runs p (s ++ gap ++ t) = runs p s ++ runs p t := by
  obtain ⟨c, gap, rfl⟩ := List.exists_cons_of_ne_nil hne
  obtain ⟨hc, hgap⟩ := List.forall_mem_cons.mp hgap
  rw [List.append_assoc, List.cons_append, runs_append_cons hc, runs_gap_append hgap]

/-- Runs joined by a character of the other kind are found again. -/
theorem runs_intercalate {c : Char} (hc : p c = false) {ws : List Text}
    (hws : ∀ w ∈ ws, w ≠ [] ∧ ∀ x ∈ w, p x) : runs p ([c].intercalate ws) = ws := by
  induction ws with
  | nil => rfl
  | cons w ws ih =>
    obtain ⟨⟨hne, hw⟩, hws⟩ := List.forall_mem_cons.mp hws
    rcases ws with _ | ⟨w', ws⟩
    · rw [List.intercalate_singleton, runs_of_forall_mem hne hw]
    · rw [List.intercalate_cons_cons, runs_append_gap (by simp) (by simpa using hc), ih hws,
        runs_of_forall_mem hne hw]
      rfl

/-! ### Runs at the end of a text -/

/-- A text that does not end in `p` has no final run to drop. -/
theorem dropEndWhile_of_getLast? {t : Text} (ht : ∀ c ∈ t.getLast?, p c = false) :
    dropEndWhile p t = t := by
  rw [dropEndWhile]
  rcases hr : t.reverse with _ | ⟨c, s⟩
  · rw [List.reverse_eq_nil_iff.mp hr]
    rfl
  · have hc : p c = false := ht c (by rw [← List.head?_reverse, hr]; rfl)
    rw [List.dropWhile_cons_of_neg (by rw [hc]; exact Bool.false_ne_true), ← hr,
      List.reverse_reverse]

/-- Nor does a run behind such a text change what is left. -/
theorem dropEndWhile_append {t run : Text} (ht : ∀ c ∈ t.getLast?, p c = false)
    (hrun : ∀ c ∈ run, p c) : dropEndWhile p (t ++ run) = t := by
  rw [dropEndWhile, List.reverse_append,
    List.dropWhile_append_of_pos fun c hc => hrun c (List.mem_reverse.mp hc)]
  exact dropEndWhile_of_getLast? ht

/-- What is left when a final run is dropped does not end in `p`. -/
theorem getLast?_dropEndWhile (p : Char → Bool) (t : Text) :
    ∀ c ∈ (dropEndWhile p t).getLast?, p c = false := by
  intro c hc
  rw [dropEndWhile, List.getLast?_reverse] at hc
  have hnot := List.head?_dropWhile_not p t.reverse
  rw [hc] at hnot
  exact hnot

/-- A beginning that does not end in `p` does not go into a final run. -/
theorem prefix_of_prefix_append {front t run : Text} (h : front <+: t ++ run)
    (hfront : ∃ c ∈ front.getLast?, p c = false) (hrun : ∀ c ∈ run, p c) : front <+: t := by
  obtain hfront' | ⟨s, rfl⟩ := List.prefix_or_prefix_of_prefix h (List.prefix_append t run)
  · exact hfront'
  · obtain ⟨c, hc, hpc⟩ := hfront
    rcases s.eq_nil_or_concat with rfl | ⟨s, d, rfl⟩
    · simp
    · -- the last character would be in the run
      rw [List.concat_eq_append] at h hc
      rw [← List.append_assoc, List.getLast?_concat, Option.mem_some_iff] at hc
      subst hc
      have hmem := ((List.prefix_append_right_inj t).mp h).subset
        (List.mem_append_right s (List.mem_singleton_self d))
      rw [hrun d hmem] at hpc
      exact absurd hpc (by simp)

end Maildrop.Text
