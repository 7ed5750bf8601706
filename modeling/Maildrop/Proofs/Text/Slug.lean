import Maildrop.Proofs.Text.Ascii
import Maildrop.Proofs.Text.Runs
import Maildrop.Text.Slug

/-!
# What a slug is

A slug is written in one pass over a text, with a hyphen that waits until it is known that a
further letter follows. Said without the pass, the slug of a text is its maximal runs of ASCII
letters and digits, in small letters, joined by hyphens (`Maildrop.Text.slug_eq`). The pass goes
through gaps and runs in turn: a gap makes a hyphen due (`Maildrop.Text.slugFrom_gap`), and a run
is written behind the hyphen that is due (`Maildrop.Text.slugFrom_run`).

Runs are known when they are joined by hyphens (`Maildrop.Text.runs_intercalate`), and everything
else follows from that. `Maildrop.Text.slug_joins_runs` says what slugs are, which characters
they hold and where their hyphens stand, and what becomes of slugs that are put together.
-/

namespace Maildrop.Text

/-! ### The pass -/

/-- Characters that are passed over make a hyphen due. -/
theorem slugFrom_gap {gap : Text} (hgap : ∀ c ∈ gap, isAlphanumAscii c = false)
    (started due : Bool) (t : Text) :
    slugFrom started due (gap ++ t) = slugFrom started (due || !gap.isEmpty) t := by
  induction gap generalizing due with
  | nil => rw [List.nil_append, List.isEmpty_nil, Bool.not_true, Bool.or_false]
  | cons c gap ih =>
    obtain ⟨hc, hgap⟩ := List.forall_mem_cons.mp hgap
    rw [List.cons_append, slugFrom, if_neg (by rw [hc]; exact Bool.false_ne_true), ih hgap]
    simp

/-- The letters of a run are written one after the other. -/
theorem slugFrom_letters {run : Text} (hrun : ∀ c ∈ run, isAlphanumAscii c) (t : Text) :
    slugFrom true false (run ++ t) = lowerAscii run ++ slugFrom true false t := by
  induction run with
  | nil => rfl
  | cons c run ih =>
    obtain ⟨hc, hrun⟩ := List.forall_mem_cons.mp hrun
    rw [List.cons_append, slugFrom, if_pos hc, Bool.and_false, if_neg Bool.false_ne_true, ih hrun]
    rfl

/-- A run is written behind the hyphen, if one is due. -/
theorem slugFrom_run {run : Text} (hne : run ≠ []) (hrun : ∀ c ∈ run, isAlphanumAscii c)
    (started due : Bool) (t : Text) :
    slugFrom started due (run ++ t) =
      (if started && due then ['-'] else []) ++ lowerAscii run ++ slugFrom true false t := by
  obtain ⟨c, run, rfl⟩ := List.exists_cons_of_ne_nil hne
  obtain ⟨hc, hrun⟩ := List.forall_mem_cons.mp hrun
  rw [List.cons_append, slugFrom, if_pos hc, slugFrom_letters hrun]
  split <;> rfl

/-- Once letters have been written, every further run comes with a hyphen, provided that the
last run is over. -/
theorem slugFrom_true {t : Text} {rs : List Text} (h : HasRuns isAlphanumAscii t rs) {due : Bool}
    (hdue : due = true ∨ ∀ c ∈ t.head?, isAlphanumAscii c = false) :
    slugFrom true due t = rs.flatMap fun w => '-' :: lowerAscii w := by
  induction h generalizing due with
  | @nil gap hgap =>
    rw [← List.append_nil gap, slugFrom_gap hgap]
    rfl
  | @cons gap run rest rs hgap hrun _ ih =>
    -- the run is not at the front unless a hyphen is due
    have hnow : (due || !gap.isEmpty) = true := by
      rcases gap with _ | ⟨c, gap⟩
      · obtain ⟨c, run, rfl⟩ := List.exists_cons_of_ne_nil hrun.ne_nil
        have hc : isAlphanumAscii c = true := hrun.forall_mem c List.mem_cons_self
        have hnot : isAlphanumAscii c ≠ false := by simp [hc]
        rw [hdue.resolve_right fun hhead => hnot (hhead c rfl), Bool.true_or]
      · simp
    rw [List.append_assoc, slugFrom_gap hgap, hnow, slugFrom_run hrun.ne_nil hrun.forall_mem,
      ih (.inr hrun.after), List.flatMap_cons]
    rfl

/-- What is joined is the first part, and each of the others with what joins them before it. -/
theorem intercalate_cons (sep w : Text) (ws : List Text) :
    sep.intercalate (w :: ws) = w ++ ws.flatMap (sep ++ ·) := by
  induction ws generalizing w with
  | nil => rw [List.intercalate_singleton, List.flatMap_nil, List.append_nil]
  | cons w' ws ih =>
    rw [List.intercalate_cons_cons, ih, List.flatMap_cons, List.append_assoc, List.append_assoc]

/-- **A slug joins the runs of a text.** -/
theorem slug_of_hasRuns {t : Text} {rs : List Text} (h : HasRuns isAlphanumAscii t rs) :
    slug t = ['-'].intercalate (rs.map lowerAscii) := by
  rw [slug]
  cases h with
  | nil hgap =>
    rw [← List.append_nil t, slugFrom_gap hgap]
    rfl
  | cons hgap hrun hrest =>
    rw [List.append_assoc, slugFrom_gap hgap, slugFrom_run hrun.ne_nil hrun.forall_mem,
      slugFrom_true hrest (.inr hrun.after), List.map_cons, intercalate_cons, List.flatMap_map]
    rfl

theorem slug_eq (t : Text) :
    slug t = ['-'].intercalate ((runs isAlphanumAscii t).map lowerAscii) :=
  slug_of_hasRuns (hasRuns_runs isAlphanumAscii t)

/-! ### Small letters -/

/-- A small ASCII letter or a digit. -/
def IsSlugChar (c : Char) : Prop := ('a' ≤ c ∧ c ≤ 'z') ∨ ('0' ≤ c ∧ c ≤ '9')

instance (c : Char) : Decidable (IsSlugChar c) := inferInstanceAs (Decidable (_ ∨ _))

theorem isAlphanumAscii_lt {c : Char} (hc : isAlphanumAscii c) : c.toNat < 0x80 := by
  have hle : ∀ d : Char, c ≤ d → c.toNat ≤ d.toNat := fun _ h => h
  simp only [isAlphanumAscii, Bool.or_eq_true, Bool.and_eq_true, decide_eq_true_eq] at hc
  rcases hc with (⟨-, hc⟩ | ⟨-, hc⟩) | ⟨-, hc⟩
  · exact Nat.lt_of_le_of_lt (hle _ hc) (by decide)
  · exact Nat.lt_of_le_of_lt (hle _ hc) (by decide)
  · exact Nat.lt_of_le_of_lt (hle _ hc) (by decide)

/-- What is written of a letter or digit is a letter or digit, and small. -/
theorem isSlugChar_lowerAsciiChar {c : Char} (hc : isAlphanumAscii c) :
    IsSlugChar (lowerAsciiChar c) :=
  forall_ascii (P := fun c => isAlphanumAscii c → IsSlugChar (lowerAsciiChar c))
    (by decide +kernel) (isAlphanumAscii_lt hc) hc

theorem isAlphanumAscii_lowerAsciiChar (c : Char) :
    isAlphanumAscii (lowerAsciiChar c) = isAlphanumAscii c :=
  apply_lowerAsciiChar (by decide +kernel) c

@[simp] theorem lowerAscii_lowerAscii (t : Text) : lowerAscii (lowerAscii t) = lowerAscii t := by
  rw [lowerAscii, lowerAscii, List.map_map]
  exact List.map_congr_left fun c _ => apply_lowerAsciiChar (by decide +kernel) c

/-- The runs of a text in small letters are again runs. -/
theorem forall_mem_map_lowerAscii {ws : List Text}
    (hws : ∀ w ∈ ws, w ≠ [] ∧ ∀ c ∈ w, isAlphanumAscii c) :
    ∀ w ∈ ws.map lowerAscii, w ≠ [] ∧ ∀ c ∈ w, isAlphanumAscii c := by
  intro w hw
  obtain ⟨v, hv, rfl⟩ := List.mem_map.mp hw
  refine ⟨by simpa [lowerAscii] using (hws v hv).1, fun c hc => ?_⟩
  obtain ⟨d, hd, rfl⟩ := List.mem_map.mp hc
  rw [isAlphanumAscii_lowerAsciiChar]
  exact (hws v hv).2 d hd

/-- The runs of a slug are those of the text, in small letters. -/
theorem runs_slug (t : Text) :
    runs isAlphanumAscii (slug t) = (runs isAlphanumAscii t).map lowerAscii := by
  rw [slug_eq]
  exact runs_intercalate rfl
    (forall_mem_map_lowerAscii (hasRuns_runs isAlphanumAscii t).forall_mem)

/-! ### Hyphens -/

/-- Where parts that have no hyphens and are not empty have been joined by hyphens, no hyphen
stands at either end or next to another. -/
theorem hyphens_apart {ws : List Text} (hws : ∀ w ∈ ws, w ≠ [] ∧ '-' ∉ w) :
    (['-'].intercalate ws).head? ≠ some '-' ∧ (['-'].intercalate ws).getLast? ≠ some '-' ∧
      ¬['-', '-'] <:+: ['-'].intercalate ws := by
  -- a hyphen divides the parts, and there is none that is empty
  have hparts : ∀ s t, ['-'].intercalate ws = s ++ '-' :: t →
      [] ∉ s.splitOn '-' ∧ [] ∉ t.splitOn '-' := by
    intro s t h
    have hne : ws ≠ [] := by
      rintro rfl
      simp at h
    have hsplit : ws = s.splitOn '-' ++ t.splitOn '-' := by
      rw [← List.splitOn_append_cons_self, ← h,
        List.splitOn_intercalate '-' (fun w hw => (hws w hw).2) hne]
    rw [← not_or, ← List.mem_append, ← hsplit]
    exact fun hmem => (hws [] hmem).1 rfl
  have hempty : [] ∈ ([] : Text).splitOn '-' := List.mem_singleton_self []
  refine ⟨fun h => ?_, fun h => ?_, ?_⟩
  · obtain ⟨t, ht⟩ := List.head?_eq_some_iff.mp h
    exact (hparts [] t ht).1 hempty
  · obtain ⟨s, hs⟩ := List.getLast?_eq_some_iff.mp h
    exact (hparts s [] hs).2 hempty
  · rintro ⟨s, t, h⟩
    have hmem : [] ∈ ('-' :: t : Text).splitOn '-' := by
      rw [List.splitOn_cons_eq_if_modifyHead, if_pos (beq_self_eq_true '-')]
      exact List.mem_cons_self
    exact (hparts s ('-' :: t) (by simp [← h])).2 hmem

/-! ### Slugs -/

theorem slug_eq_nil_iff {t : Text} : slug t = [] ↔ ∀ c ∈ t, isAlphanumAscii c = false := by
  have hruns := hasRuns_runs isAlphanumAscii t
  rw [slug_of_hasRuns hruns, ← hruns.eq_nil_iff]
  constructor
  · -- a first run would be written first
    intro h
    rcases hr : runs isAlphanumAscii t with _ | ⟨w, ws⟩
    · rfl
    · rw [hr, List.map_cons, intercalate_cons, List.append_eq_nil_iff] at h
      exact absurd (List.map_eq_nil_iff.mp h.1)
        (hruns.forall_mem w (by rw [hr]; exact List.mem_cons_self)).1
  · intro h
    rw [h]
    rfl

/-- A character of joined parts comes from a part or joins them. -/
theorem mem_intercalate {sep : Text} {ws : List Text} {c : Char} (h : c ∈ sep.intercalate ws) :
    (∃ w ∈ ws, c ∈ w) ∨ c ∈ sep := by
  rcases ws with _ | ⟨w, ws⟩
  · exact absurd h (List.not_mem_nil)
  · rw [intercalate_cons, List.mem_append, List.mem_flatMap] at h
    obtain hw | ⟨v, hv, hc⟩ := h
    · exact .inl ⟨w, List.mem_cons_self, hw⟩
    · exact (List.mem_append.mp hc).symm.imp (fun hc => ⟨v, List.mem_cons_of_mem w hv, hc⟩) id

theorem isSlugChar_of_mem_slug {t : Text} {c : Char} (h : c ∈ slug t) : IsSlugChar c ∨ c = '-' := by
  rw [slug_eq] at h
  refine (mem_intercalate h).imp ?_ List.mem_singleton.mp
  rintro ⟨w, hw, hc⟩
  obtain ⟨v, hv, rfl⟩ := List.mem_map.mp hw
  obtain ⟨d, hd, rfl⟩ := List.mem_map.mp hc
  exact isSlugChar_lowerAsciiChar (((hasRuns_runs isAlphanumAscii t).forall_mem v hv).2 d hd)

theorem slug_slug (t : Text) : slug (slug t) = slug t := by
  rw [slug_eq (slug t), runs_slug, List.map_map, slug_eq t]
  exact congrArg _ (List.map_congr_left fun w _ => lowerAscii_lowerAscii w)

/-- No more is written than has been read, but for a hyphen that has been due before. -/
theorem length_slugFrom_le (started due : Bool) (t : Text) :
    (slugFrom started due t).length ≤ t.length + if started && due then 1 else 0 := by
  induction t generalizing started due with
  | nil => exact Nat.zero_le _
  | cons c s ih =>
    rw [slugFrom]
    split
    · have hs : (slugFrom true false s).length ≤ s.length := ih true false
      split
      · simp only [List.length_cons]
        omega
      · simp only [List.length_cons]
        omega
    · -- the character that is passed over makes room for the hyphen
      have hs := ih started true
      rw [List.length_cons]
      split at hs
      · exact Nat.le_trans hs (Nat.le_add_right ..)
      · omega

/-- Parts can be joined in two groups, and then the groups, unless one of them has no parts. -/
theorem intercalate_append {ws ws' : List Text} {sep : Text} (hws : ∀ w ∈ ws ++ ws', w ≠ []) :
    sep.intercalate (ws ++ ws') =
      sep.intercalate ([sep.intercalate ws, sep.intercalate ws'].filter fun w => w ≠ []) := by
  -- what is joined is not empty if there is something to join
  have hne : ∀ w vs, (∀ v ∈ w :: vs, v ≠ []) → sep.intercalate (w :: vs) ≠ [] := by
    intro w vs hvs h
    rw [intercalate_cons, List.append_eq_nil_iff] at h
    exact hvs w List.mem_cons_self h.1
  rcases ws with _ | ⟨w, ws⟩
  · rcases ws' with _ | ⟨w', ws'⟩
    · rfl
    · have h' := hne w' ws' hws
      simp [h']
  · have h := hne w ws fun v hv => hws v (List.mem_append_left ws' hv)
    rcases ws' with _ | ⟨w', ws'⟩
    · simp [h]
    · have h' := hne w' ws' fun v hv => hws v (List.mem_append_right _ hv)
      rw [List.filter_cons_of_pos (by simpa using h), List.filter_cons_of_pos (by simpa using h'),
        List.filter_nil, List.intercalate_cons_cons, List.intercalate_singleton, List.cons_append,
        intercalate_cons, intercalate_cons, intercalate_cons, List.flatMap_append,
        List.flatMap_cons]
      simp only [List.append_assoc]

/-- The slug of two texts with a gap between them. -/
theorem slug_append_gap {gap : Text} (hne : gap ≠ [])
    (hgap : ∀ c ∈ gap, isAlphanumAscii c = false) (s t : Text) :
    slug (s ++ gap ++ t) = ['-'].intercalate ([slug s, slug t].filter fun w => w ≠ []) := by
  rw [slug_eq, runs_append_gap hne hgap, List.map_append, slug_eq s, slug_eq t]
  refine intercalate_append fun w hw => ?_
  rw [← List.map_append, ← runs_append_gap hne hgap] at hw
  exact (forall_mem_map_lowerAscii (hasRuns_runs isAlphanumAscii _).forall_mem w hw).1

/-- **What the slug of a text is.** The maximal runs of ASCII letters and digits, which are
definite, in small letters and joined by hyphens.

So it is empty if there is no ASCII letter or digit; it holds small letters, digits and hyphens
only, and no hyphen stands at an end or beside another; it is its own slug, and not longer than
the text. Where anything but letters and digits stands between two texts, their slugs are joined,
as far as they are not empty. -/
theorem slug_joins_runs (t : Text) :
    (∃ rs, (∀ rs', HasRuns isAlphanumAscii t rs' ↔ rs' = rs) ∧
      slug t = ['-'].intercalate (rs.map lowerAscii)) ∧
    (slug t = [] ↔ ∀ c ∈ t, isAlphanumAscii c = false) ∧
    (∀ c ∈ slug t, ('a' ≤ c ∧ c ≤ 'z') ∨ ('0' ≤ c ∧ c ≤ '9') ∨ c = '-') ∧
    ((slug t).head? ≠ some '-' ∧ (slug t).getLast? ≠ some '-' ∧ ¬['-', '-'] <:+: slug t) ∧
    slug (slug t) = slug t ∧
    (slug t).length ≤ t.length ∧
    ∀ gap u, gap ≠ [] → (∀ c ∈ gap, isAlphanumAscii c = false) →
      slug (t ++ gap ++ u) = ['-'].intercalate ([slug t, slug u].filter fun w => w ≠ []) := by
  have hhyphens : ∀ w ∈ (runs isAlphanumAscii t).map lowerAscii, w ≠ [] ∧ '-' ∉ w := by
    intro w hw
    obtain ⟨hne, hall⟩ :=
      forall_mem_map_lowerAscii (hasRuns_runs isAlphanumAscii t).forall_mem w hw
    exact ⟨hne, fun hmem => absurd (hall '-' hmem) (by decide)⟩
  refine ⟨⟨runs isAlphanumAscii t, fun _ => hasRuns_iff, slug_eq t⟩, slug_eq_nil_iff,
    fun c hc => ?_, ?_, slug_slug t, length_slugFrom_le false false t,
    fun gap u hne hgap => slug_append_gap hne hgap t u⟩
  · exact or_assoc.mp (isSlugChar_of_mem_slug hc)
  · rw [slug_eq]
    exact hyphens_apart hhyphens

/-- Two texts with a point and a blank between them. -/
theorem slug_joins_runs_version :
    (∀ c ∈ ['.', ' '], isAlphanumAscii c = false) ∧
    slug (['V', '2'] ++ ['.', ' '] ++ ['0']) = ['v', '2', '-', '0'] := by
  have hgap : ∀ c ∈ ['.', ' '], isAlphanumAscii c = false :=
    List.forall_mem_cons.mpr ⟨by decide, List.forall_mem_singleton.mpr (by decide)⟩
  refine ⟨hgap, ?_⟩
  rw [(slug_joins_runs ['V', '2']).2.2.2.2.2.2 ['.', ' '] ['0'] (by decide) hgap]
  decide

end Maildrop.Text
