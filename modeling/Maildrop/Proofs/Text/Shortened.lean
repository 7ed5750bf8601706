import Maildrop.Proofs.Text.Cut
import Maildrop.Proofs.Text.Runs

/-!
# Shortened texts

A long text is shortened to its first sixty characters without their last word and the blanks
before it, unless next to nothing would be left. So these sixty characters are split at their
last word (`Maildrop.Text.SplitAtLast`), which can be done in one way only, and the front is kept
if it has twelve characters (`Maildrop.Text.shorten_of_splitAtLast`).

The last word of the sixty characters need not be a word of the text: mostly it is a word that
the cut has left incomplete. `Maildrop.Text.shortened` says what is kept in terms of the sixty
characters, and `Maildrop.Text.shortened_words` in terms of the words of the text: the longest
beginning of *fewer* than sixty characters that ends with a word. A word that ends with the
sixtieth character is complete, and is dropped all the same (`Maildrop.Text.shorten_complete_word`).
-/

namespace Maildrop.Text

/-! ### The last word -/

/-- **A text split at its last word**: the word, which is empty if the text ends in a blank, the
blanks before it, and the front, none of which could be longer in favour of the next. -/
structure SplitAtLast (t front gap word : Text) : Prop where
  eq : t = front ++ gap ++ word
  plain : ∀ c ∈ word, ¬isBlank c
  blank : ∀ c ∈ gap, isBlank c
  /-- The word begins behind a blank, or it is the whole text. -/
  front_eq_nil : gap = [] → front = []
  /-- The front ends with a word. -/
  last : ∀ c ∈ front.getLast?, ¬isBlank c

theorem exists_splitAtLast (t : Text) : ∃ front gap word, SplitAtLast t front gap word := by
  obtain ⟨word, hword, hplain⟩ := exists_dropEndWhile_append (fun c => !isBlank c) t
  have hlast := getLast?_dropEndWhile (fun c => !isBlank c) t
  generalize dropEndWhile (fun c => !isBlank c) t = s at hword hlast
  obtain ⟨gap, hgap, hblank⟩ := exists_dropEndWhile_append isBlank s
  have hfront := getLast?_dropEndWhile isBlank s
  refine ⟨dropEndWhile isBlank s, gap, word, by rw [hgap, hword], by simpa using hplain, hblank,
    ?_, by simpa using hfront⟩
  rintro rfl
  -- without blanks before the word, what stands before it would end both ways
  rw [List.append_nil] at hgap
  rw [hgap] at hfront ⊢
  refine List.getLast?_eq_none_iff.mp (Option.eq_none_iff_forall_not_mem.mpr fun c hc => ?_)
  have hc' : (!isBlank c) = false := hlast c hc
  rw [hfront c hc] at hc'
  exact absurd hc' (by simp)

namespace SplitAtLast

variable {t front gap word : Text}

/-- What stands before the word does not end in a character of a word. -/
theorem getLast?_append (h : SplitAtLast t front gap word) :
    ∀ c ∈ (front ++ gap).getLast?, (!isBlank c) = false := by
  intro c hc
  rcases gap.eq_nil_or_concat with rfl | ⟨s, d, rfl⟩
  · rw [h.front_eq_nil rfl] at hc
    exact absurd hc (by simp)
  · rw [List.concat_eq_append, ← List.append_assoc, List.getLast?_concat,
      Option.mem_some_iff] at hc
    subst hc
    rw [h.blank d (by simp), Bool.not_true]

/-- **A text can be split at its last word in one way only.** -/
theorem front_eq (h : SplitAtLast t front gap word) :
    trimEnd (dropEndWhile (fun c => !isBlank c) t) = front := by
  rw [h.eq, dropEndWhile_append h.getLast?_append (by simpa using h.plain)]
  exact dropEndWhile_append (by simpa using h.last) h.blank

/-- A beginning before which a word ends lies in front of the last word. -/
theorem prefix_front (h : SplitAtLast t front gap word) {s : Text} {c : Char}
    (hs : s ++ [c] <+: t) (hlast : ∃ d ∈ s.getLast?, ¬isBlank d) (hc : isBlank c) :
    s <+: front := by
  have hbefore : s ++ [c] <+: front ++ gap :=
    prefix_of_prefix_append (p := fun c => !isBlank c) (h.eq ▸ hs) ⟨c, by simp, by simp [hc]⟩
      (by simpa using h.plain)
  exact prefix_of_prefix_append ((List.prefix_append s [c]).trans hbefore)
    (by simpa using hlast) h.blank

end SplitAtLast

/-! ### What is kept -/

section Kept

variable {t front gap word : Text}

theorem shorten_of_length_le (h : t.length ≤ 60) : shorten t = t := if_pos h

/-- **What is kept of a long text**: the front, if there is enough of it. -/
theorem shorten_of_splitAtLast (ht : 60 < t.length) (h : SplitAtLast (t.take 60) front gap word) :
    shorten t = (if front.length < 12 then t.take 60 else front) ++ ['.', '.', '.'] := by
  have hlong : ¬t.length ≤ shortLimit := Nat.not_le.mpr ht
  have hsoft : trimEnd (dropEndWhile (fun c => !isBlank c) (t.take shortLimit)) = front :=
    h.front_eq
  rw [shorten, if_neg hlong]
  simp only [hsoft]
  rfl

/-- A front is cut off at a blank, so it is not all that there was. -/
theorem SplitAtLast.exists_blank (h : SplitAtLast t front gap word) (hfront : 12 ≤ front.length) :
    ∃ c rest, gap = c :: rest ∧ isBlank c ∧ front.length < t.length := by
  rcases gap with _ | ⟨c, rest⟩
  · rw [h.front_eq_nil rfl] at hfront
    exact absurd hfront (by simp)
  · refine ⟨c, rest, rfl, h.blank c List.mem_cons_self, ?_⟩
    have hlength := congrArg List.length h.eq
    simp only [List.length_append, List.length_cons] at hlength
    omega

/-- **What is kept of a long text, in full**: all of the sixty characters, if the front is short,
or the front with a blank behind it. -/
theorem shorten_cases (ht : 60 < t.length) (h : SplitAtLast (t.take 60) front gap word) :
    (front.length < 12 ∧ shorten t = t.take 60 ++ ['.', '.', '.']) ∨
    (12 ≤ front.length ∧ front.length < 60 ∧ shorten t = front ++ ['.', '.', '.'] ∧
      ∃ c rest, isBlank c ∧ t = front ++ c :: rest) := by
  rw [shorten_of_splitAtLast ht h]
  rcases Nat.lt_or_ge front.length 12 with hfront | hfront
  · exact .inl ⟨hfront, by rw [if_pos hfront]⟩
  · obtain ⟨c, rest, rfl, hc, hlength⟩ := h.exists_blank hfront
    rw [List.length_take, Nat.min_eq_left (Nat.le_of_lt ht)] at hlength
    refine .inr ⟨hfront, hlength, by rw [if_neg (Nat.not_lt.mpr hfront)], c,
      rest ++ word ++ t.drop 60, hc, ?_⟩
    rw [← List.cons_append, ← List.cons_append, ← List.append_assoc, ← List.append_assoc, ← h.eq,
      List.take_append_drop]

/-- The octets of what is kept are the first ones of the text. -/
theorem take_octets_of_prefix {kept : Text} (h : kept <+: t) :
    (Utf8.encode t).take (Utf8.size kept) = Utf8.encode kept := by
  have hoctets := take_octets t kept.length
  rwa [← List.prefix_iff_eq_take.mp h] at hoctets

end Kept

/-- **What a shortened text is.** A text that fits is left as it is. Of a longer one a beginning
of the first sixty characters is kept, with three dots behind it: all of them, or so many that at
least twelve are kept, that the last of them is no blank and a blank comes next, and that only
blanks and at most one word are dropped. All of them are kept if and only if fewer than twelve
stand before the last word and the blanks before that.

So the result has 15 to 63 characters, and the octets that are kept are those of whole
characters. -/
theorem shortened (t : Text) :
    (t.length ≤ 60 → shorten t = t) ∧
    (60 < t.length → ∃ kept rest, t = kept ++ rest ∧ shorten t = kept ++ ['.', '.', '.'] ∧
      kept <+: t.take 60 ∧
      (kept = t.take 60 ∨
        12 ≤ kept.length ∧ (∀ c ∈ kept.getLast?, ¬isBlank c) ∧ (∃ c ∈ rest.head?, isBlank c) ∧
          ∃ gap word, t.take 60 = kept ++ gap ++ word ∧ (∀ c ∈ gap, isBlank c) ∧
            ∀ c ∈ word, ¬isBlank c) ∧
      ((∃ front gap word, SplitAtLast (t.take 60) front gap word) ∧
        ∀ front gap word, SplitAtLast (t.take 60) front gap word →
          (kept = t.take 60 ↔ front.length < 12)) ∧
      (15 ≤ (shorten t).length ∧ (shorten t).length ≤ 63) ∧
      (Utf8.encode t).take (Utf8.size kept) = Utf8.encode kept) := by
  refine ⟨shorten_of_length_le, fun ht => ?_⟩
  have hhard : (t.take 60).length = 60 := by rw [List.length_take]; omega
  obtain ⟨front, gap, word, h⟩ := exists_splitAtLast (t.take 60)
  -- the front does not depend on how it has been found
  have hunique : ∀ front' gap' word', SplitAtLast (t.take 60) front' gap' word' →
      front' = front := fun _ _ _ h' => h'.front_eq.symm.trans h.front_eq
  obtain ⟨hfront, heq⟩ | ⟨hfront, hlength, heq, c, rest, hc, ht'⟩ := shorten_cases ht h
  · refine ⟨t.take 60, t.drop 60, (List.take_append_drop 60 t).symm, heq, List.prefix_refl _,
      .inl rfl, ⟨⟨front, gap, word, h⟩, fun front' gap' word' h' => ?_⟩, ?_,
      take_octets_of_prefix (List.take_prefix 60 t)⟩
    · rw [hunique front' gap' word' h']
      exact iff_of_true rfl hfront
    · rw [heq, List.length_append, hhard]
      decide
  · have hkept : front <+: t := ⟨_, ht'.symm⟩
    refine ⟨front, c :: rest, ht', heq,
      List.prefix_take_iff.mpr ⟨hkept, Nat.le_of_lt hlength⟩,
      .inr ⟨hfront, h.last, ⟨c, rfl, hc⟩, gap, word, h.eq, h.blank, h.plain⟩,
      ⟨⟨front, gap, word, h⟩, fun front' gap' word' h' => ?_⟩, ?_, take_octets_of_prefix hkept⟩
    · rw [hunique front' gap' word' h']
      refine iff_of_false (fun hall => ?_) (Nat.not_lt.mpr hfront)
      rw [hall, hhard] at hlength
      exact absurd hlength (by decide)
    · rw [heq, List.length_append]
      simp only [List.length_cons, List.length_nil]
      omega

/-- A text of which no more is kept than need be, each character in two octets. -/
theorem shortened_accents :
    let t := List.replicate 12 'é' ++ ' ' :: List.replicate 48 'e'
    60 < t.length ∧ ∃ kept, shorten t = kept ++ ['.', '.', '.'] ∧
      kept = List.replicate 12 'é' ∧ Utf8.size kept = 24 ∧
      (Utf8.encode t).take 24 = Utf8.encode kept := by
  intro t
  have ht : 60 < t.length := by decide
  obtain ⟨kept, -, -, heq, -, -, -, -, hoctets⟩ := (shortened t).2 ht
  have hshort : shorten t = List.replicate 12 'é' ++ ['.', '.', '.'] := by decide
  obtain rfl : kept = List.replicate 12 'é' := List.append_cancel_right (heq.symm.trans hshort)
  have hsize : Utf8.size (List.replicate 12 'é') = 24 := by decide
  rw [hsize] at hoctets
  exact ⟨ht, _, heq, rfl, hsize, hoctets⟩

/-! ### Words -/

/-- **A word of a text**, with what stands before it and behind it. -/
def IsWord (before word after : Text) : Prop := IsRun (fun c => !isBlank c) before word after

/-- **A beginning of a text that ends with a word of the text.** -/
def EndsWithWord (t front : Text) : Prop :=
  ∃ before word after, t = before ++ word ++ after ∧ front = before ++ word ∧
    IsWord before word after

theorem EndsWithWord.isPrefix {t front : Text} (h : EndsWithWord t front) : front <+: t := by
  obtain ⟨before, word, after, rfl, rfl, -⟩ := h
  exact List.prefix_append _ after

/-- A word ends where a blank, or nothing, follows something that is no blank. -/
theorem endsWithWord_iff {front rest : Text} :
    EndsWithWord (front ++ rest) front ↔
      (∃ c ∈ front.getLast?, ¬isBlank c) ∧ ∀ c ∈ rest.head?, isBlank c := by
  constructor
  · rintro ⟨before, word, after, heq, rfl, hword⟩
    obtain rfl : rest = after := List.append_cancel_left heq
    refine ⟨?_, by simpa using hword.after⟩
    have hlast := List.getLast?_eq_some_getLast hword.ne_nil
    refine ⟨word.getLast hword.ne_nil, by rw [List.getLast?_append, hlast]; rfl, ?_⟩
    simpa using hword.forall_mem _ (List.getLast_mem hword.ne_nil)
  · rintro ⟨⟨c, hc, hplain⟩, hrest⟩
    obtain ⟨word, hword, hall⟩ := exists_dropEndWhile_append (fun c => !isBlank c) front
    have hlast := getLast?_dropEndWhile (fun c => !isBlank c) front
    refine ⟨dropEndWhile (fun c => !isBlank c) front, word, rest, by rw [hword], hword.symm, ?_,
      hall, hlast, by simpa using hrest⟩
    -- without the word, the text would end in a blank
    rintro rfl
    rw [List.append_nil] at hword
    rw [hword] at hlast
    have hnot := hlast c hc
    rw [Bool.not_eq_false'] at hnot
    exact hplain hnot

/-- **The front is the longest beginning of fewer than sixty characters that ends with a word.** -/
theorem EndsWithWord.prefix_front {t s front gap word : Text} (ht : 60 < t.length)
    (h : SplitAtLast (t.take 60) front gap word) (hs : EndsWithWord t s) (hlength : s.length < 60) :
    s <+: front := by
  obtain ⟨rest, rfl⟩ := hs.isPrefix
  obtain ⟨hlast, hrest⟩ := endsWithWord_iff.mp hs
  rcases rest with _ | ⟨c, rest⟩
  · rw [List.append_nil] at ht
    omega
  · refine h.prefix_front (c := c) (List.prefix_take_iff.mpr ⟨⟨rest, by simp⟩, ?_⟩) hlast
      (hrest c rfl)
    rw [List.length_append]
    exact Nat.succ_le_of_lt hlength

/-- **Which words are kept.** Of a long text either the first sixty characters are kept, or the
longest beginning of fewer than sixty that ends with a word. In the second case it is also the
longest of at most sixty, unless a word ends with the sixtieth character. Of the words that lie
within the first sixty characters that one alone can be dropped, and it is, in the second case. -/
theorem shortened_words (t : Text) (ht : 60 < t.length) :
    ∃ kept, shorten t = kept ++ ['.', '.', '.'] ∧
      (kept = t.take 60 ∨ EndsWithWord t kept ∧ kept.length < 60 ∧
        ∀ front, EndsWithWord t front → front.length < 60 → front <+: kept) ∧
      (kept ≠ t.take 60 →
        ((∀ front, EndsWithWord t front → front.length ≤ 60 → front <+: kept) ↔
          ¬EndsWithWord t (t.take 60))) ∧
      ∀ before word after, t = before ++ word ++ after → IsWord before word after →
        (before ++ word).length ≤ 60 →
        (before ++ word <+: kept ↔ kept = t.take 60 ∨ (before ++ word).length ≠ 60) := by
  have hhard : (t.take 60).length = 60 := by rw [List.length_take]; omega
  obtain ⟨front, gap, word, h⟩ := exists_splitAtLast (t.take 60)
  obtain ⟨-, heq⟩ | ⟨hfront, hlength, heq, c, rest, hc, ht'⟩ := shorten_cases ht h
  · -- what lies within the sixty characters is kept with them
    refine ⟨_, heq, .inl rfl, fun hne => absurd rfl hne, fun before word after hword _ hle => ?_⟩
    refine iff_of_true (List.prefix_take_iff.mpr ⟨⟨after, hword.symm⟩, hle⟩) (.inl rfl)
  · have hne : front ≠ t.take 60 := fun hall => by
      rw [hall, hhard] at hlength
      exact absurd hlength (by decide)
    have hends : EndsWithWord t front := by
      rw [ht']
      refine endsWithWord_iff.mpr ⟨?_, fun d hd => ?_⟩
      · have hnil : front ≠ [] := List.ne_nil_of_length_pos (Nat.lt_of_lt_of_le (by decide) hfront)
        have hlast := List.getLast?_eq_some_getLast hnil
        exact ⟨_, hlast, h.last _ hlast⟩
      · obtain rfl := Option.some.inj hd
        exact hc
    have hlongest : ∀ s, EndsWithWord t s → s.length < 60 → s <+: front :=
      fun s hs => hs.prefix_front ht h
    refine ⟨front, heq, .inr ⟨hends, hlength, hlongest⟩, fun _ => ⟨fun hall hsixty => ?_,
      fun hsixty s hs hle => ?_⟩, fun before word after hword hrun hle => ?_⟩
    · have := (hall _ hsixty (Nat.le_of_eq hhard)).length_le
      omega
    · refine hlongest s hs (Nat.lt_of_le_of_ne hle fun hs60 => hsixty ?_)
      rwa [← hs60, ← List.prefix_iff_eq_take.mp hs.isPrefix]
    · constructor
      · exact fun hkept => .inr (Nat.ne_of_lt (Nat.lt_of_le_of_lt hkept.length_le hlength))
      · intro hkept
        exact hlongest _ ⟨before, word, after, hword, rfl, hrun⟩
          (Nat.lt_of_le_of_ne hle (hkept.resolve_left hne))

/-- A text whose sixtieth character stands within a word. -/
theorem shortened_words_within :
    let t := List.replicate 30 'a' ++ ' ' :: List.replicate 31 'b'
    60 < t.length ∧ ∃ kept, shorten t = kept ++ ['.', '.', '.'] ∧ kept = List.replicate 30 'a' ∧
      ∀ front, EndsWithWord t front → front.length ≤ 60 → front <+: kept := by
  intro t
  have ht : 60 < t.length := by decide
  obtain ⟨kept, heq, -, hlongest, -⟩ := shortened_words t ht
  have hshort : shorten t = List.replicate 30 'a' ++ ['.', '.', '.'] := by decide
  obtain rfl : kept = List.replicate 30 'a' := List.append_cancel_right (heq.symm.trans hshort)
  refine ⟨ht, _, heq, rfl, (hlongest (by decide)).mpr fun hends => ?_⟩
  -- the next character is no blank
  rw [← List.take_append_drop 60 t] at hends
  exact absurd ((endsWithWord_iff.mp hends).2 'b' (by decide)) (by decide)

/-- **A complete word can be dropped.** The word that ends with the sixtieth character of this
text is none that a cut has left incomplete, since a blank comes next. -/
theorem shorten_complete_word :
    let before := "The quick brown fox jumps over the lazy dog and keeps on ".toList
    let word := "top".toList
    let after := " of it".toList
    60 < (before ++ word ++ after).length ∧ IsWord before word after ∧
      (before ++ word).length = 60 ∧
      ∃ kept, shorten (before ++ word ++ after) = kept ++ ['.', '.', '.'] ∧
        kept = "The quick brown fox jumps over the lazy dog and keeps on".toList ∧
        ¬before ++ word <+: kept := by
  intro before word after
  have hword : IsWord before word after := by
    -- there is a blank on either side
    refine ⟨by decide, List.all_eq_true.mp (by decide), fun c hc => ?_, fun c hc => ?_⟩
    · obtain rfl : ' ' = c := Option.some.inj hc
      decide
    · obtain rfl : ' ' = c := Option.some.inj hc
      decide
  refine ⟨by decide, hword, by decide, _, ?_, rfl, ?_⟩
  · decide
  · decide

end Maildrop.Text
