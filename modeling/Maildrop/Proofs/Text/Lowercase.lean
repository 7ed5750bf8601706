import Maildrop.Text.Lowercase
import Mathlib.Data.List.Chain
import Mathlib.Data.List.TakeWhile

/-!
# Small texts stay small

A character is *small* (`Maildrop.Text.IsSmall`) if making it small leaves it as it is.
The small form of every text has only small characters
(`Maildrop.Text.isSmall_of_mem_lowercase`), and a text of small characters is its own
small form, wherever its sigmas stand (`Maildrop.Text.lowercase_of_isSmall`). So a text
that has been made small need not be made small again.

Nothing but the table of capital letters could spoil this, by giving some capital letter
a small one that is a capital letter again. That it does not is seen by comparing each
range of the table with those that its small letters come to
(`Maildrop.Text.CapitalRange.near`, `Maildrop.Text.CapitalRange.apart`).
-/

namespace Maildrop.Text

/-- **A small character**: one that stays when it is made small. -/
structure IsSmall (c : Char) : Prop where
  lower : lowerChar c = c
  notSigma : c ≠ capitalSigma
  notDotted : c ≠ dottedI

/-! ### The table of capital letters -/

/-- Whether the small letters of the capitals in one range are outside another range: all
of them are before it, or behind it, or between its letters. -/
def CapitalRange.apart (r q : CapitalRange) : Bool :=
  Nat.blt q.last r.target || Nat.blt (r.target + (r.last - r.first)) q.first ||
    (Nat.beq q.step 2 && (Nat.beq r.step 2 || Nat.beq r.first r.last) &&
      Nat.beq ((r.target + q.first) % 2) 1)

/-- A character that is not seen: a blank or the zero character. -/
def isUnseen (c : Char) : Bool := isBlank c || c == Char.ofNat 0

/-- What a small letter has to be besides: a character that is seen, and none of the two
capitals that are not in the table. -/
def isOrdinary (n : Nat) : Bool :=
  (n < 0xD800 || (0xDFFF < n && n < 0x110000)) && n != 0x3A3 && n != 0x130 &&
    !isUnseen (Char.ofNat n)

/-- The numbers that the small letters in the table keep clear of, as ranges: those of the signs
and capitals of ASCII, of the two capitals, of blanks, and of no characters. -/
def extraordinary : List (Nat × Nat) :=
  [(0, 0x60), (0x85, 0x85), (0xA0, 0xA0), (0x130, 0x130), (0x3A3, 0x3A3), (0x1680, 0x1680),
   (0x2000, 0x200A), (0x2028, 0x2029), (0x202F, 0x202F), (0x205F, 0x205F), (0x3000, 0x3000),
   (0xD800, 0xDFFF)]

/-- All other numbers below the end of Unicode are ordinary. -/
theorem isOrdinary_of_forall {n : Nat} (hn : n < 0x110000)
    (h : ∀ u ∈ extraordinary, u.2 < n ∨ n < u.1) : isOrdinary n := by
  simp only [extraordinary, List.forall_mem_cons, List.not_mem_nil, false_implies,
    implies_true] at h
  have hvalid : n.isValidChar := by
    rw [Nat.isValidChar]
    omega
  have htoNat : (Char.ofNat n).toNat = n := by
    rw [Char.ofNat, dif_pos hvalid]
    rfl
  have hzero : Char.ofNat n ≠ Char.ofNat 0 := fun heq => by
    have := congrArg Char.toNat heq
    rw [htoNat, show (Char.ofNat 0).toNat = 0 from rfl] at this
    omega
  simp only [isOrdinary, isUnseen, isBlank, htoNat, Bool.and_eq_true, Bool.or_eq_true,
    decide_eq_true_eq, bne_iff_ne, ne_eq, Bool.not_eq_true', Bool.or_eq_false_iff,
    Bool.and_eq_false_iff, decide_eq_false_iff_not, beq_eq_false_iff_ne, hzero, not_false_eq_true,
    and_true]
  omega

/-- No range of small letters comes to such a number, not even between its letters. -/
theorem capitalRanges_clear :
    (capitalRanges.all fun r => Nat.blt (r.target + (r.last - r.first)) 0x110000 &&
      extraordinary.all fun u =>
        Nat.blt u.2 r.target || Nat.blt (r.target + (r.last - r.first)) u.1) = true := by
  decide +kernel

theorem capitalRanges_ordinary :
    (capitalRanges.all fun r =>
      (List.range (r.last + 1 - r.first)).all fun i => isOrdinary (r.target + i)) = true := by
  refine List.all_eq_true.mpr fun r hr => List.all_eq_true.mpr fun i hi => ?_
  have hclear := List.all_eq_true.mp capitalRanges_clear r hr
  simp only [Bool.and_eq_true, List.all_eq_true, Bool.or_eq_true, Nat.blt_eq] at hclear
  obtain ⟨hend, hclear⟩ := hclear
  rw [List.mem_range] at hi
  refine isOrdinary_of_forall (by omega) fun u hu => ?_
  rcases hclear u hu with hlt | hlt
  · exact .inl (by omega)
  · exact .inr (by omega)

/-- The small letters of the capitals in the table come behind the signs and the capitals of
ASCII. -/
theorem capitalRanges_letters : (capitalRanges.all fun r => Nat.ble 0x61 r.target) = true := by
  refine List.all_eq_true.mpr fun r hr => ?_
  have hclear := List.all_eq_true.mp capitalRanges_clear r hr
  simp only [extraordinary, List.all_cons, Bool.and_eq_true, Bool.or_eq_true, Nat.blt_eq] at hclear
  rw [Nat.ble_eq]
  omega

/-- The ranges in the table that the small letters of a range come to. As the table has an order,
they stand together. -/
def CapitalRange.near (r : CapitalRange) : List CapitalRange :=
  (capitalRanges.dropWhile fun q => Nat.blt q.last r.target).takeWhile fun q =>
    Nat.ble q.first (r.target + (r.last - r.first))

theorem capitalRanges_sorted : capitalRanges.Pairwise fun r q => r.first < q.first := by
  have hchain : capitalRanges.IsChain fun r q => r.first < q.first := by decide +kernel
  have : IsTrans CapitalRange fun r q => r.first < q.first := ⟨fun _ _ _ => Nat.lt_trans⟩
  exact hchain.pairwise

theorem near_apart : (capitalRanges.all fun r => r.near.all r.apart) = true := by
  decide +kernel

/-- Behind the first element without a property there is none with it, if every element with the
property has only such elements before it. -/
theorem not_of_mem_dropWhile {α : Type} {p : α → Bool} {as : List α}
    (has : as.Pairwise fun a b => p b → p a) {a : α} (ha : a ∈ as.dropWhile p) : ¬p a := by
  induction as with
  | nil => exact absurd ha List.not_mem_nil
  | cons b as ih =>
    obtain ⟨hb, has⟩ := List.pairwise_cons.mp has
    rw [List.dropWhile_cons] at ha
    split at ha
    · exact ih has ha
    · next hpb =>
      rcases List.mem_cons.mp ha with rfl | ha
      · exact hpb
      · exact fun hpa => hpb (hb a ha hpa)

/-- No small letter in the table is a capital letter in the table. -/
theorem capitalRanges_apart :
    (capitalRanges.all fun r => capitalRanges.all fun q => r.apart q) = true := by
  refine List.all_eq_true.mpr fun r hr => List.all_eq_true.mpr fun q hq => ?_
  rw [CapitalRange.apart, Bool.or_eq_true, Bool.or_eq_true]
  -- what is not near comes before all ranges that are near, or behind them
  let isBefore (q : CapitalRange) : Bool := Nat.blt q.last r.target
  let isNear (q : CapitalRange) : Bool := Nat.ble q.first (r.target + (r.last - r.first))
  rw [← List.takeWhile_append_dropWhile (p := isBefore) (l := capitalRanges),
    ← List.takeWhile_append_dropWhile (p := isNear) (l := capitalRanges.dropWhile isBefore)] at hq
  rcases List.mem_append.mp hq with hbefore | hq
  · have : isBefore q := List.mem_takeWhile_imp hbefore
    exact .inl (.inl this)
  rcases List.mem_append.mp hq with hnear | hbehind
  · have hapart := List.all_eq_true.mp (List.all_eq_true.mp near_apart r hr) q hnear
    rwa [CapitalRange.apart, Bool.or_eq_true, Bool.or_eq_true] at hapart
  · have hsorted := capitalRanges_sorted.sublist (List.dropWhile_sublist isBefore)
    have hfar : ¬isNear q := not_of_mem_dropWhile (hsorted.imp fun hlt hle => by
      simp only [isNear, Nat.ble_eq] at hle ⊢
      omega) hbehind
    refine .inl (.inr ?_)
    simp only [isNear, Nat.ble_eq] at hfar
    rw [Nat.blt_eq]
    omega

/-- A number is that of a capital letter in a range. -/
def CapitalRange.Has (r : CapitalRange) (n : Nat) : Prop :=
  r.first ≤ n ∧ n ≤ r.last ∧ (n - r.first) % r.step = 0

theorem CapitalRange.not_has_of_apart {r q : CapitalRange} {n : Nat} (h : r.apart q)
    (hn : r.Has n) : ¬q.Has (r.target + (n - r.first)) := by
  obtain ⟨h1, h2, h3⟩ := hn
  rintro ⟨g1, g2, g3⟩
  simp only [apart, Bool.or_eq_true, Bool.and_eq_true, Nat.blt_eq, Nat.beq_eq] at h
  rcases h with (h | h) | ⟨⟨hq, hr | hr⟩, h⟩
  · omega
  · omega
  · -- both ranges go in steps of two, and from numbers that are not even or odd alike
    rw [hr] at h3
    rw [hq] at g3
    omega
  · rw [hq] at g3
    omega

/-- The small letter of a number: that of a range that has the number, or itself. -/
theorem lowerCode_cases (n : Nat) :
    (∃ r ∈ capitalRanges, r.Has n ∧ lowerCode n = r.target + (n - r.first)) ∨
    ((∀ r ∈ capitalRanges, ¬r.Has n) ∧ lowerCode n = n) := by
  rw [lowerCode]
  split
  · next r h =>
    have hr := List.find?_some h
    simp only [Bool.and_eq_true, decide_eq_true_eq, beq_iff_eq] at hr
    exact .inl ⟨r, List.mem_of_find?_eq_some h, ⟨hr.1.1, hr.1.2, hr.2⟩, rfl⟩
  · next h =>
    refine .inr ⟨fun r hr hn => ?_, rfl⟩
    have := List.find?_eq_none.mp h r hr
    simp only [Bool.and_eq_true, decide_eq_true_eq, beq_iff_eq] at this
    exact this ⟨⟨hn.1, hn.2.1⟩, hn.2.2⟩

/-- A number that no range has is its own small letter. -/
theorem lowerCode_of_not_has {n : Nat} (h : ∀ r ∈ capitalRanges, ¬r.Has n) : lowerCode n = n := by
  rcases lowerCode_cases n with ⟨r, hr, hn, -⟩ | ⟨-, heq⟩
  · exact absurd hn (h r hr)
  · exact heq

/-- **The small letter of a capital is small**, and no blank. -/
theorem ordinary_of_has {r : CapitalRange} {n : Nat} (hr : r ∈ capitalRanges) (hn : r.Has n) :
    lowerCode (r.target + (n - r.first)) = r.target + (n - r.first) ∧
      isOrdinary (r.target + (n - r.first)) := by
  constructor
  · refine lowerCode_of_not_has fun q hq => ?_
    have hapart := List.all_eq_true.mp (List.all_eq_true.mp capitalRanges_apart r hr) q hq
    exact CapitalRange.not_has_of_apart hapart hn
  · have hord := List.all_eq_true.mp capitalRanges_ordinary r hr
    obtain ⟨h1, h2, -⟩ := hn
    exact List.all_eq_true.mp hord (n - r.first) (List.mem_range.mpr (by omega))

/-! ### Characters -/

theorem toNat_ofNat_of_isOrdinary {n : Nat} (h : isOrdinary n) : (Char.ofNat n).toNat = n := by
  simp only [isOrdinary, Bool.and_eq_true, Bool.or_eq_true, decide_eq_true_eq] at h
  have hvalid : n.isValidChar := h.1.1.1
  rw [Char.ofNat, dif_pos hvalid]
  rfl

theorem isSmall_ofNat {n : Nat} (h : lowerCode n = n) (hord : isOrdinary n) :
    IsSmall (Char.ofNat n) := by
  have hn := toNat_ofNat_of_isOrdinary hord
  refine ⟨by rw [lowerChar, hn, h], ?_, ?_⟩
  · rintro heq
    rw [heq] at hn
    subst hn
    exact absurd hord (by decide)
  · rintro heq
    rw [heq] at hn
    subst hn
    exact absurd hord (by decide)

/-- **Making a character small makes it small**, and leaves it as it is if it is not seen
afterwards. The two capitals without a small letter of their own are left out. -/
theorem isSmall_lowerChar {c : Char} (hs : c ≠ capitalSigma) (hd : c ≠ dottedI) :
    IsSmall (lowerChar c) ∧ (isUnseen (lowerChar c) → lowerChar c = c) := by
  rcases lowerCode_cases c.toNat with ⟨r, hr, hn, heq⟩ | ⟨-, heq⟩
  · obtain ⟨hcode, hord⟩ := ordinary_of_has hr hn
    rw [lowerChar, heq]
    refine ⟨isSmall_ofNat hcode hord, fun hu => ?_⟩
    simp [isOrdinary, hu] at hord
  · have hc : lowerChar c = c := by rw [lowerChar, heq, Char.ofNat_toNat]
    rw [hc]
    exact ⟨⟨hc, hs, hd⟩, fun _ => rfl⟩

theorem isSmall_smallSigma : IsSmall smallSigma := by
  constructor <;> decide

theorem isSmall_finalSigma : IsSmall finalSigma := by
  constructor <;> decide

theorem isSmall_i : IsSmall 'i' := by
  constructor <;> decide

theorem isSmall_dotAbove : IsSmall (Char.ofNat 0x307) := by
  constructor <;> decide

/-! ### Texts -/

/-- The small form of a character between others, the ones before it last one first. -/
def lowerAt (before : Text) (c : Char) (s : Text) : Text :=
  if c = capitalSigma then
    [if startsCased before && !startsCased s then finalSigma else smallSigma]
  else if c = dottedI then ['i', Char.ofNat 0x307]
  else [lowerChar c]

theorem lowercaseAfter_cons (before : Text) (c : Char) (s : Text) :
    lowercaseAfter before (c :: s) = lowerAt before c s ++ lowercaseAfter (c :: before) s := rfl

theorem lowerAt_ne_nil (before : Text) (c : Char) (s : Text) : lowerAt before c s ≠ [] := by
  rw [lowerAt]
  split
  · simp
  · split <;> simp

/-- What becomes of a character is small, and if it is not seen it is the character. -/
theorem isSmall_of_mem_lowerAt {before : Text} {c x : Char} {s : Text}
    (h : x ∈ lowerAt before c s) : IsSmall x ∧ (isUnseen x → x = c) := by
  rw [lowerAt] at h
  split at h
  · rw [List.mem_singleton] at h
    subst h
    split
    · exact ⟨isSmall_finalSigma, fun hu => absurd hu (by decide)⟩
    · exact ⟨isSmall_smallSigma, fun hu => absurd hu (by decide)⟩
  · next hs =>
    split at h
    · simp only [List.mem_cons, List.not_mem_nil, or_false] at h
      rcases h with rfl | rfl
      · exact ⟨isSmall_i, fun hu => absurd hu (by decide)⟩
      · exact ⟨isSmall_dotAbove, fun hu => absurd hu (by decide)⟩
    · next hd =>
      rw [List.mem_singleton.mp h]
      exact isSmall_lowerChar hs hd

/-- A blank comes of nothing but itself. -/
theorem not_isBlank_of_mem_lowerAt {before : Text} {c x : Char} {s : Text}
    (h : x ∈ lowerAt before c s) (hc : ¬isBlank c) : ¬isBlank x := by
  intro hx
  have hu : isUnseen x := by rw [isUnseen, hx, Bool.true_or]
  exact hc ((isSmall_of_mem_lowerAt h).2 hu ▸ hx)

/-- A sign of ASCII comes of nothing but itself. -/
theorem eq_of_mem_lowerAt {before : Text} {c x : Char} {s : Text} (h : x ∈ lowerAt before c s)
    (hx : x.toNat < 0x61) : x = c := by
  rw [lowerAt] at h
  split at h
  · rw [List.mem_singleton] at h
    subst h
    split at hx <;> exact absurd hx (by decide)
  · split at h
    · simp only [List.mem_cons, List.not_mem_nil, or_false] at h
      rcases h with rfl | rfl <;> exact absurd hx (by decide)
    · rw [List.mem_singleton] at h
      rcases lowerCode_cases c.toNat with ⟨r, hr, hn, heq⟩ | ⟨-, heq⟩
      · have htarget := Nat.le_of_ble_eq_true (List.all_eq_true.mp capitalRanges_letters r hr)
        rw [h, lowerChar, heq, toNat_ofNat_of_isOrdinary (ordinary_of_has hr hn).2] at hx
        omega
      · rw [h, lowerChar, heq, Char.ofNat_toNat]

/-- A small character is its own small form, whatever stands around it. -/
theorem lowerAt_of_isSmall {c : Char} (h : IsSmall c) (before s : Text) :
    lowerAt before c s = [c] := by
  rw [lowerAt, if_neg h.notSigma, if_neg h.notDotted, h.lower]

/-- The small form of a text in two parts is that of the first, and that of the second behind
it. What is in the first comes of its characters. -/
theorem lowercaseAfter_append (before a s : Text) :
    ∃ a', lowercaseAfter before (a ++ s) = a' ++ lowercaseAfter (a.reverse ++ before) s ∧
      (a ≠ [] → a' ≠ []) ∧ ∀ x ∈ a', ∃ b t, ∃ c ∈ a, x ∈ lowerAt b c t := by
  induction a generalizing before with
  | nil => exact ⟨[], rfl, id, by simp⟩
  | cons c a ih =>
    obtain ⟨a', heq, -, hmem⟩ := ih (c :: before)
    refine ⟨lowerAt before c (a ++ s) ++ a', ?_, fun _ => ?_, fun x hx => ?_⟩
    · rw [List.cons_append, lowercaseAfter_cons, heq, List.append_assoc, List.reverse_cons,
        List.append_assoc, List.singleton_append]
    · simp [lowerAt_ne_nil]
    · rcases List.mem_append.mp hx with hx | hx
      · exact ⟨_, _, c, List.mem_cons_self, hx⟩
      · obtain ⟨b, t, c', hc', hx⟩ := hmem x hx
        exact ⟨b, t, c', List.mem_cons_of_mem _ hc', hx⟩

theorem isSmall_of_mem_lowercaseAfter {before t : Text} :
    ∀ x ∈ lowercaseAfter before t, IsSmall x := by
  induction t generalizing before with
  | nil => simp [lowercaseAfter]
  | cons c s ih =>
    intro x hx
    rw [lowercaseAfter_cons] at hx
    rcases List.mem_append.mp hx with hx | hx
    · exact (isSmall_of_mem_lowerAt hx).1
    · exact ih x hx

/-- **The small form of a text has only small characters.** -/
theorem isSmall_of_mem_lowercase {t : Text} : ∀ x ∈ lowercase t, IsSmall x :=
  isSmall_of_mem_lowercaseAfter

/-- **A text of small characters is its own small form.** -/
theorem lowercase_of_isSmall {t : Text} (h : ∀ x ∈ t, IsSmall x) : lowercase t = t := by
  rw [lowercase]
  -- the induction moves characters over to those before, so it is about any before
  generalize ([] : Text) = before
  induction t generalizing before with
  | nil => rfl
  | cons c s ih =>
    rw [lowercaseAfter_cons, lowerAt_of_isSmall (h c List.mem_cons_self),
      ih (fun x hx => h x (List.mem_cons_of_mem _ hx))]
    rfl

/-- A zero character in a small form has been in the text. -/
theorem zero_mem_of_mem_lowercase {t : Text} (h : Char.ofNat 0 ∈ lowercase t) :
    Char.ofNat 0 ∈ t := by
  rw [lowercase] at h
  generalize ([] : Text) = before at h
  induction t generalizing before with
  | nil => exact absurd h List.not_mem_nil
  | cons c s ih =>
    rw [lowercaseAfter_cons] at h
    rcases List.mem_append.mp h with h | h
    · rw [(isSmall_of_mem_lowerAt h).2 (by decide)]
      exact List.mem_cons_self
    · exact List.mem_cons_of_mem _ (ih _ h)

/-- The small form of a text starts with no blank if the text does not. -/
theorem head?_lowercaseAfter (before : Text) {t : Text} (h : ∀ c ∈ t.head?, ¬isBlank c) :
    ∀ x ∈ (lowercaseAfter before t).head?, ¬isBlank x := by
  cases t with
  | nil => simp [lowercaseAfter]
  | cons c s =>
    intro x hx hb
    obtain ⟨y, ys, hy⟩ := List.exists_cons_of_ne_nil (lowerAt_ne_nil before c s)
    rw [lowercaseAfter_cons, hy] at hx
    obtain rfl : y = x := Option.some.inj hx
    have hmem : y ∈ lowerAt before c s := by
      rw [hy]
      exact List.mem_cons_self
    exact not_isBlank_of_mem_lowerAt hmem (h c rfl) hb

/-- It ends with no blank if the text does not. -/
theorem getLast?_lowercaseAfter (before : Text) {t : Text} (h : ∀ c ∈ t.getLast?, ¬isBlank c) :
    ∀ x ∈ (lowercaseAfter before t).getLast?, ¬isBlank x := by
  induction t generalizing before with
  | nil => simp [lowercaseAfter]
  | cons c s ih =>
    intro x hx
    rw [lowercaseAfter_cons, List.getLast?_append] at hx
    cases s with
    | nil => exact not_isBlank_of_mem_lowerAt (List.mem_of_getLast? hx) (h c rfl)
    | cons c' s =>
      -- what follows is not empty, so it has the last character
      have hne : lowercaseAfter (c :: before) (c' :: s) ≠ [] := by
        rw [lowercaseAfter_cons]
        simp [lowerAt_ne_nil]
      rw [List.getLast?_eq_some_getLast hne, Option.some_or] at hx
      refine ih (c :: before) (fun c'' hc'' => h c'' ?_) x ?_
      · rwa [List.getLast?_cons_cons]
      · rwa [List.getLast?_eq_some_getLast hne]

end Maildrop.Text
