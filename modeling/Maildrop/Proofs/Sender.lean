import Maildrop.Proofs.Email

/-!
# Senders read back

An address is shown as a text that is itself a sender, so it can be read like one. What is
read then is the name and the email of the address, with nothing lost
(`Maildrop.Sender.parse?_display`), if they are of the form in which they come out of a
sender's text (`Maildrop.Sender.WellFormed`): the email is one and the name is trimmed, not
empty and without quotes. A name may hold anything else, angle brackets, at signs and line
breaks among it, since it is shown between quotes.

What a text claims has this form (`Maildrop.Sender.wellFormed_of_parse?`), and keeps it when
the email is put in normal form (`Maildrop.Sender.WellFormed.normalize`): small letters are
neither blanks nor delimiters, and the at sign has no small form other than itself.
-/

namespace Maildrop

namespace Text

/-- A text is cut at the first of its delimiters. -/
theorem span_delimiter {d : Char} {t : Text} (h : d ∉ t) (s : Text) :
    (t ++ d :: s).takeWhile (· != d) = t ∧ (t ++ d :: s).dropWhile (· != d) = d :: s := by
  have hne : ∀ c ∈ t, (c != d) = true := by
    rintro c hc
    rw [bne_iff_ne]
    rintro rfl
    exact h hc
  constructor
  · rw [List.takeWhile_append_of_pos hne, List.takeWhile_cons_of_neg (by simp), List.append_nil]
  · rw [List.dropWhile_append_of_pos hne, List.dropWhile_cons_of_neg (by simp)]

/-- What stands before the first delimiter is without it. -/
theorem not_mem_takeWhile (d : Char) (t : Text) : d ∉ t.takeWhile (· != d) := by
  intro h
  have := List.all_eq_true.mp (List.all_takeWhile (p := (· != d)) (l := t)) d h
  simp at this

/-- A text between two characters that are no blanks is left as it is. -/
theorem trim_between {c d : Char} (hc : ¬isBlank c) (hd : ¬isBlank d) (t : Text) :
    trim (c :: (t ++ [d])) = c :: (t ++ [d]) := by
  refine trim_of_ends ?_ ?_
  · rintro x ⟨⟩
    exact hc
  · rw [← List.cons_append, List.getLast?_concat]
    rintro x ⟨⟩
    exact hd

/-- A trimmed text need not be trimmed again. -/
@[simp] theorem trim_trim (t : Text) : trim (trim t) = trim t :=
  trim_of_ends (head?_trim t) (getLast?_trim t)

end Text

namespace Sender

/-! ### Emails -/

/-- **An email has an at sign with something on either side.** -/
theorem isEmail_iff {t : Text} :
    isEmail t ↔ ∃ a b, t = a ++ '@' :: b ∧ a ≠ [] ∧ b ≠ [] ∧
      (∀ c ∈ a, isEmailChar c) ∧ ∀ c ∈ b, isEmailChar c := by
  constructor
  · intro h
    simp only [isEmail, Bool.and_eq_true, Bool.not_eq_true', List.isEmpty_eq_false_iff,
      List.all_eq_true] at h
    obtain ⟨⟨⟨ha, hb⟩, hbefore⟩, hafter⟩ := h
    refine ⟨t.takeWhile (· != '@'), (t.dropWhile (· != '@')).drop 1, ?_, ha, hb, hbefore, hafter⟩
    -- what follows is not empty, so it starts with the at sign
    have hsplit : t.takeWhile (· != '@') ++ t.dropWhile (· != '@') = t :=
      List.takeWhile_append_dropWhile
    rcases hs : t.dropWhile (· != '@') with _ | ⟨c, s⟩
    · rw [hs] at hb
      exact absurd rfl hb
    · have hc : c = '@' := by
        have := Text.head?_dropWhile (· != '@') t c (by rw [hs]; rfl)
        simpa using this
      rw [hs, hc] at hsplit
      exact hsplit.symm
  · rintro ⟨a, b, rfl, ha, hb, hbefore, hafter⟩
    have hat : '@' ∉ a := fun h => absurd (hbefore _ h) (by decide)
    obtain ⟨htake, hdrop⟩ := Text.span_delimiter hat b
    simp only [isEmail, htake, hdrop, List.drop_one, List.tail_cons, Bool.and_eq_true,
      Bool.not_eq_true', List.isEmpty_eq_false_iff, List.all_eq_true]
    exact ⟨⟨⟨ha, hb⟩, hbefore⟩, hafter⟩

theorem not_isBlank_of_isEmailChar {c : Char} (h : isEmailChar c) : ¬Text.isBlank c := by
  intro hb
  rw [isEmailChar, hb] at h
  exact absurd h (by simp)

/-- There is no blank in an email. -/
theorem not_isBlank_of_mem {t : Text} (h : isEmail t) : ∀ c ∈ t, ¬Text.isBlank c := by
  obtain ⟨a, b, rfl, -, -, hbefore, hafter⟩ := isEmail_iff.mp h
  intro c hc
  rcases List.mem_append.mp hc with hc | hc
  · exact not_isBlank_of_isEmailChar (hbefore c hc)
  · rcases List.mem_cons.mp hc with rfl | hc
    · decide
    · exact not_isBlank_of_isEmailChar (hafter c hc)

/-- What becomes of a character of an email in small letters may stand in an email. -/
theorem isEmailChar_of_mem_lowerAt {before : Text} {c x : Char} {s : Text}
    (h : x ∈ Text.lowerAt before c s) (hc : isEmailChar c) : isEmailChar x := by
  have hblank := Text.not_isBlank_of_mem_lowerAt h (not_isBlank_of_isEmailChar hc)
  -- the delimiters are signs of ASCII, which come of nothing but themselves
  have hsign : ∀ d : Char, d.toNat < 0x61 → ¬isEmailChar d → x ≠ d := by
    rintro d hd hnot rfl
    rw [Text.eq_of_mem_lowerAt h hd] at hnot
    exact hnot hc
  simp only [isEmailChar, hblank, Bool.not_false, Bool.true_and, Bool.and_eq_true, bne_iff_ne]
  exact ⟨⟨⟨hsign '<' (by decide) (by decide), hsign '>' (by decide) (by decide)⟩,
    hsign '\"' (by decide) (by decide)⟩, hsign '@' (by decide) (by decide)⟩

/-- **An email stays one in its normal form.** -/
theorem isEmail_normalizeEmail {email : String} (h : isEmail email.toList) :
    isEmail (normalizeEmail email).toList := by
  have htrim : Text.trim email.toList = email.toList := by
    have hblank := not_isBlank_of_mem h
    exact Text.trim_of_ends (fun c hc => hblank c (List.mem_of_head? hc))
      fun c hc => hblank c (List.mem_of_getLast? hc)
  obtain ⟨a, b, heq, ha, hb, hbefore, hafter⟩ := isEmail_iff.mp h
  rw [normalizeEmail, String.toList_ofList, htrim, heq, Text.lowercase]
  obtain ⟨a', hsplit, hne, hmem⟩ := Text.lowercaseAfter_append [] a ('@' :: b)
  have hat : Text.lowerAt a.reverse '@' b = ['@'] :=
    Text.lowerAt_of_isSmall (by constructor <;> decide +kernel) ..
  obtain ⟨b', hsplit', hne', hmem'⟩ := Text.lowercaseAfter_append ('@' :: a.reverse) b []
  rw [List.append_nil, Text.lowercaseAfter_cons, hat] at hsplit
  rw [List.append_nil, Text.lowercaseAfter, List.append_nil] at hsplit'
  rw [hsplit, hsplit', isEmail_iff]
  refine ⟨a', b', rfl, hne ha, hne' hb, fun x hx => ?_, fun x hx => ?_⟩
  · obtain ⟨_, _, c, hc, hx⟩ := hmem x hx
    exact isEmailChar_of_mem_lowerAt hx (hbefore c hc)
  · obtain ⟨_, _, c, hc, hx⟩ := hmem' x hx
    exact isEmailChar_of_mem_lowerAt hx (hafter c hc)

/-- An email in angle brackets is found there. -/
theorem angled?_of_isEmail {e : Text} (h : isEmail e) :
    angled? ('<' :: (e ++ ['>'])) = some e := by
  rw [angled?, List.getLast?_concat, List.dropLast_concat, if_pos ⟨rfl, h⟩]

/-- What is found in angle brackets is an email. -/
theorem isEmail_of_angled? {t e : Text} (h : angled? t = some e) : isEmail e := by
  unfold angled? at h
  split at h
  · split at h
    · next hs =>
      obtain rfl := Option.some.inj h
      exact hs.2
    · exact absurd h (by simp)
  · exact absurd h (by simp)

/-! ### The form of what is claimed -/

/-- **A name as it comes out of a sender's text.** -/
structure IsName (name : String) : Prop where
  nonempty : name.toList ≠ []
  unquoted : '\"' ∉ name.toList
  trimmed : Text.trim name.toList = name.toList

/-- **A claim as it comes out of a sender's text.** -/
structure WellFormed (c : Sender) : Prop where
  email : isEmail c.email.toList
  name : ∀ name ∈ c.name, IsName name

/-- Putting the email in normal form keeps the form of a claim. -/
theorem WellFormed.normalize {c : Sender} (h : c.WellFormed) :
    WellFormed ⟨c.name, normalizeEmail c.email⟩ where
  email := isEmail_normalizeEmail h.email
  name := h.name

theorem wellFormed_named {name e : Text} (he : isEmail e) (hquote : '\"' ∉ name)
    (htrim : Text.trim name = name) : (named name e).WellFormed := by
  refine ⟨by rwa [named, String.toList_ofList], fun n hn => ?_⟩
  rw [named] at hn
  split at hn
  · exact absurd hn (by simp)
  · next hne =>
    obtain rfl := Option.some.inj hn
    rw [List.isEmpty_iff] at hne
    constructor <;> rwa [String.toList_ofList]

/-- A trimmed name before an email in angle brackets. -/
theorem wellFormed_of_angled? {t name : Text} {c : Sender} (hquote : '\"' ∉ name)
    (h : (angled? t).map (named (Text.trim name)) = some c) : c.WellFormed := by
  obtain ⟨e, he, rfl⟩ := Option.map_eq_some_iff.mp h
  exact wellFormed_named (isEmail_of_angled? he) (fun hmem => hquote (Text.trim_subset _ hmem))
    (Text.trim_trim _)

theorem wellFormed_of_quoted? {t : Text} {c : Sender} (h : quoted? t = some c) :
    c.WellFormed := by
  unfold quoted? at h
  split at h
  · simp only at h
    split at h
    · exact wellFormed_of_angled? (Text.not_mem_takeWhile _ _) h
    · exact absurd h (by simp)
  · exact absurd h (by simp)

theorem wellFormed_of_unquoted? {t : Text} {c : Sender} (h : unquoted? t = some c) :
    c.WellFormed := by
  unfold unquoted? at h
  simp only at h
  split at h
  · exact absurd h (by simp)
  · next hname =>
    refine wellFormed_of_angled? (fun hmem => hname ?_) h
    rw [Bool.or_eq_true, List.any_eq_true]
    exact .inr ⟨_, hmem, by decide⟩

theorem wellFormed_of_bare? {t : Text} {c : Sender} (h : bare? t = some c) : c.WellFormed := by
  rw [bare?] at h
  split at h
  · next he =>
    obtain rfl := Option.some.inj h
    exact wellFormed_named he List.not_mem_nil rfl
  · exact absurd h (by simp)

/-- **What a text claims is well-formed**, in whichever of the four forms. -/
theorem wellFormed_of_parse? {s : String} {c : Sender} (h : parse? s = some c) :
    c.WellFormed := by
  rw [parse?] at h
  rcases Option.or_eq_some_iff.mp h with h | ⟨-, h⟩
  · exact wellFormed_of_quoted? h
  · rcases Option.or_eq_some_iff.mp h with h | ⟨-, h⟩
    · exact wellFormed_of_angled? (t := Text.trim s.toList) List.not_mem_nil h
    · rcases Option.or_eq_some_iff.mp h with h | ⟨-, h⟩
      · exact wellFormed_of_unquoted? h
      · exact wellFormed_of_bare? h

/-! ### Reading what is shown -/

/-- An email in angle brackets alone is read as a claim without a name. -/
theorem parse?_bracketed {email : String} (h : isEmail email.toList) :
    parse? ("<" ++ email ++ ">") = some ⟨none, email⟩ := by
  have htext : ("<" ++ email ++ ">").toList = '<' :: (email.toList ++ ['>']) := by simp
  have htrim : Text.trim ('<' :: (email.toList ++ ['>'])) = '<' :: (email.toList ++ ['>']) :=
    Text.trim_between (by decide) (by decide) _
  have hquoted : quoted? ('<' :: (email.toList ++ ['>'])) = none := rfl
  rw [parse?, htext, htrim, hquoted, Option.none_or, bracketed?, angled?_of_isEmail h]
  exact congrArg (fun e => some (⟨none, e⟩ : Sender)) String.ofList_toList

/-- A name in quotes before it is read as the name of the claim. -/
theorem parse?_quoted {name email : String} (hname : IsName name) (h : isEmail email.toList) :
    parse? ("\"" ++ name ++ "\" <" ++ email ++ ">") = some ⟨some name, email⟩ := by
  have htext : ("\"" ++ name ++ "\" <" ++ email ++ ">").toList =
      '\"' :: (name.toList ++ '\"' :: ' ' :: '<' :: email.toList ++ ['>']) := by simp
  have htrim : Text.trim ('\"' :: (name.toList ++ '\"' :: ' ' :: '<' :: email.toList ++ ['>'])) =
      '\"' :: (name.toList ++ '\"' :: ' ' :: '<' :: (email.toList ++ ['>'])) :=
    (Text.trim_between (by decide) (by decide) _).trans (by simp)
  -- the name has no quote, so the second quote is the one behind it
  obtain ⟨htake, hdrop⟩ := Text.span_delimiter hname.unquoted
    (' ' :: '<' :: (email.toList ++ ['>']))
  have hstart : Text.trimStart (' ' :: '<' :: (email.toList ++ ['>'])) =
      '<' :: (email.toList ++ ['>']) := rfl
  have hne : name.toList.isEmpty = false := List.isEmpty_eq_false_iff.mpr hname.nonempty
  rw [parse?, htext, htrim, quoted?]
  simp only [htake, hdrop, hstart, angled?_of_isEmail h, hname.trimmed, Option.map_some, named,
    hne, Bool.false_eq_true, if_false, String.ofList_toList, Option.some_or]

/-- **An address that is shown can be read back**, if its email and its name have come out of
a sender's text. -/
theorem parse?_display {a : Address} (h : WellFormed ⟨a.name, a.email⟩) :
    parse? a.display = some ⟨a.name, a.email⟩ := by
  obtain ⟨id, email, name⟩ := a
  cases name with
  | none => exact parse?_bracketed h.email
  | some name => exact parse?_quoted (h.name name rfl) h.email

end Sender

end Maildrop
