import Maildrop.Proofs.Text.Lowercase
import Maildrop.Proofs.Text.Runs
import Maildrop.Proofs.Text.Utf8
import Maildrop.Sender
import Maildrop.Store.Collation
import Maildrop.Store.Memory
import Mathlib.Data.List.Basic

/-!
# When two emails are the same

Stores disagree about which emails are the same: in memory they are compared in small
letters, and a database looks at ASCII letters only and at nothing behind a zero
octet. About emails in normal form they agree, as long as there is no zero character in one
of the two: an email in normal form is the same as such a *plain* one
(`Maildrop.PlainEmail`) to either store only if the two are equal
(`Maildrop.key_of_normal`, `Maildrop.PlainEmail.sameEmail_iff`).

Whoever brings emails to a store brings them in normal form, and a normal form is its own
normal form (`Maildrop.normalizeEmail_normalizeEmail`). It is plain if the email has no
zero character, and an email that a sender claims has none if the sender's text has none
(`Maildrop.Sender.plainEmail_of_parse?`).
-/

namespace Maildrop

namespace Text

/-! ### Trimming -/

/-- A text with blanks at neither end is left as it is. -/
theorem trim_of_ends {t : Text} (hhead : ∀ c ∈ t.head?, ¬isBlank c)
    (hlast : ∀ c ∈ t.getLast?, ¬isBlank c) : trim t = t := by
  have hstart : ∀ s : Text, (∀ c ∈ s.head?, ¬isBlank c) → s.dropWhile isBlank = s := by
    intro s hs
    cases s with
    | nil => rfl
    | cons c s => exact List.dropWhile_cons_of_neg (hs c rfl)
  rw [trim, trimStart, hstart t hhead, trimEnd, dropEndWhile, hstart t.reverse,
    List.reverse_reverse]
  rwa [List.head?_reverse]

theorem head?_dropWhile (p : Char → Bool) (t : Text) : ∀ c ∈ (t.dropWhile p).head?, ¬p c := by
  intro c hc
  have := List.head?_dropWhile_not p t
  rw [hc] at this
  simpa using this

/-- A trimmed text starts with no blank. -/
theorem head?_trim (t : Text) : ∀ c ∈ (trim t).head?, ¬isBlank c := by
  intro c hc
  -- what is trimmed at the end is a beginning of what is trimmed at the front
  have happend := dropEndWhile_append_takeWhile isBlank (trimStart t)
  refine head?_dropWhile isBlank t c ?_
  change c ∈ (trimStart t).head?
  rw [← happend, List.head?_append]
  change c ∈ (trim t).head?.or _
  rw [hc]
  rfl

/-- A trimmed text ends with no blank. -/
theorem getLast?_trim (t : Text) : ∀ c ∈ (trim t).getLast?, ¬isBlank c := by
  intro c hc
  rw [getLast?_dropEndWhile isBlank _ c hc]
  exact Bool.false_ne_true

/-- What a trimmed text holds has been in the text. -/
theorem trim_subset (t : Text) : trim t ⊆ t := by
  intro c hc
  rw [trim, trimEnd, dropEndWhile, List.mem_reverse] at hc
  have hmem := (List.dropWhile_suffix _).subset hc
  exact (List.dropWhile_suffix _).subset (List.mem_reverse.mp hmem)

end Text

/-! ### Emails in normal form -/

/-- Only small characters stand in a normal form. -/
theorem isSmall_of_mem_normalizeEmail {email : String} :
    ∀ c ∈ (normalizeEmail email).toList, Text.IsSmall c := by
  rw [normalizeEmail, String.toList_ofList]
  exact Text.isSmall_of_mem_lowercase

/-- There is nothing to trim at a normal form: it starts and ends as the trimmed email did. -/
theorem trim_normalizeEmail (email : String) :
    Text.trim (normalizeEmail email).toList = (normalizeEmail email).toList := by
  rw [normalizeEmail, String.toList_ofList]
  exact Text.trim_of_ends (Text.head?_lowercaseAfter _ (Text.head?_trim _))
    (Text.getLast?_lowercaseAfter _ (Text.getLast?_trim _))

/-- **A normal form is its own normal form.** -/
@[simp] theorem normalizeEmail_normalizeEmail (email : String) :
    normalizeEmail (normalizeEmail email) = normalizeEmail email := by
  rw [normalizeEmail, trim_normalizeEmail, Text.lowercase_of_isSmall isSmall_of_mem_normalizeEmail,
    String.ofList_toList]

/-- An email in normal form is its own key in memory. -/
theorem key_of_normal {email : String} (h : normalizeEmail email = email) :
    Store.Memory.key email = email := by
  rw [Store.Memory.key, Text.lowercase_of_isSmall (h ▸ isSmall_of_mem_normalizeEmail),
    String.ofList_toList]

/-- None of the 26 capital letters of ASCII is small. -/
theorem Text.not_isSmall_capital {i : Nat} (hi : i < 26) : ¬IsSmall (Char.ofNat (0x41 + i)) := by
  have hchange : ∀ i < 26, lowerChar (Char.ofNat (0x41 + i)) ≠ Char.ofNat (0x41 + i) := by
    decide
  exact fun h => hchange i hi h.lower

/-- There are no capital letters of ASCII among the octets of an email in normal form. -/
theorem toLower_of_normal {email : String} (h : normalizeEmail email = email) :
    ∀ b ∈ Utf8.encode email.toList, Ascii.toLower b = b := by
  intro b hb
  -- a capital among the octets would be a capital among the characters
  have hcapital : ¬Ascii.isCapital b := by
    intro hcap
    simp only [Ascii.isCapital, Bool.and_eq_true, decide_eq_true_eq,
      UInt8.le_iff_toNat_le] at hcap
    change 0x41 ≤ b.toNat ∧ b.toNat ≤ 0x5A at hcap
    have hmem := Utf8.ofNat_mem_of_mem_encode hb
      (by rw [UInt8.lt_iff_toNat_lt]; change b.toNat < 0x80; omega)
    refine Text.not_isSmall_capital (i := b.toNat - 0x41) (by omega) ?_
    rw [show 0x41 + (b.toNat - 0x41) = b.toNat by omega]
    exact isSmall_of_mem_normalizeEmail _ (h.symm ▸ hmem)
  rw [Ascii.toLower, if_neg hcapital]

/-- **An email about which stores agree**: in normal form, and without a zero character. -/
structure PlainEmail (email : String) : Prop where
  normal : normalizeEmail email = email
  nulFree : Char.ofNat 0 ∉ email.toList

/-- The normal form of an email without a zero character is plain. -/
theorem plainEmail_normalizeEmail {email : String} (h : Char.ofNat 0 ∉ email.toList) :
    PlainEmail (normalizeEmail email) where
  normal := normalizeEmail_normalizeEmail email
  nulFree := by
    intro hmem
    rw [normalizeEmail, String.toList_ofList] at hmem
    exact h (Text.trim_subset _ (Text.zero_mem_of_mem_lowercase hmem))

/-! ### Comparing octets -/

namespace Store

/-- Octets agree with themselves. -/
@[simp] theorem agree_self (s : Bytes) : agree s s := by
  induction s with
  | nil => rfl
  | cons b s ih => simp [agree, ih]

/-- Every email is the same as itself. -/
@[simp] theorem sameEmail_self (x : String) : sameEmail x x := by
  simp [sameEmail]

/-- Only the zero octet is zero in small letters. -/
theorem toLower_eq_zero {b : UInt8} : Ascii.toLower b = 0 ↔ b = 0 := by
  constructor
  · intro h
    rw [Ascii.toLower] at h
    split at h
    · next hcap =>
      simp only [Ascii.isCapital, Bool.and_eq_true, decide_eq_true_eq,
        UInt8.le_iff_toNat_le] at hcap
      change 0x41 ≤ b.toNat ∧ b.toNat ≤ 0x5A at hcap
      have hzero : (b.toNat + 0x20) % 256 = 0 := congrArg UInt8.toNat h
      omega
    · exact h
  · rintro rfl
    rfl

/-- Agreeing is mutual. -/
theorem agree_comm (s t : Bytes) : agree s t = agree t s := by
  induction s generalizing t with
  | nil => cases t <;> rfl
  | cons a s ih =>
    cases t with
    | nil => rfl
    | cons b t =>
      rw [agree, agree, ih]
      by_cases h : Ascii.toLower a = Ascii.toLower b
      · have hzero : a = 0 ↔ b = 0 := by rw [← toLower_eq_zero, h, toLower_eq_zero]
        have hbeq : (a == 0) = (b == 0) :=
          Bool.eq_iff_iff.mpr (by rw [beq_iff_eq, beq_iff_eq, hzero])
        rw [h, hbeq]
      · rw [beq_eq_false_iff_ne.mpr h, beq_eq_false_iff_ne.mpr (Ne.symm h), Bool.false_and,
          Bool.false_and]
/-- Where there are no capital letters, only equal octets agree with octets none of which is
zero. -/
theorem agree_iff {s t : Bytes} (hs : ∀ b ∈ s, Ascii.toLower b = b)
    (ht : ∀ b ∈ t, b ≠ 0 ∧ Ascii.toLower b = b) : agree s t ↔ s = t := by
  induction s generalizing t with
  | nil => cases t <;> simp [agree]
  | cons a s ih =>
    cases t with
    | nil => simp [agree]
    | cons b t =>
      have ha := hs a List.mem_cons_self
      obtain ⟨hb0, hb⟩ := ht b List.mem_cons_self
      have ih' := ih (fun x hx => hs x (List.mem_cons_of_mem _ hx))
        (fun x hx => ht x (List.mem_cons_of_mem _ hx))
      have hhead : a = b → a ≠ 0 := fun h => h ▸ hb0
      simp only [agree, ha, hb, Bool.and_eq_true, Bool.or_eq_true, beq_iff_eq, ih',
        List.cons.injEq]
      exact ⟨fun h => ⟨h.1, h.2.resolve_left (hhead h.1)⟩, fun h => ⟨h.1, .inr h.2⟩⟩

end Store

/-- The octets of a plain email are neither zero nor capital letters. -/
theorem PlainEmail.octets {email : String} (h : PlainEmail email) :
    ∀ b ∈ Utf8.encode email.toList, b ≠ 0 ∧ Ascii.toLower b = b := by
  refine fun b hb => ⟨?_, toLower_of_normal h.normal b hb⟩
  rintro rfl
  exact h.nulFree (Utf8.ofNat_mem_of_mem_encode hb (by decide))

/-- **An email in normal form is the same as a plain one to a database only if the two are
equal.** -/
theorem PlainEmail.sameEmail_iff {x y : String} (hx : normalizeEmail x = x) (hy : PlainEmail y) :
    Store.sameEmail x y ↔ x = y := by
  constructor
  · intro h
    simp only [Store.sameEmail, Bool.and_eq_true] at h
    have heq := (Store.agree_iff (toLower_of_normal hx) hy.octets).mp h.2
    exact String.toList_inj.mp (Utf8.encode_injective heq)
  · rintro rfl
    exact Store.sameEmail_self x

/-! ### Claimed emails -/

namespace Sender

/-- An email in angle brackets is what stands between them. -/
theorem eq_of_angled? {t e : Text} (h : angled? t = some e) : t = '<' :: (e ++ ['>']) := by
  unfold angled? at h
  split at h
  · next s =>
    split at h
    · next hs =>
      obtain rfl : s.dropLast = e := Option.some.inj h
      rw [List.dropLast_append_getLast? _ hs.1]
    · exact absurd h (by simp)
  · exact absurd h (by simp)

/-- An email that a text in angle brackets claims is part of the text. -/
theorem subset_of_angled? {t name : Text} {c : Sender}
    (h : (angled? t).map (named name) = some c) : c.email.toList ⊆ t := by
  obtain ⟨e, he, rfl⟩ := Option.map_eq_some_iff.mp h
  rw [eq_of_angled? he, named, String.toList_ofList]
  exact fun x hx => List.mem_cons_of_mem _ (List.mem_append_left _ hx)

theorem subset_of_quoted? {t : Text} {c : Sender} (h : quoted? t = some c) :
    c.email.toList ⊆ t := by
  unfold quoted? at h
  split at h
  · next s =>
    simp only at h
    split at h
    · next b rest hrest =>
      -- the email is part of what is behind the second quote
      intro x hx
      have hmem := (List.dropWhile_suffix _).subset (subset_of_angled? h hx)
      refine List.mem_cons_of_mem _ ((List.dropWhile_suffix (· != '\"')).subset ?_)
      rw [hrest]
      exact List.mem_cons_of_mem _ hmem
    · exact absurd h (by simp)
  · exact absurd h (by simp)

theorem subset_of_unquoted? {t : Text} {c : Sender} (h : unquoted? t = some c) :
    c.email.toList ⊆ t := by
  unfold unquoted? at h
  simp only at h
  split at h
  · exact absurd h (by simp)
  · exact fun x hx => (List.dropWhile_suffix _).subset (subset_of_angled? h hx)

theorem subset_of_bare? {t : Text} {c : Sender} (h : bare? t = some c) : c.email.toList ⊆ t := by
  rw [bare?] at h
  split at h
  · obtain rfl := Option.some.inj h
    rw [named, String.toList_ofList]
    exact List.Subset.refl t
  · exact absurd h (by simp)

/-- **A claimed email is part of the sender's text.** -/
theorem subset_of_parse? {s : String} {c : Sender} (h : parse? s = some c) :
    c.email.toList ⊆ s.toList := by
  have hforms : c.email.toList ⊆ Text.trim s.toList := by
    rw [parse?] at h
    rcases Option.or_eq_some_iff.mp h with h | ⟨-, h⟩
    · exact subset_of_quoted? h
    · rcases Option.or_eq_some_iff.mp h with h | ⟨-, h⟩
      · exact subset_of_angled? h
      · rcases Option.or_eq_some_iff.mp h with h | ⟨-, h⟩
        · exact subset_of_unquoted? h
        · exact subset_of_bare? h
  exact List.Subset.trans hforms (Text.trim_subset _)

/-- The normal form of an email that is claimed without a zero character is plain. -/
theorem plainEmail_of_parse? {s : String} (hs : Char.ofNat 0 ∉ s.toList) {c : Sender}
    (h : parse? s = some c) : PlainEmail (normalizeEmail c.email) :=
  plainEmail_normalizeEmail fun hmem => hs (subset_of_parse? h hmem)

end Sender

end Maildrop
