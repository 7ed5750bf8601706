import Maildrop.Proofs.Sender
import Maildrop.Proofs.Store.Emails

/-!
# The normal form of an email

An email is put in normal form by trimming it and making it small, in this order. A second time
could go on where the first one stopped: small letters that are blanks would be trimmed again, and
small letters that have small letters of their own would be made small again. There are none of
either kind, though one capital letter becomes two characters, and a sigma becomes one of two.

What is in normal form is a text with blanks at neither end and with small characters
only (`Maildrop.normalizeEmail_eq_self_iff`), and such a text stays as it is under all that is
done to emails afterwards:

* it is its own normal form, and its own key in memory;
* it is its own small form in ASCII (`Maildrop.lowerAscii_of_normal`), so a database tells it
  from every other normal form, as long as no zero character hides the difference;
* it is an email if it has been made of one.

`Maildrop.normalizeEmail_projection` has these together.
-/

namespace Maildrop

namespace Text

/-- A text that trimming leaves as it is has blanks at neither end. -/
theorem trim_eq_self_iff {t : Text} :
    trim t = t ↔ (∀ c ∈ t.head?, ¬isBlank c) ∧ ∀ c ∈ t.getLast?, ¬isBlank c := by
  constructor
  · intro h
    exact ⟨h ▸ head?_trim t, h ▸ getLast?_trim t⟩
  · rintro ⟨hhead, hlast⟩
    exact trim_of_ends hhead hlast

/-- A small character is no capital letter of ASCII. -/
theorem lowerAsciiChar_of_isSmall {c : Char} (h : IsSmall c) : lowerAsciiChar c = c := by
  obtain hc | ⟨i, hi, rfl⟩ := lowerAsciiChar_cases c
  · exact hc
  · exact absurd h (not_isSmall_capital hi)

end Text

/-- **The normal forms are the texts with blanks at neither end and small characters only.** -/
theorem normalizeEmail_eq_self_iff {email : String} :
    normalizeEmail email = email ↔
      (∀ c ∈ email.toList.head?, ¬Text.isBlank c) ∧ (∀ c ∈ email.toList.getLast?, ¬Text.isBlank c) ∧
        ∀ c ∈ email.toList, Text.IsSmall c := by
  constructor
  · intro h
    obtain ⟨hhead, hlast⟩ := Text.trim_eq_self_iff.mp (h ▸ trim_normalizeEmail email)
    exact ⟨hhead, hlast, h ▸ isSmall_of_mem_normalizeEmail⟩
  · rintro ⟨hhead, hlast, hsmall⟩
    rw [normalizeEmail, Text.trim_of_ends hhead hlast, Text.lowercase_of_isSmall hsmall,
      String.ofList_toList]

/-- An email in normal form has no capital letters of ASCII. -/
theorem lowerAscii_of_normal {email : String} (h : normalizeEmail email = email) :
    Text.lowerAscii email.toList = email.toList := by
  obtain ⟨-, -, hsmall⟩ := normalizeEmail_eq_self_iff.mp h
  exact (List.map_congr_left fun c hc => Text.lowerAsciiChar_of_isSmall (hsmall c hc)).trans
    (List.map_id' _)

/-- **Putting an email in normal form is a projection that respects every key.** -/
theorem normalizeEmail_projection (e e' : String) :
    normalizeEmail (normalizeEmail e) = normalizeEmail e ∧
      Store.Memory.key (normalizeEmail e) = normalizeEmail e ∧
      (Char.ofNat 0 ∉ (normalizeEmail e).toList → Char.ofNat 0 ∉ (normalizeEmail e').toList →
        (Text.lowerAscii (normalizeEmail e).toList = Text.lowerAscii (normalizeEmail e').toList ∨
          Store.sameEmail (normalizeEmail e) (normalizeEmail e')) →
        normalizeEmail e = normalizeEmail e') ∧
      (Sender.isEmail e.toList → Sender.isEmail (normalizeEmail e).toList) := by
  have hnormal := normalizeEmail_normalizeEmail e
  have hnormal' := normalizeEmail_normalizeEmail e'
  refine ⟨hnormal, key_of_normal hnormal, fun _ hzero' hsame => ?_,
    Sender.isEmail_normalizeEmail⟩
  -- without a zero character the database sees no more and no less than small ASCII letters
  have hlower : Text.lowerAscii (normalizeEmail e).toList =
      Text.lowerAscii (normalizeEmail e').toList :=
    hsame.elim id (Store.sameEmail_iff_lowerAscii_eq hzero').mp
  rw [lowerAscii_of_normal hnormal, lowerAscii_of_normal hnormal'] at hlower
  exact String.toList_inj.mp hlower

/-- The last sigma of each word becomes a final one, also behind a dotted I and a full stop,
and stays one when the email is made small again. -/
theorem normalizeEmail_projection_sigmas :
    let e := "ΟΔΟΣ@İ.Σ"
    let e' := "\t Οδος@İ.ς\n"
    normalizeEmail e = "οδος@i\u0307.ς" ∧
      Char.ofNat 0 ∉ (normalizeEmail e).toList ∧ Char.ofNat 0 ∉ (normalizeEmail e').toList ∧
      Store.sameEmail (normalizeEmail e) (normalizeEmail e') ∧ Sender.isEmail e.toList ∧
      normalizeEmail e = normalizeEmail e' ∧ Sender.isEmail (normalizeEmail e).toList := by
  intro e e'
  have hform : normalizeEmail e = "οδος@i\u0307.ς" := by decide +kernel
  have hzero : Char.ofNat 0 ∉ (normalizeEmail e).toList := by decide +kernel
  have hzero' : Char.ofNat 0 ∉ (normalizeEmail e').toList := by decide +kernel
  have hsame : Store.sameEmail (normalizeEmail e) (normalizeEmail e') := by decide +kernel
  have hemail : Sender.isEmail e.toList := by decide +kernel
  obtain ⟨-, -, hinj, hshape⟩ := normalizeEmail_projection e e'
  exact ⟨hform, hzero, hzero', hsame, hemail, hinj hzero hzero' (.inr hsame), hshape hemail⟩

end Maildrop
