import Maildrop.Proofs.Registry
import Maildrop.Proofs.Store.Medium
import Mathlib.Data.Finset.Card
import Mathlib.Data.List.Find

/-!
# The records of senders

The registry makes one record for each email, and it makes it when the email is *sighted* for
the first time, with the name that is claimed then and the number that is next. So the records
can be told from the sightings alone (`Maildrop.Registry.records`), in any of the ways in
which one would describe them: the emails that have a record are those that have been sighted
(`Maildrop.Registry.mem_emails_records`), there is one record for each of them
(`Maildrop.Registry.length_records`), and the record of an email is that of its first sighting
(`Maildrop.Registry.find?_records`).

A store whose emails are in normal form makes its records in this way, whatever it is kept in,
as long as the new emails are plain (`Maildrop.Registry.addresses_register`).
-/

namespace Maildrop

open Store (Ledger Medium Rules)

/-! ### Records of sightings -/

namespace Registry

/-- The records after one more sighting, that of an email in normal form. -/
def sight (as : List Address) (x : Sender) : List Address :=
  if x.email ∈ as.map Address.email then as else as ++ [⟨as.length + 1, x.email, x.name⟩]

/-- **The records of some sightings**, oldest first. -/
def records (xs : List Sender) : List Address := xs.foldl sight []

/-- How many different emails have been sighted. -/
def countEmails (xs : List Sender) : Nat := (xs.map Sender.email).toFinset.card

variable {as : List Address} {xs ys : List Sender} {x : Sender} {email : String}

/-- An email that has no record gets one. -/
theorem sight_of_not_mem (h : x.email ∉ as.map Address.email) :
    sight as x = as ++ [⟨as.length + 1, x.email, x.name⟩] := if_neg h

theorem records_append (xs ys : List Sender) : records (xs ++ ys) = ys.foldl sight (records xs) :=
  List.foldl_append

/-- No sighting takes a record away. -/
theorem isPrefix_foldl_sight (as : List Address) (xs : List Sender) :
    as <+: xs.foldl sight as := by
  induction xs generalizing as with
  | nil => exact List.prefix_refl as
  | cons x xs ih =>
    refine List.IsPrefix.trans ?_ (ih (sight as x))
    rw [sight]
    split
    · exact List.prefix_refl as
    · exact List.prefix_append ..

theorem mem_emails_sight :
    email ∈ (sight as x).map Address.email ↔ email ∈ as.map Address.email ∨ email = x.email := by
  rw [sight]
  split
  · next h =>
    constructor
    · exact .inl
    · rintro (h' | rfl)
      · exact h'
      · exact h
  · rw [List.map_append, List.mem_append, List.map_singleton, List.mem_singleton]

/-- **The emails that have a record are those that have been sighted.** -/
theorem mem_emails_records :
    email ∈ (records xs).map Address.email ↔ email ∈ xs.map Sender.email := by
  induction xs using List.reverseRecOn with
  | nil => rfl
  | append_singleton xs x ih =>
    rw [records_append, List.foldl_cons, List.foldl_nil, mem_emails_sight, ih, List.map_append,
      List.mem_append, List.map_singleton, List.mem_singleton]

/-- There is one record for each email that has been sighted. -/
theorem length_records : (records xs).length = countEmails xs := by
  induction xs using List.reverseRecOn with
  | nil => rfl
  | append_singleton xs x ih =>
    have hset : ((xs ++ [x]).map Sender.email).toFinset =
        insert x.email (xs.map Sender.email).toFinset := by
      rw [List.map_append, List.toFinset_append, List.map_singleton, Finset.insert_eq,
        Finset.union_comm]
      rfl
    rw [countEmails, hset, records_append, List.foldl_cons, List.foldl_nil]
    by_cases hx : x.email ∈ (records xs).map Address.email
    · rw [sight, if_pos hx, Finset.insert_eq_of_mem, ih, countEmails]
      rwa [List.mem_toFinset, ← mem_emails_records]
    · rw [sight_of_not_mem hx, Finset.card_insert_of_notMem, List.length_append, ih, countEmails]
      · rfl
      · rwa [List.mem_toFinset, ← mem_emails_records]

/-- An email that has not been sighted has no record. -/
theorem find?_records_of_not_mem (h : email ∉ xs.map Sender.email) :
    (records xs).find? (fun a => a.email = email) = none := by
  refine List.find?_eq_none.mpr fun a ha heq => h ?_
  rw [← mem_emails_records, ← of_decide_eq_true heq]
  exact List.mem_map_of_mem ha

/-- **The record of an email is that of its first sighting.** -/
theorem find?_records {before : List Sender} (after : List Sender)
    (h : x.email ∉ before.map Sender.email) :
    (records (before ++ x :: after)).find? (fun a => a.email = x.email) =
      some ⟨countEmails before + 1, x.email, x.name⟩ := by
  have hfirst : records (before ++ [x]) =
      records before ++ [⟨countEmails before + 1, x.email, x.name⟩] := by
    rw [records_append, List.foldl_cons, List.foldl_nil, sight_of_not_mem, length_records]
    rwa [mem_emails_records]
  have hsplit : before ++ x :: after = (before ++ [x]) ++ after := by simp
  -- what comes later is put behind
  obtain ⟨later, hlater⟩ := isPrefix_foldl_sight (records (before ++ [x])) after
  rw [hsplit, records_append, ← hlater, hfirst, List.append_assoc, List.find?_append,
    find?_records_of_not_mem h]
  simp

/-- An email that has been sighted has a first sighting. -/
theorem exists_first {xs : List Sender} {email : String}
    (h : email ∈ xs.map Sender.email) :
    ∃ before x after, xs = before ++ x :: after ∧ x.email = email ∧
      x.email ∉ before.map Sender.email := by
  obtain ⟨y, hy, rfl⟩ := List.mem_map.mp h
  rcases hf : xs.find? fun x => x.email = y.email with _ | x
  · exact absurd (decide_eq_true rfl) (List.find?_eq_none.mp hf y hy)
  · obtain ⟨hx, before, after, hsplit, hbefore⟩ := List.find?_eq_some_iff_append.mp hf
    have hxy := of_decide_eq_true hx
    refine ⟨before, x, after, hsplit, hxy, fun hmem => ?_⟩
    obtain ⟨z, hz, hzx⟩ := List.mem_map.mp hmem
    exact absurd (hzx.trans hxy) (by simpa using hbefore z hz)

end Registry

/-! ### Stores -/

section Ledger

variable {k : Medium} {l : Ledger}

/-- Among emails in normal form a plain one is looked up as it is. -/
theorem Store.Medium.addressByEmail?_eq
    (hl : ∀ a ∈ l.addresses, normalizeEmail a.email = a.email) {email : String}
    (h : PlainEmail email) :
    k.rules.addressByEmail? l email = l.addresses.find? fun a => a.email = email := by
  refine List.find?_congr fun a ha => Bool.eq_iff_iff.mpr ?_
  rw [k.same_iff_of_normal (hl a ha) h, decide_eq_true_iff]

/-- **Registering an email leaves the records that its sighting leaves.** -/
theorem Registry.addresses_register
    (hl : ∀ a ∈ l.addresses, normalizeEmail a.email = a.email) {email : String}
    (h : PlainEmail (normalizeEmail email)) (name : Option String) :
    (k.rules.register l email name).addresses =
      sight l.addresses ⟨name, normalizeEmail email⟩ := by
  rw [Rules.register, k.addressByEmail?_eq hl h]
  by_cases hmem : normalizeEmail email ∈ l.addresses.map Address.email
  · obtain ⟨a, ha, heq⟩ := List.mem_map.mp hmem
    rcases hf : l.addresses.find? fun a => a.email = normalizeEmail email with _ | b
    · exact absurd heq (by simpa using List.find?_eq_none.mp hf a ha)
    · rw [hf, sight, if_pos hmem]
  · have hf : (l.addresses.find? fun a => a.email = normalizeEmail email) = none :=
      List.find?_eq_none.mpr fun a ha heq =>
        hmem (List.mem_map.mpr ⟨a, ha, of_decide_eq_true heq⟩)
    rw [hf, sight_of_not_mem hmem]
    rfl

end Ledger

end Maildrop
