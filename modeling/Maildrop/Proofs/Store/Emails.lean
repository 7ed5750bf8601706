import Maildrop.Proofs.Store.Medium
import Maildrop.Proofs.Text.Ascii
import Mathlib.Data.List.Find

/-!
# Emails as they are written

A store in memory compares emails in small letters of all scripts, and a database makes ASCII
letters small only. Whoever hands them emails in normal form does not notice. This module is
about those who do not: makers and finders of addresses whose emails are written in any way,
as long as they have no zero character.

Of such emails the database tells more apart than the memory does, and never less
(`Maildrop.Store.key_eq_of_lowerAscii_eq`): two emails that differ in the case of ASCII letters
only are the same to both, and other emails may be the same to the memory alone, as those are
that differ in the case of an accented letter. If one of two such emails has been made an
address, the stores part at the other; and nothing else ever makes them part
(`Maildrop.Store.Medium.history_emails_iff`), so on emails of ASCII characters they do not
(`Maildrop.Store.Medium.history_emails_of_ascii`).
-/

namespace Maildrop.Store

/-! ### Emails in octets and in small letters -/

/-- Octets none of which is zero agree if they are the same in small letters. -/
theorem agree_iff_map_eq {s t : Bytes} (hs : ∀ b ∈ s, b ≠ 0) :
    agree s t ↔ s.map Ascii.toLower = t.map Ascii.toLower := by
  induction s generalizing t with
  | nil => cases t <;> simp [agree]
  | cons a s ih =>
    cases t with
    | nil => simp [agree]
    | cons b t =>
      obtain ⟨ha, hs⟩ := List.forall_mem_cons.mp hs
      have hzero : (a == 0) = false := beq_eq_false_iff_ne.mpr ha
      rw [agree, hzero, Bool.false_or, Bool.and_eq_true, beq_iff_eq, ih hs, List.map_cons,
        List.map_cons, List.cons.injEq]

/-- **To a database, emails are the same as one without a zero character if they are the same
in small letters of ASCII.** -/
theorem sameEmail_iff_lowerAscii_eq {x y : String} (hy : Char.ofNat 0 ∉ y.toList) :
    sameEmail x y ↔ Text.lowerAscii x.toList = Text.lowerAscii y.toList := by
  have hzero : ∀ b ∈ Utf8.encode y.toList, b ≠ 0 := by
    rintro b hb rfl
    exact hy (Utf8.ofNat_mem_of_mem_encode hb (by decide))
  have hagree : agree (Utf8.encode x.toList) (Utf8.encode y.toList) ↔
      Text.lowerAscii x.toList = Text.lowerAscii y.toList := by
    rw [agree_comm, agree_iff_map_eq hzero, Utf8.map_toLower_encode, Utf8.map_toLower_encode,
      Utf8.encode_injective.eq_iff, eq_comm]
  rw [sameEmail, Bool.and_eq_true, hagree, beq_iff_eq, and_iff_right_iff_imp]
  intro h
  -- making letters small does not change how many octets there are
  have hlength := congrArg List.length (congrArg Utf8.encode h)
  rwa [← Utf8.map_toLower_encode, ← Utf8.map_toLower_encode, List.length_map,
    List.length_map] at hlength

/-- **The memory tells no two emails apart that are the same in small letters of ASCII.** -/
theorem key_eq_of_lowerAscii_eq {x y : String}
    (h : Text.lowerAscii x.toList = Text.lowerAscii y.toList) : Memory.key x = Memory.key y := by
  rw [Memory.key, Memory.key, ← Text.lowercase_lowerAscii, h, Text.lowercase_lowerAscii]

/-! ### Emails on which the stores are of one mind -/

/-- **If the memory does not tell two emails apart, then they differ in the case of ASCII
letters only**, so that the database does not either. -/
def Concordant (x y : String) : Prop :=
  Memory.key x = Memory.key y → Text.lowerAscii x.toList = Text.lowerAscii y.toList

instance (x y : String) : Decidable (Concordant x y) := inferInstanceAs (Decidable (_ → _))

/-- On such emails, and only on them, the rules of the two stores agree. -/
theorem same_eq_iff {x y : String} (hy : Char.ofNat 0 ∉ y.toList) :
    Memory.rules.same x y = Database.rules.same x y ↔ Concordant x y := by
  have hmemory : Memory.rules.same x y ↔ Memory.key x = Memory.key y := beq_iff_eq
  have hdatabase : Database.rules.same x y ↔
      Text.lowerAscii x.toList = Text.lowerAscii y.toList := sameEmail_iff_lowerAscii_eq hy
  rw [Bool.eq_iff_iff, hmemory, hdatabase]
  exact ⟨Iff.mp, fun h => ⟨h, key_eq_of_lowerAscii_eq⟩⟩

/-- Emails that are the same in small letters of ASCII are of one mind with the same emails. -/
theorem concordant_congr {x x' : String} (h : Text.lowerAscii x.toList = Text.lowerAscii x'.toList)
    (y : String) : Concordant x y ↔ Concordant x' y := by
  rw [Concordant, Concordant, h, key_eq_of_lowerAscii_eq h]

/-- The memory is of one mind with the database on every email of ASCII characters. -/
theorem concordant_of_ascii {x y : String} (hx : ∀ c ∈ x.toList, c.toNat < 0x80)
    (hy : ∀ c ∈ y.toList, c.toNat < 0x80) : Concordant x y := by
  intro hkey
  have h : Text.lowercase x.toList = Text.lowercase y.toList := by
    simpa only [Memory.key, String.toList_ofList] using congrArg String.toList hkey
  rwa [← Text.lowercase_lowerAscii x.toList, ← Text.lowercase_lowerAscii y.toList,
    Text.lowercase_of_isSmall (Text.isSmall_of_mem_lowerAscii hx),
    Text.lowercase_of_isSmall (Text.isSmall_of_mem_lowerAscii hy)] at h

/-- **A call with an email in it.** -/
inductive EmailCall where
  /-- Make an address. -/
  | create (email : String) (name : Option String)
  /-- The address with an email. -/
  | find (email : String)

namespace EmailCall

/-- The email, as it is written. -/
def email : EmailCall → String
  | create email _ => email
  | find email => email

/-- The call of the store. -/
def call : EmailCall → Call
  | create email name => .createAddress email name
  | find email => .addressByEmail email

/-- Whether the call is to make an address. -/
def Creates : EmailCall → Prop
  | create _ _ => True
  | find _ => False

instance : DecidablePred Creates
  | create _ _ => .isTrue trivial
  | find _ => .isFalse id

/-! ### One call -/

variable {c : EmailCall} {l : Ledger}

/-- Where all addresses are of one mind with the email of a call, the stores do the same. -/
theorem step_eq (hc : Char.ofNat 0 ∉ c.email.toList)
    (h : ∀ a ∈ l.addresses, Concordant a.email c.email) :
    Database.rules.step c.call l = Memory.rules.step c.call l := by
  have hfind : Database.rules.addressByEmail? l c.email = Memory.rules.addressByEmail? l c.email :=
    List.find?_congr fun a ha => ((same_eq_iff hc).mpr (h a ha)).symm
  cases c with
  | create email name =>
    change Database.rules.addressByEmail? l email = Memory.rules.addressByEmail? l email at hfind
    simp only [call, Rules.step, Rules.create, hfind]
  | find email =>
    change Database.rules.addressByEmail? l email = Memory.rules.addressByEmail? l email at hfind
    simp only [call, Rules.step, hfind]

/-- Whether the email has an address already can be seen from the answer. -/
theorem isSome_eq_of_result_eq {r r' : Rules}
    (h : (r.step c.call l).result = (r'.step c.call l).result) :
    (r.addressByEmail? l c.email).isSome = (r'.addressByEmail? l c.email).isSome := by
  cases c with
  | create email name =>
    have hcreate : (r.create l email name).1 = (r'.create l email name).1 := Except.ok.inj h
    change (r.addressByEmail? l email).isSome = (r'.addressByEmail? l email).isSome
    obtain ⟨hnew, heq⟩ | ⟨hold, heq⟩ := r.create_cases l email name <;>
      obtain ⟨hnew', heq'⟩ | ⟨hold', heq'⟩ := r'.create_cases l email name
    · rw [hnew, hnew']
    · rw [heq, heq'] at hcreate
      cases hcreate
    · rw [heq, heq'] at hcreate
      cases hcreate
    · rw [hold, hold']
  | find email => exact congrArg Option.isSome (Except.ok.inj h)

/-- **The stores answer a call alike only if all addresses are of one mind with its email.** -/
theorem concordant_of_result_eq (hs : Memory.rules.Sound l) (hc : Char.ofNat 0 ∉ c.email.toList)
    (h : (Memory.rules.step c.call l).result = (Database.rules.step c.call l).result) :
    ∀ a ∈ l.addresses, Concordant a.email c.email := by
  intro a ha hkey
  have hmemory : (Memory.rules.addressByEmail? l c.email).isSome :=
    List.find?_isSome.mpr ⟨a, ha, beq_iff_eq.mpr hkey⟩
  rw [isSome_eq_of_result_eq h] at hmemory
  -- what the database finds is the same to the memory too, so it is the address at hand
  obtain ⟨b, hb, hsame⟩ := List.find?_isSome.mp hmemory
  have hlower := (sameEmail_iff_lowerAscii_eq hc).mp hsame
  have hkeys : Memory.key a.email = Memory.key b.email :=
    hkey.trans (key_eq_of_lowerAscii_eq hlower).symm
  rw [hs.eq_of_same ha hb (beq_iff_eq.mpr hkeys) (beq_iff_eq.mpr hkeys.symm), hlower]

/-- Of the addresses after a call, a new one included, all are of one mind with an email if
those before it are and the call does not make an address that is not. -/
theorem forall_concordant_step (h : ∀ a ∈ l.addresses, Concordant a.email c.email) (e : String) :
    (∀ a ∈ (Memory.rules.step c.call l).state.addresses, Concordant a.email e) ↔
      (∀ a ∈ l.addresses, Concordant a.email e) ∧ (c.Creates → Concordant c.email e) := by
  cases c with
  | find email => exact ⟨fun ha => ⟨ha, False.elim⟩, And.left⟩
  | create email name =>
    have hcreates : ((create email name).Creates → Concordant (create email name).email e) ↔
        Concordant email e := forall_const True
    have hstate : (Memory.rules.step (create email name).call l).state =
        (Memory.rules.create l email name).2 := rfl
    rw [hcreates, hstate]
    obtain ⟨-, heq⟩ | ⟨hold, heq⟩ := Memory.rules.create_cases l email name
    · rw [heq, Ledger.addAddress, List.forall_mem_append, List.forall_mem_singleton]
      rfl
    · -- the email is that of an address but for the case of ASCII letters
      rw [heq, iff_self_and]
      intro ha
      obtain ⟨b, hb, hkey⟩ := List.find?_isSome.mp hold
      have hlower := h b hb (beq_iff_eq.mp hkey)
      exact (concordant_congr hlower e).mp (ha b hb)

end EmailCall

/-! ### All calls -/

/-- From a ledger on, the stores answer calls alike if and only if the emails of the calls are
of one mind with the addresses of the ledger and with the emails to be made addresses before
them. -/
theorem history_emails_iff_of_sound {l : Ledger} (hs : Memory.rules.Sound l) {cs : List EmailCall}
    (hcs : ∀ c ∈ cs, Char.ofNat 0 ∉ c.email.toList) :
    Memory.rules.server.history (cs.map EmailCall.call) l =
        Database.rules.server.history (cs.map EmailCall.call) l ↔
      (∀ c ∈ cs, ∀ a ∈ l.addresses, Concordant a.email c.email) ∧
        cs.Pairwise fun c d => c.Creates → Concordant c.email d.email := by
  induction cs generalizing l with
  | nil => simp [Backend.history]
  | cons c cs ih =>
    obtain ⟨hc, hcs⟩ := List.forall_mem_cons.mp hcs
    rw [List.map_cons, Backend.history, Backend.history, List.cons.injEq, List.forall_mem_cons,
      List.pairwise_cons]
    by_cases h : ∀ a ∈ l.addresses, Concordant a.email c.email
    · have hstep : Database.rules.server.step c.call l = Memory.rules.server.step c.call l :=
        EmailCall.step_eq hc h
      rw [hstep, ih (Rules.sound_step hs c.call) hcs]
      have hlater : (∀ d ∈ cs, ∀ a ∈ (Memory.rules.server.step c.call l).state.addresses,
            Concordant a.email d.email) ↔
          (∀ d ∈ cs, ∀ a ∈ l.addresses, Concordant a.email d.email) ∧
            ∀ d ∈ cs, c.Creates → Concordant c.email d.email := by
        rw [← forall₂_and]
        exact forall₂_congr fun d _ => EmailCall.forall_concordant_step h d.email
      rw [hlater]
      tauto
    · -- the stores part at this call
      refine iff_of_false (fun heq => h ?_) fun hall => h hall.1.1
      exact EmailCall.concordant_of_result_eq hs hc (eq_of_heq (Sigma.mk.inj heq.1).2)

namespace Medium

/-- **On emails as they are written, the two stores answer alike if and only if** the memory
tells every email from those that are to be made addresses before it, unless they differ in the
case of ASCII letters only. -/
theorem history_emails_iff {cs : List EmailCall}
    (h : ∀ c ∈ cs, Char.ofNat 0 ∉ c.email.toList) :
    Medium.memory.history (cs.map EmailCall.call) =
        Medium.database.history (cs.map EmailCall.call) ↔
      cs.Pairwise fun c d => c.Creates → Concordant c.email d.email := by
  rw [(Medium.memory.history_eq _).1, (Medium.database.history_eq _).1]
  refine (history_emails_iff_of_sound Rules.sound_empty h).trans (and_iff_right ?_)
  exact fun c _ a ha => absurd ha List.not_mem_nil

/-- **On emails of ASCII characters the two stores always answer alike.** -/
theorem history_emails_of_ascii {cs : List EmailCall}
    (h : ∀ c ∈ cs, ∀ x ∈ c.email.toList, 0 < x.toNat ∧ x.toNat < 0x80) :
    Medium.memory.history (cs.map EmailCall.call) =
      Medium.database.history (cs.map EmailCall.call) := by
  have hzero : ∀ c ∈ cs, Char.ofNat 0 ∉ c.email.toList :=
    fun c hc hmem => absurd (h c hc _ hmem).1 (by decide)
  rw [(Medium.memory.history_eq _).1, (Medium.database.history_eq _).1]
  refine (history_emails_iff_of_sound Rules.sound_empty hzero).mpr ⟨?_, ?_⟩
  · exact fun c _ a ha => absurd ha List.not_mem_nil
  · refine List.pairwise_of_forall_mem_list fun c hc d hd _ => ?_
    exact concordant_of_ascii (fun x hx => (h c hc x hx).2) fun x hx => (h d hd x hx).2

/-- The letters of an email may be ASCII or not: a store that made it an address finds it again
in capitals, as long as only ASCII letters change. -/
theorem history_eq_on_ascii_capitals :
    let cs : List EmailCall := [.create "jürgen@x.de" none, .find "JüRGEN@X.DE",
      .create "Jürgen@x.de" (some "Jürgen"), .find "jurgen@x.de"]
    (∀ c ∈ cs, Char.ofNat 0 ∉ c.email.toList) ∧
      Medium.memory.history (cs.map EmailCall.call) =
        Medium.database.history (cs.map EmailCall.call) :=
  ⟨by decide +kernel, (history_emails_iff (by decide +kernel)).mpr (by decide +kernel)⟩

/-- Whether an entry of a history is an email that was turned away. -/
def turnedAway : (c : Call) × c.Result → Bool
  | ⟨.createAddress _ _, .ok .taken⟩ => true
  | _ => false

/-- The stores do not always answer alike: of two emails that differ in the case of an accented
letter, the memory turns the second one away and the database makes it another address. -/
theorem history_ne_on_accented_capitals :
    ¬∀ cs : List EmailCall, (∀ c ∈ cs, Char.ofNat 0 ∉ c.email.toList) →
      Medium.memory.history (cs.map EmailCall.call) =
        Medium.database.history (cs.map EmailCall.call) := by
  intro h
  have heq := h [.create "É@x" none, .create "é@x" none] (by decide +kernel)
  exact absurd (congrArg (List.map turnedAway) heq) (by decide +kernel)

end Medium

end Maildrop.Store
