import Maildrop.Proofs.Registry
import Maildrop.Proofs.Store.Sharing
import Maildrop.Proofs.Store.Unreliable
import Maildrop.Store.Outage

/-!
# Registering the same sender at the same time

Getting or making an address takes up to three calls, and between them others may make the
same address. The two tests that decide, whether an email leads to an address and whether it
is taken, are the same test in different calls; and an address that is there once is there
ever after. So whoever finds no address and then finds the email taken will find an address
at the second look, whatever has been done meanwhile (`Maildrop.Registry.keeps_getOrCreate`).

From this follows what any number of parties get who register emails at the same time
(`Maildrop.Registry.race`): all get an address, those with the same email the same one, those
with different emails different ones.

If calls may fail, registering may fail too. But an error is returned only after no address
has been made (`Maildrop.Registry.keeps_creating_nothing`).
-/

namespace Maildrop

open Store (Action Call Creation Failure Ledger Medium Rules Sharing makesAddress)

namespace Store

/-- Whether a call makes an address. -/
def Call.isCreation : Call → Bool
  | .createAddress _ _ => true
  | _ => false

namespace Rules

variable {r : Rules} {l l' : Ledger}

/-- An address that has been made is the one to which its email leads. -/
theorem addressByEmail?_of_created {email : String} {name : Option String} {a : Address}
    (hsame : r.same email email) (h : (r.create l email name).1 = .created a) :
    r.addressByEmail? (r.create l email name).2 email = some a := by
  obtain ⟨hnew, heq⟩ | ⟨-, heq⟩ := r.create_cases l email name
  · rw [heq] at h ⊢
    obtain rfl := Creation.created.inj h
    -- no address before the new one has the email
    rw [addressByEmail?] at hnew
    rw [addressByEmail?, Ledger.addAddress, List.find?_append, hnew, Option.none_or,
      List.find?_singleton]
    exact if_pos hsame
  · rw [heq] at h
    exact absurd h (by simp)

/-- An email that is taken leads to an address. -/
theorem isSome_addressByEmail?_of_taken {email : String} {name : Option String}
    (h : (r.create l email name).1 = .taken) :
    (r.addressByEmail? (r.create l email name).2 email).isSome := by
  obtain ⟨-, heq⟩ | ⟨hsome, heq⟩ := r.create_cases l email name
  · rw [heq] at h
    exact absurd h (by simp)
  · rwa [heq]

end Rules

end Store

namespace Registry

open Submission (Error)

/-! ### One party among others -/

/-- **What registering an email asks of a store**: two look-ups by email and one new address
at most, and nothing else. -/
structure Asked (h : List ((c : Call) × c.Result)) : Prop where
  lookups : h.countP (fun x => x.1.isLookup) ≤ 2
  creations : h.countP (fun x => x.1.isCreation) ≤ 1
  only : ∀ x ∈ h, x.1.isLookup ∨ x.1.isCreation

/-- A part asks no more than the whole. -/
theorem Asked.of_sublist {h h' : List ((c : Call) × c.Result)} (hh : Asked h')
    (hs : h.Sublist h') : Asked h where
  lookups := hs.countP_le.trans hh.lookups
  creations := hs.countP_le.trans hh.creations
  only x hx := hh.only x (hs.subset hx)

theorem Asked.of_isPrefix {h h' : List ((c : Call) × c.Result)} (hh : Asked h') (hp : h <+: h') :
    Asked h := hh.of_sublist hp.sublist

/-- The most that is asked: a look-up, a new address, and a second look. -/
theorem asked_all (email : String) (name : Option String)
    (x : (Call.addressByEmail email).Result) (y : (Call.createAddress email name).Result)
    (z : (Call.addressByEmail email).Result) :
    Asked ([⟨.addressByEmail email, x⟩] ++ [⟨.createAddress email name, y⟩] ++
      [⟨.addressByEmail email, z⟩]) :=
  ⟨by simp [Call.isLookup], by simp [Call.isCreation], by simp [Call.isLookup, Call.isCreation]⟩

/-- **What registering an email promises**: after three calls at most it returns the address
to which the email leads. -/
structure Promised (k : Medium) (email : String) (v : Option (Except Error Address))
    (h : List ((c : Call) × c.Result)) (s : k.State) : Prop where
  asked : Asked h
  unfinished : v = none → h.length ≤ 2
  found : ∀ r, v = some r → ∃ a, r = .ok a ∧
    k.rules.addressByEmail? (k.ledger s) (normalizeEmail email) = some a

variable {k : Medium} {email : String} {s : k.State}

theorem promised_none {h : List ((c : Call) × c.Result)} (hasked : Asked h)
    (hlength : h.length ≤ 2) : Promised k email none h s :=
  ⟨hasked, fun _ => hlength, fun _ hr => absurd hr (by simp)⟩

theorem promised_ok {h : List ((c : Call) × c.Result)} (hasked : Asked h) {a : Address}
    (ha : k.rules.addressByEmail? (k.ledger s) (normalizeEmail email) = some a) :
    Promised k email (some (.ok a)) h s :=
  ⟨hasked, fun hr => absurd hr (by simp), fun _ hr => ⟨a, (Option.some.inj hr).symm, ha⟩⟩

variable (D : Sharing k) {name : Option String}

/-- Where an email is taken, the second look finds its address. -/
theorem keeps_reread (hlook : D.Allowed (.addressByEmail (normalizeEmail email)))
    {h : List ((c : Call) × c.Result)} (hlength : h.length ≤ 2)
    (hasked : ∀ z, Asked (h ++ [⟨.addressByEmail (normalizeEmail email), z⟩])) {a : Address}
    (ha : k.rules.addressByEmail? (k.ledger s) (normalizeEmail email) = some a) :
    (reread (normalizeEmail email)).run.Keeps D.toDiscipline (Promised k email) h s := by
  refine Action.keeps_record_bind (D.keeps_ask_bind (fun _ => rfl) hlook (fun t _ _ => ?_) ?_)
  · exact promised_none ((hasked (.ok none)).of_isPrefix (List.prefix_append ..)) hlength
  · intro t ht hst
    have hledger := (D.valid ht).ledger_step (.addressByEmail (normalizeEmail email))
    -- the address was there before, so it is what the look-up gives
    have hat := D.addressByEmail? ha hst
    rw [hat]
    refine Action.keeps_pure fun u _ htu => promised_ok (hasked _) ?_
    exact D.addressByEmail? (hledger ▸ hat) htu

/-- An email that was not found is made, unless someone has made it meanwhile. -/
theorem keeps_create (hlook : D.Allowed (.addressByEmail (normalizeEmail email)))
    (hcreate : D.Allowed (.createAddress (normalizeEmail email) name))
    {h : List ((c : Call) × c.Result)} (hlength : h.length ≤ 1)
    (hasked : ∀ y z, Asked (h ++ [⟨.createAddress (normalizeEmail email) name, y⟩] ++
      [⟨.addressByEmail (normalizeEmail email), z⟩])) :
    (create (normalizeEmail email) name).run.Keeps D.toDiscipline (Promised k email) h s := by
  refine D.keeps_ask_bind (fun _ => rfl) hcreate (fun t _ _ => ?_) ?_
  · refine promised_none ((hasked (.ok .taken) (.ok none)).of_isPrefix ?_) (by omega)
    rw [List.append_assoc]
    exact List.prefix_append ..
  · intro t ht _
    have hledger : k.ledger (k.backend.step (.createAddress (normalizeEmail email) name) t).state =
        (k.rules.create (k.ledger t) (normalizeEmail email) name).2 := (D.valid ht).ledger_step _
    rcases hy : (k.rules.create (k.ledger t) (normalizeEmail email) name).1 with a | _
    · have ha := Rules.addressByEmail?_of_created (k.same_self _) hy
      refine Action.keeps_record_bind (Action.keeps_pure fun u _ htu => promised_ok ?_ ?_)
      · exact (hasked _ (.ok none)).of_isPrefix (List.prefix_append ..)
      · exact D.addressByEmail? (hledger ▸ ha) htu
    · obtain ⟨a, ha⟩ := Option.isSome_iff_exists.mp (Rules.isSome_addressByEmail?_of_taken hy)
      refine keeps_reread D hlook ?_ (hasked _) (hledger ▸ ha)
      rw [List.length_append, List.length_singleton]
      omega

/-- **Registering an email keeps its promise** among others who share the store. -/
theorem keeps_getOrCreate (hlook : D.Allowed (.addressByEmail (normalizeEmail email)))
    (hcreate : D.Allowed (.createAddress (normalizeEmail email) name)) :
    (getOrCreate email name).run.Keeps D.toDiscipline (Promised k email) [] s := by
  have hasked := asked_all (normalizeEmail email) name
  refine D.keeps_ask_bind (fun _ => rfl) hlook (fun t _ _ => ?_) ?_
  · exact promised_none ((hasked (.ok none) (.ok .taken) (.ok none)).of_isPrefix ⟨_, rfl⟩)
      (by simp)
  · intro t ht _
    have hledger := (D.valid ht).ledger_step (.addressByEmail (normalizeEmail email))
    rcases hx : k.rules.addressByEmail? (k.ledger t) (normalizeEmail email) with _ | a
    · exact keeps_create D hlook hcreate (by simp) (hasked _)
    · refine Action.keeps_pure fun u _ htu => promised_ok ?_ ?_
      · exact (hasked _ (.ok .taken) (.ok none)).of_isPrefix (List.prefix_append ..)
      · exact D.addressByEmail? (hledger ▸ hx) htu

/-- **Until an address is returned, none has been made**, whatever a store answers. -/
theorem keeps_creating_nothing {σ : Type} {b : Store.Server σ} {D : Discipline b}
    (hD : ∀ c, D.Allowed c) (email : String) (name : Option String) (s : σ) :
    (getOrCreate email name).run.Keeps D
      (fun v h _ => (∀ a, v ≠ some (.ok a)) → ∀ x ∈ h, makesAddress x = false) [] s := by
  refine Action.keeps_ask_bind (hD _) (fun _ _ _ => by simp) ?_ ?_
  · rintro t (_ | a) - - -
    · refine Action.keeps_ask_bind (hD _) (fun _ _ _ _ => by simp [makesAddress]) ?_ ?_
      · rintro u (a | _) - - -
        · exact Action.keeps_record_bind (Action.keeps_pure fun _ _ _ h => absurd rfl (h a))
        · refine Action.keeps_record_bind (Action.keeps_ask_bind (hD _)
            (fun _ _ _ _ => by simp [makesAddress]) ?_ ?_)
          · rintro v (_ | a) - - -
            · exact Action.keeps_record_bind
                (Action.keeps_throw fun _ _ _ _ => by simp [makesAddress])
            · exact Action.keeps_pure fun _ _ _ h => absurd rfl (h a)
          · exact fun _ _ _ _ _ _ _ _ _ => by simp [makesAddress]
      · exact fun _ _ _ _ _ _ _ _ _ => by simp [makesAddress]
    · exact Action.keeps_pure fun _ _ _ h => absurd rfl (h a)
  · exact fun _ _ _ _ _ _ _ _ _ => by simp [makesAddress]

/-! ### Many parties -/

/-- The way of sharing a store in which only plain emails are registered. -/
def plainSharing (k : Medium) : Sharing k where
  Allowed c := ∀ email name, c = .createAddress email name → PlainEmail email
  Inv s := k.Valid s ∧ ∀ a ∈ (k.ledger s).addresses, PlainEmail a.email
  Later s t := (k.ledger s).addresses <+: (k.ledger t).addresses
  refl _ := List.prefix_refl _
  trans := List.IsPrefix.trans
  inv_step {c s} hc hs := by
    refine ⟨Medium.valid_step hs.1 c, ?_⟩
    rw [hs.1.ledger_step]
    obtain ⟨-, heq⟩ | ⟨-, email, name, rfl, heq⟩ := k.rules.addresses_step (k.ledger s) c
    · rw [heq]
      exact hs.2
    · rw [heq]
      intro a ha
      rcases List.mem_append.mp ha with ha | ha
      · exact hs.2 a ha
      · rw [List.mem_singleton.mp ha]
        exact hc email name rfl
  later_step {c s} _ hs := by
    rw [hs.1.ledger_step]
    exact k.rules.addresses_isPrefix _ c
  valid hs := hs.1
  addresses hst := hst

variable {ι : Type} [DecidableEq ι]

/-- **What parties get who register emails at the same time**, after some moves. -/
structure Raced (k : Medium) (email : ι → String) (ms : List (Move Call ι))
    (r : List (Deed Call k.State ι) ×
      Crowd Call Call.Result k.State ι (Except Error Address)) : Prop where
  /-- Whoever is done has got an address of the store, with the normal form of the email. -/
  returned : ∀ i x, (r.2.programs i).value? = some x →
    ∃ a, x = .ok a ∧ a ∈ (k.ledger r.2.store).addresses ∧ a.email = normalizeEmail (email i)
  /-- Those whose emails have one normal form get the same address. -/
  same : ∀ i j a a', normalizeEmail (email i) = normalizeEmail (email j) →
    (r.2.programs i).value? = some (.ok a) → (r.2.programs j).value? = some (.ok a') → a = a'
  /-- Those whose emails have different normal forms get addresses with different numbers. -/
  different : ∀ i j a a', normalizeEmail (email i) ≠ normalizeEmail (email j) →
    (r.2.programs i).value? = some (.ok a) → (r.2.programs j).value? = some (.ok a') →
      a.id ≠ a'.id
  /-- Each party makes two look-ups by email and one new address at most. -/
  asked : ∀ i, Asked (Deed.past k.backend i r.1)
  /-- Whoever has had three turns is done. -/
  done : ∀ i, 3 ≤ ms.countP (Move.isTurnOf i) → (r.2.programs i).value?.isSome
  /-- No two addresses have one email. -/
  distinct : ((k.ledger r.2.store).addresses.map Address.email).Nodup

/-- All parties, before anything has been done. -/
def contenders {σ : Type} (email : ι → String) (name : ι → Option String) (s : σ) :
    Crowd Call Call.Result σ ι (Except Error Address) :=
  ⟨s, fun i => (getOrCreate (email i) (name i)).run⟩

/-- Parties that all keep their promise have what they should have. -/
theorem raced_of_promised {email : ι → String} (hemail : ∀ i, Char.ofNat 0 ∉ (email i).toList)
    {ms : List (Move Call ι)} {w : Crowd Call Call.Result k.State ι (Except Error Address)}
    (hinv : (plainSharing k).Inv (Crowd.run k.backend ms w).2.store)
    (hpromised : ∀ i, Promised k (email i) ((Crowd.run k.backend ms w).2.programs i).value?
      (Deed.past k.backend i (Crowd.run k.backend ms w).1) (Crowd.run k.backend ms w).2.store) :
    Raced k email ms (Crowd.run k.backend ms w) := by
  obtain ⟨hvalid, hplain⟩ := hinv
  have hsound := hvalid.sound
  have hfound : ∀ i a, ((Crowd.run k.backend ms w).2.programs i).value? = some (.ok a) →
      k.rules.addressByEmail? (k.ledger (Crowd.run k.backend ms w).2.store)
        (normalizeEmail (email i)) = some a := by
    intro i a ha
    obtain ⟨a', ha', hmem⟩ := (hpromised i).found _ ha
    rwa [Except.ok.inj ha']
  have hrow : ∀ i a, ((Crowd.run k.backend ms w).2.programs i).value? = some (.ok a) →
      a ∈ (k.ledger (Crowd.run k.backend ms w).2.store).addresses ∧
        a.email = normalizeEmail (email i) := by
    intro i a ha
    have hmem := List.mem_of_find?_eq_some (hfound i a ha)
    have hsame := List.find?_some (hfound i a ha)
    exact ⟨hmem, (k.same_iff (hplain a hmem) (plainEmail_normalizeEmail (hemail i))).mp hsame⟩
  constructor
  case returned =>
    intro i x hx
    obtain ⟨a, rfl, -⟩ := (hpromised i).found x hx
    exact ⟨a, rfl, hrow i a hx⟩
  case same =>
    intro i j a a' heq ha ha'
    have hi := hfound i a ha
    rw [heq, hfound j a' ha'] at hi
    exact (Option.some.inj hi).symm
  case different =>
    intro i j a a' hne ha ha' hid
    obtain ⟨hmem, hemail⟩ := hrow i a ha
    obtain ⟨hmem', hemail'⟩ := hrow j a' ha'
    -- in a sound ledger one number is one address, and so one email
    have hone := hsound.address?_of_mem hmem
    rw [hid, hsound.address?_of_mem hmem'] at hone
    rw [← hemail, ← hemail', Option.some.inj hone] at hne
    exact hne rfl
  case asked => exact fun i => (hpromised i).asked
  case done =>
    intro i hturns
    by_contra hnone
    rw [Option.not_isSome_iff_eq_none] at hnone
    have hlength := (hpromised i).unfinished hnone
    rw [Crowd.length_past hnone] at hlength
    omega
  case distinct => exact Medium.nodup_emails hsound

/-- **The race for an address.** Any number of parties register emails on an empty store of
either kind, in any order of their calls, while others make any calls but the making of an
address. Then what they get is as it should be, after all moves. And if calls may fail, then
a party that gets an error has left the addresses alone with each of its calls. -/
theorem race (k : Medium) (email : ι → String) (name : ι → Option String)
    (hemail : ∀ i, Char.ofNat 0 ∉ (email i).toList) {ms : List (Move Call ι)}
    (hms : ∀ email name, Move.other (.createAddress email name) ∉ ms) :
    Raced k email ms (Crowd.run k.backend ms (contenders email name k.empty)) ∧
    ∀ faults : List (Option Failure),
      let r := Crowd.run k.backend.unreliable ms (contenders email name (faults, k.empty))
      ∀ i e, (r.2.programs i).value? = some (.error e) → ∀ x ∈ r.1, x.party = some i →
        (k.ledger (x.after k.backend.unreliable).2).addresses =
          (k.ledger x.before.2).addresses := by
  constructor
  · have hstart : Crowd.Orderly (plainSharing k).toDiscipline (fun i => Promised k (email i))
        (fun _ => []) (contenders email name k.empty) := by
      refine ⟨⟨k.valid_empty, ?_⟩, fun i => ?_⟩
      · change ∀ a ∈ (k.ledger k.empty).addresses, PlainEmail a.email
        rw [k.ledger_empty]
        simp
      · refine keeps_getOrCreate (plainSharing k) (fun _ _ h => absurd h (by simp)) ?_
        rintro _ _ ⟨⟩
        exact plainEmail_normalizeEmail (hemail i)
    have hallowed : ∀ c, Move.other c ∈ ms → (plainSharing k).Allowed c := by
      rintro _ hc e n rfl
      exact absurd hc (hms e n)
    exact raced_of_promised hemail (Crowd.run_keeps hstart hallowed).1.inv
      (Crowd.promise_run hstart hallowed)
  · intro faults r i e he x hx hparty
    have hstart : Crowd.Orderly (Medium.unreliable k) (fun _ v h _ =>
        (∀ a, v ≠ some (.ok a)) → ∀ x ∈ h, makesAddress x = false) (fun _ => [])
        (contenders email name (faults, k.empty)) :=
      ⟨k.valid_empty, fun i => keeps_creating_nothing (fun _ => trivial) (email i) (name i) _⟩
    have hallowed : ∀ c, Move.other c ∈ ms → (Medium.unreliable k).Allowed c :=
      fun _ _ => trivial
    obtain ⟨-, -, hdeeds⟩ := Crowd.run_keeps hstart hallowed
    have hnothing := Crowd.promise_run hstart hallowed i (by rw [he]; simp)
    exact Medium.addresses_unreliable (hdeeds x hx).2
      (hnothing (x.entry _) (Deed.entry_mem_past _ hx hparty))

/-- Two spellings of one email are registered at once: both parties look before either makes
the address, and both get the one that the second party makes. -/
theorem race_two_spellings :
    let email : Bool → String := fun i => if i then "A@b" else " a@B "
    let name : Bool → Option String := fun i => if i then some "Ann" else none
    let ms := [.turn false, .turn true, .other (.delete "c"), .turn true, .turn false, .turn false]
    let r := Crowd.run Medium.database.backend ms (contenders email name Medium.database.empty)
    (∀ i, (r.2.programs i).value? = some (.ok ⟨1, "a@b", some "Ann"⟩)) ∧
      Raced .database email ms r := by
  intro email name ms r
  exact ⟨by decide +kernel, (race .database email name (by decide) (by simp [ms])).1⟩

end Registry

end Maildrop
