import Maildrop.Proofs.Store.MemoryLedger
import Mathlib.Data.List.Perm.Basic

/-!
# The tables of a store in memory

A store in memory keeps four collections, three writers change them one after the other, and
its readers pass over whatever does not fit together: a number without an address, an id
without a message, a message without a sender. This module says what the collections have to
do with each other (`Maildrop.Store.Memory.Coherent`), and that nothing is ever passed over.

* Coherent tables are what a valid store has (`Maildrop.Store.Memory.Valid.coherent`), so they
  are what any calls leave (`Maildrop.Store.Memory.representation`).
* Every place that a call takes in the list of addresses exists, and the address with the
  number is there, unless the number is one that a caller has made up
  (`Maildrop.Store.Memory.Coherent.finds`).
* The listing has an entry for each id of the order
  (`Maildrop.Store.Memory.Coherent.forall₂_previews`).

The last two are drawn from the tables alone, without the ledger that they stand for.
-/

namespace Maildrop.Store.Memory

/-- **Tables that fit together.** -/
structure Coherent (m : Memory) : Prop where
  /-- No id comes twice in the order. -/
  nodup : m.order.Nodup
  /-- The order has the ids under which messages stand, and no others. -/
  perm : m.order.Perm (m.messages.map Prod.fst)
  /-- A message stands under its own id, has its true size, and comes from an address. -/
  message : ∀ id x, m.message? id = some x →
    x.id = id ∧ x.size = x.raw.length ∧ 1 ≤ x.senderId ∧ x.senderId ≤ m.addresses.length
  /-- The address at a place has the number behind it. -/
  numbered : ∀ (i : Nat) (a : Address), m.addresses[i]? = some a → a.id = i + 1
  /-- No two addresses have the same email in small letters. -/
  apart : (m.addresses.map fun a => key a.email).Nodup
  /-- The index leads from the emails of the addresses in small letters to their numbers, and
  from nothing else to anything. -/
  index : ∀ k n, m.index.lookup k = some n ↔ ∃ a ∈ m.addresses, key a.email = k ∧ a.id = n

/-- **The numbers with which a call goes to the list of addresses**, in order to take the place
before each. Of the three calls that do so, only the look-up by number looks at it first. -/
def numbers (m : Memory) : Call → List Int
  | .addressByEmail email => (m.index.lookup (key email)).toList
  | .address id => if id < 1 then [] else [id]
  | .previews => (m.order.filterMap m.message?).map Message.senderId
  | _ => []

/-- **A call finds the addresses that it goes for**: there is a place before every number, and
at that place stands the address with the number, unless a caller asks for a number that no
address has. -/
def Finds (m : Memory) (c : Call) : Prop :=
  ∀ n ∈ m.numbers c, 1 ≤ n ∧
    ((∃ a, m.addresses[(n - 1).toNat]? = some a ∧ a.id = n) ∨
      (c = .address n ∧ ∀ a ∈ m.addresses, a.id ≠ n))

variable {m : Memory}

/-! ### What follows from coherence -/

namespace Coherent

/-- An id is in the order if a message stands under it. -/
theorem mem_order_iff (h : m.Coherent) (id : String) :
    id ∈ m.order ↔ ∃ x, m.message? id = some x := by
  rw [h.perm.mem_iff, message?, ← Option.ne_none_iff_exists', ne_eq, List.lookup_eq_none_iff]
  simp only [List.mem_map, bne_iff_ne, ne_eq, not_forall, not_not, exists_prop,
    eq_comm (a := id)]

/-- At the place before the number of an address stands the address. -/
theorem getElem?_of_mem (h : m.Coherent) {a : Address} (ha : a ∈ m.addresses) :
    1 ≤ a.id ∧ m.addresses[(a.id - 1).toNat]? = some a := by
  obtain ⟨i, hi⟩ := List.getElem?_of_mem ha
  have hid := h.numbered i a hi
  refine ⟨by omega, ?_⟩
  rwa [show (a.id - 1).toNat = i by omega]

/-- At the place before the number of a sender stands the sender. -/
theorem exists_sender (h : m.Coherent) {id : String} {x : Message} (hx : m.message? id = some x) :
    ∃ a, m.addresses[(x.senderId - 1).toNat]? = some a ∧ a.id = x.senderId := by
  obtain ⟨-, -, hpos, hle⟩ := h.message id x hx
  have hlt : (x.senderId - 1).toNat < m.addresses.length := by omega
  refine ⟨_, List.getElem?_eq_getElem hlt, ?_⟩
  rw [h.numbered _ _ (List.getElem?_eq_getElem hlt)]
  omega

/-- **Every call finds the addresses that it goes for.** -/
theorem finds (h : m.Coherent) (c : Call) : m.Finds c := by
  intro n hn
  cases c with
  | addressByEmail email =>
    -- the index has taken the number from an address
    obtain ⟨a, ha, -, rfl⟩ := (h.index _ n).mp (Option.mem_toList.mp hn)
    obtain ⟨hpos, hplace⟩ := h.getElem?_of_mem ha
    exact ⟨hpos, .inl ⟨a, hplace, rfl⟩⟩
  | address id =>
    change n ∈ if id < 1 then [] else [id] at hn
    split at hn
    · exact absurd hn List.not_mem_nil
    · next hid =>
      rw [List.mem_singleton] at hn
      subst hn
      refine ⟨by omega, ?_⟩
      by_cases hex : ∃ a ∈ m.addresses, a.id = n
      · obtain ⟨a, ha, rfl⟩ := hex
        exact .inl ⟨a, (h.getElem?_of_mem ha).2, rfl⟩
      · exact .inr ⟨rfl, fun a ha hid => hex ⟨a, ha, hid⟩⟩
  | previews =>
    obtain ⟨x, hx, rfl⟩ := List.mem_map.mp hn
    obtain ⟨id, -, hid⟩ := List.mem_filterMap.mp hx
    exact ⟨(h.message id x hid).2.2.1, .inl (h.exists_sender hid)⟩
  | _ => exact absurd hn List.not_mem_nil

/-- **No message is dropped from the listing**: it has an entry for each id of the order, in
that order, made of the message under the id and the address at the place before its sender. -/
theorem forall₂_previews (h : m.Coherent) :
    List.Forall₂ (fun id p => ∃ x a, m.message? id = some x ∧
      m.addresses[(x.senderId - 1).toNat]? = some a ∧ p = x.preview a) m.order m.previews := by
  have hmem : ∀ id ∈ m.order, ∃ x, m.message? id = some x := fun id => (h.mem_order_iff id).mp
  rw [previews]
  -- the induction is on the order alone, so what it has to do with the messages comes first
  generalize m.order = ids at hmem
  induction ids with
  | nil => exact .nil
  | cons id ids ih =>
    obtain ⟨x, hx⟩ := hmem id List.mem_cons_self
    obtain ⟨a, ha, -⟩ := h.exists_sender hx
    have hpos : ¬x.senderId < 1 := by
      have := (h.message id x hx).2.2.1
      omega
    have hp : m.preview? x = some (x.preview a) := by
      rw [preview?, address?, if_neg hpos, ha]
      rfl
    rw [List.filterMap_cons_some hx, List.filterMap_cons_some hp]
    exact .cons ⟨x, a, hx, ha, rfl⟩ (ih fun id hid => hmem id (List.mem_cons_of_mem _ hid))

end Coherent

/-! ### What calls leave -/

/-- In a valid store a message under an id is one of the ledger. -/
theorem Valid.mem_messages (h : m.Valid) {id : String} {x : Message} (hx : m.message? id = some x) :
    x ∈ m.ledger.messages ∧ x.id = id := by
  rw [h.message?_eq] at hx
  exact ⟨Ledger.mem_of_message? hx, Ledger.id_of_message? hx⟩

/-- **The tables of a valid store fit together.** -/
theorem Valid.coherent (h : m.Valid) : m.Coherent where
  nodup := h.order ▸ h.sound.unique
  perm := by
    have hkeys : m.messages.map Prod.fst = (m.messages.map Prod.snd).map Message.id := by
      rw [List.map_map]
      exact List.map_congr_left h.keyed
    rw [h.order, ledger_messages, hkeys]
    exact (List.reverse_perm _).map _
  message id x hx := by
    obtain ⟨hmem, hid⟩ := h.mem_messages hx
    refine ⟨hid, h.sound.sized x hmem, ?_⟩
    -- the number of the sender leads to an address, so it is that of a place
    have hknown := h.sound.known x hmem
    rw [h.sound.address?_eq, ledger_addresses] at hknown
    split at hknown
    · exact absurd hknown (by simp)
    · obtain ⟨a, ha⟩ := Option.isSome_iff_exists.mp hknown
      obtain ⟨hlt, -⟩ := List.getElem?_eq_some_iff.mp ha
      omega
  numbered := h.sound.numbered
  apart := List.pairwise_map.mpr (h.sound.distinct.imp fun hab => beq_eq_false_iff_ne.mp hab)
  index k n := by
    rw [h.index]
    constructor
    · intro hn
      obtain ⟨a, ha, heq⟩ := List.mem_map.mp (List.mem_reverse.mp (mem_of_lookup hn))
      exact ⟨a, ha, Prod.mk.inj heq⟩
    · rintro ⟨a, ha, rfl, rfl⟩
      rw [← h.index, h.lookup_index, Option.map_eq_some_iff]
      rcases hb : rules.addressByEmail? m.ledger a.email with _ | b
      · exact absurd (beq_self_eq_true _) (List.find?_eq_none.mp hb a ha)
      · -- the address that is found has the same key, so it is the one at hand
        have hkey : key b.email = key a.email := by simpa [rules] using List.find?_some hb
        refine ⟨b, rfl, congrArg Address.id ?_⟩
        exact h.sound.eq_of_same (List.mem_of_find?_eq_some hb) ha (beq_iff_eq.mpr hkey)
          (beq_iff_eq.mpr hkey.symm)

/-- **Whatever calls have been made on an empty store, its tables fit together**, every call
finds the addresses that it goes for, and the listing drops no message. -/
theorem representation (cs : List Call) :
    let m := backend.after cs {}
    m.Coherent ∧ (∀ c, m.Finds c) ∧
      List.Forall₂ (fun id p => ∃ x a, m.message? id = some x ∧
        m.addresses[(x.senderId - 1).toNat]? = some a ∧ p = x.preview a) m.order m.previews := by
  intro m
  have hvalid : m.Valid :=
    backend.after_keeps (I := Valid) (fun c _ h => h.step c) cs valid_empty
  have hcoherent := hvalid.coherent
  exact ⟨hcoherent, hcoherent.finds, hcoherent.forall₂_previews⟩

end Maildrop.Store.Memory
