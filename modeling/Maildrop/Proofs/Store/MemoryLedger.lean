import Maildrop.Proofs.Program
import Maildrop.Proofs.Store.Ledger
import Maildrop.Store.Memory

/-!
# The ledger of a store in memory

A store in memory keeps more than a ledger: an index of emails beside the addresses, and
the order of the ids beside the messages. That the four tables fit together is what
`Maildrop.Store.Memory.Valid` says: the index holds one entry for each address, under
the small letters of its email; every message stands under its own id; and the order
lists the ids of the messages, each once.

A valid store answers every call as its ledger does, and is valid afterwards
(`Maildrop.Store.Memory.refines`). In particular no look-up misses: wherever a number
comes out of a table, the address or the message that it stands for is there.
-/

namespace Maildrop.Store.Memory

/-- The ledger that the tables hold. New messages are put in front of the table. -/
def ledger (m : Memory) : Ledger := ⟨m.addresses, (m.messages.map Prod.snd).reverse⟩

/-- Emails are the same if they are the same in small letters. -/
def rules : Rules where
  same x y := key x == key y
  refusal m := ⟨.unknownSender m.id m.senderId, []⟩

/-- **The tables fit together.** -/
structure Valid (m : Memory) : Prop where
  sound : rules.Sound m.ledger
  /-- The index has an entry for each address, newest first. -/
  index : m.index = (m.addresses.map fun a => (key a.email, a.id)).reverse
  /-- Every message stands under its own id. -/
  keyed : ∀ x ∈ m.messages, x.1 = x.2.id
  /-- The order lists the ids of the messages. -/
  order : m.order = m.ledger.messages.map Message.id

theorem valid_empty : Valid {} where
  sound := Rules.sound_empty
  index := rfl
  keyed x hx := by simp at hx
  order := rfl

/-- What a table gives for a key stands in the table under that key. -/
theorem mem_of_lookup {κ β : Type} [BEq κ] [LawfulBEq κ] {xs : List (κ × β)} {k : κ} {x : β}
    (h : xs.lookup k = some x) : (k, x) ∈ xs := by
  obtain ⟨before, after, rfl, -⟩ := List.lookup_eq_some_iff.mp h
  simp

/-! ### Looking things up -/

variable {m : Memory}

@[simp] theorem ledger_messages (m : Memory) :
    m.ledger.messages = (m.messages.map Prod.snd).reverse := rfl

@[simp] theorem ledger_addresses (m : Memory) : m.ledger.addresses = m.addresses := rfl

theorem Valid.address?_eq (h : m.Valid) (id : Int) : m.address? id = m.ledger.address? id := by
  rw [h.sound.address?_eq]
  rfl

theorem Valid.message?_eq (h : m.Valid) (id : String) : m.message? id = m.ledger.message? id := by
  rcases hx : m.message? id with _ | x
  · refine (Ledger.message?_eq_none.mpr fun x hx' hid => ?_).symm
    obtain ⟨y, hy, rfl⟩ := List.mem_map.mp (List.mem_reverse.mp hx')
    have := List.lookup_eq_none_iff.mp hx y hy
    rw [h.keyed y hy, hid] at this
    simp at this
  · -- the message stands under its own id, and no other message has that
    have hmem : (id, x) ∈ m.messages := mem_of_lookup hx
    obtain rfl : id = x.id := h.keyed _ hmem
    refine (Ledger.message?_of_mem h.sound.unique (List.mem_reverse.mpr ?_)).symm
    exact List.mem_map.mpr ⟨_, hmem, rfl⟩

/-- The index leads to the address with the same email, if there is one. -/
theorem Valid.lookup_index (h : m.Valid) (email : String) :
    m.index.lookup (key email) = (rules.addressByEmail? m.ledger email).map Address.id := by
  rcases hn : m.index.lookup (key email) with _ | n
  · rw [eq_comm, Option.map_eq_none_iff, Rules.addressByEmail?, List.find?_eq_none]
    intro a ha hsame
    have hmem : (key a.email, a.id) ∈ m.index := by
      rw [h.index]
      exact List.mem_reverse.mpr (List.mem_map.mpr ⟨a, ha, rfl⟩)
    have := List.lookup_eq_none_iff.mp hn _ hmem
    rw [bne_iff_ne] at this
    exact this (beq_iff_eq.mp hsame).symm
  · -- the entry is that of an address, which the ledger finds too, as no other has its key
    have hmem := mem_of_lookup hn
    rw [h.index] at hmem
    obtain ⟨a, ha, hka⟩ := List.mem_map.mp (List.mem_reverse.mp hmem)
    obtain ⟨hkey, rfl⟩ := Prod.mk.inj hka
    rcases hb : rules.addressByEmail? m.ledger email with _ | b
    · exact absurd (beq_iff_eq.mpr hkey) (List.find?_eq_none.mp hb a ha)
    · have hkb : key b.email = key email := by simpa [rules] using List.find?_some hb
      have hab := h.sound.eq_of_same (a := a) (b := b) ha (List.mem_of_find?_eq_some hb)
        (beq_iff_eq.mpr (hkey.trans hkb.symm)) (beq_iff_eq.mpr (hkb.trans hkey.symm))
      rw [hab]
      rfl

theorem Valid.addressByEmail_eq (h : m.Valid) (email : String) :
    (m.index.lookup (key email)).bind m.address? = rules.addressByEmail? m.ledger email := by
  rw [h.lookup_index]
  rcases ha : rules.addressByEmail? m.ledger email with _ | a
  · rfl
  · have hmem : a ∈ m.ledger.addresses := List.mem_of_find?_eq_some ha
    rw [Option.map_some, Option.bind_some, h.address?_eq, h.sound.address?_of_mem hmem]

theorem Valid.previews_eq (h : m.Valid) : m.previews = m.ledger.previews := by
  have hfound : ∀ x ∈ m.ledger.messages, m.message? x.id = some x := fun x hx => by
    rw [h.message?_eq]
    exact Ledger.message?_of_mem h.sound.unique hx
  have hpreview : m.preview? = m.ledger.preview? := by
    funext x
    rw [preview?, Ledger.preview?, h.address?_eq]
    rfl
  rw [previews, Ledger.previews, h.order, hpreview, List.filterMap_map]
  congr 1
  exact (List.filterMap_congr hfound).trans List.filterMap_some

/-! ### The calls -/

theorem Valid.create_eq (h : m.Valid) (email : String) (name : Option String) :
    (m.create email name).1 = (rules.create m.ledger email name).1 ∧
      (m.create email name).2.ledger = (rules.create m.ledger email name).2 := by
  rw [create, Rules.create, h.lookup_index, Option.isSome_map]
  split <;> exact ⟨rfl, rfl⟩

theorem Valid.insert_eq (h : m.Valid) (x : NewMessage) :
    (m.insert x).1 = (rules.insert m.ledger x).1 ∧
      (m.insert x).2.ledger = (rules.insert m.ledger x).2 := by
  have hsender : (x.senderId < 1 ∨ x.senderId > m.addresses.length) ↔
      (m.ledger.address? x.senderId).isNone := by
    rw [h.sound.address?_eq, ledger_addresses]
    split
    · simp [*]
    · rw [Option.isNone_iff_eq_none, List.getElem?_eq_none_iff]
      omega
  rw [insert, Rules.insert, h.message?_eq]
  split
  · exact ⟨rfl, rfl⟩
  · simp only [hsender]
    split
    · exact ⟨rfl, rfl⟩
    · exact ⟨rfl, by simp [ledger, Ledger.addMessage]⟩

theorem Valid.delete_eq (h : m.Valid) (id : String) :
    (m.delete id).ledger = m.ledger.strike id := by
  rw [delete, h.message?_eq]
  have hkeys : (m.messages.filter (·.1 != id)).map Prod.snd =
      (m.messages.map Prod.snd).filter fun x => x.id ≠ id := by
    rw [List.filter_map]
    congr 1
    -- the table is filtered by its keys and the ledger by the ids of the messages
    refine List.filter_congr fun x hx => ?_
    rw [h.keyed x hx]
    simp [bne, beq_eq_decide]
  split
  · simp only [ledger, Ledger.strike, hkeys, List.filter_reverse]
  · next hnone =>
    -- with nothing stored under the id, there is nothing to strike out
    rw [Bool.not_eq_true, Option.isSome_eq_false_iff, Option.isNone_iff_eq_none,
      Ledger.message?_eq_none] at hnone
    rw [Ledger.strike, List.filter_eq_self.mpr (by simpa using hnone)]

/-- **A valid store answers every call as its ledger does.** -/
theorem Valid.result_step (h : m.Valid) (c : Call) :
    (backend.step c m).result = (rules.server.step c m.ledger).result := by
  cases c with
  | addressByEmail email => exact congrArg Except.ok (h.addressByEmail_eq email)
  | address id => exact congrArg Except.ok (h.address?_eq id)
  | createAddress email name => exact congrArg Except.ok (h.create_eq email name).1
  | insert x => exact (h.insert_eq x).1
  | message id => exact congrArg Except.ok (h.message?_eq id)
  | raw id => exact congrArg (fun x => Except.ok (x.map Message.raw)) (h.message?_eq id)
  | has id => exact congrArg (fun x => Except.ok x.isSome) (h.message?_eq id)
  | delete id => rfl
  | previews => exact congrArg Except.ok h.previews_eq
  | count => exact congrArg Except.ok (by simp)

/-- A valid store goes where its ledger goes. -/
theorem Valid.ledger_step (h : m.Valid) (c : Call) :
    (backend.step c m).state.ledger = (rules.server.step c m.ledger).state := by
  cases c with
  | createAddress email name => exact (h.create_eq email name).2
  | insert x => exact (h.insert_eq x).2
  | delete id => exact h.delete_eq id
  | _ => rfl

/-- **Every call keeps the tables fitting together.** -/
theorem Valid.step (h : m.Valid) (c : Call) : (backend.step c m).state.Valid := by
  have hsound : rules.Sound (backend.step c m).state.ledger :=
    h.ledger_step c ▸ Rules.sound_step h.sound c
  cases c with
  | createAddress email name =>
    change Valid (m.create email name).2
    change rules.Sound (m.create email name).2.ledger at hsound
    rw [create] at hsound ⊢
    split
    · exact h
    · next hnew =>
      rw [if_neg hnew] at hsound
      exact ⟨hsound, by simp [h.index], h.keyed, h.order⟩
  | insert x =>
    change Valid (m.insert x).2
    change rules.Sound (m.insert x).2.ledger at hsound
    rw [insert] at hsound ⊢
    split
    · exact h
    · next hid =>
      rw [if_neg hid] at hsound
      split
      · exact h
      · next hsender =>
        rw [if_neg hsender] at hsound
        refine ⟨hsound, h.index, fun y hy => ?_, ?_⟩
        · rcases List.mem_cons.mp hy with rfl | hy
          · rfl
          · exact h.keyed y hy
        · simp [h.order, NewMessage.stored]
  | delete id =>
    change Valid (m.delete id)
    change rules.Sound (m.delete id).ledger at hsound
    rw [delete] at hsound ⊢
    split
    · next hid =>
      rw [if_pos hid] at hsound
      refine ⟨hsound, h.index, fun y hy => h.keyed y (List.mem_filter.mp hy).1, ?_⟩
      -- the order loses the id where the ledger loses its message
      have hledger := h.delete_eq id
      rw [delete, if_pos hid] at hledger
      rw [hledger, h.order, Ledger.strike, List.filter_map]
      simp [Function.comp_def, bne, beq_eq_decide]
    · exact h
  | _ => exact h

/-- **A store in memory stands for its ledger.** -/
theorem refines : Refines backend rules.server fun m l => m.Valid ∧ m.ledger = l where
  result c m l h := by
    obtain ⟨h, rfl⟩ := h
    exact h.result_step c
  state c m l h := by
    obtain ⟨h, rfl⟩ := h
    exact ⟨h.step c, h.ledger_step c⟩

end Maildrop.Store.Memory
