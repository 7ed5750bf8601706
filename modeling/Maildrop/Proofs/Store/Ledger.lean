import Maildrop.Store.Program
import Mathlib.Data.List.Forall2
import Mathlib.Data.List.Nodup

/-!
# The ledger of a store

Whatever a store is kept in, what it holds is a list of addresses and a list of
messages, oldest first. This module says what the ten calls do to the two lists, and
nothing about how the lists are kept: a call either reads them, or writes at the end of
one of them, or strikes a message out.

Two things are left open, since stores differ in them: which emails are the same, and in
what words a message from an unknown sender is refused. They are the *rules* of a store
(`Maildrop.Store.Rules`), and `Maildrop.Store.Rules.server` is the ledger under given
rules.

A ledger is *sound* (`Maildrop.Store.Rules.Sound`) if its addresses are numbered from 1
in order and no two of them have the same email, and if its messages have different ids,
senders that exist and true sizes. Every call keeps a ledger sound
(`Maildrop.Store.Rules.sound_step`), so everything that follows from soundness holds in
every state that calls can reach. What listings and look-ups need of it is less: that the ledger
is *linked* (`Maildrop.Store.Ledger.Linked`), with different ids and with senders that exist.
-/

namespace Maildrop

/-- The entry of a message in a listing, under a given sender. -/
def Message.preview (m : Message) (sender : Address) : Preview where
  id := m.id
  sender := sender
  subjectPreview := m.subjectPreview
  bodyPreview := m.bodyPreview
  size := m.size
  receivedAt := m.receivedAt

namespace Store

/-! ### Ledgers -/

/-- **A ledger**: the addresses and the messages of a store, oldest first. -/
structure Ledger where
  addresses : List Address := []
  messages : List Message := []

namespace Ledger

variable (l : Ledger)

/-- The address with a number. -/
def address? (id : Int) : Option Address := l.addresses.find? fun a => a.id = id

/-- The message with an id. -/
def message? (id : String) : Option Message := l.messages.find? fun m => m.id = id

/-- The listing entry of a message, if its sender is known. -/
def preview? (m : Message) : Option Preview := (l.address? m.senderId).map m.preview

/-- All messages whose senders are known, as a listing shows them. -/
def previews : List Preview := l.messages.filterMap l.preview?

/-- The next address, for an email and a name. -/
def newAddress (email : String) (name : Option String) : Address :=
  ⟨l.addresses.length + 1, email, name⟩

/-- The ledger with one more address. -/
def addAddress (a : Address) : Ledger := { l with addresses := l.addresses ++ [a] }

/-- The ledger with one more message. -/
def addMessage (m : Message) : Ledger := { l with messages := l.messages ++ [m] }

/-- The ledger without the message of an id. -/
def strike (id : String) : Ledger :=
  { l with messages := l.messages.filter fun m => m.id ≠ id }

end Ledger

/-! ### What the calls do -/

/-- **The rules of a store.** -/
structure Rules where
  /-- Whether two emails are the same. -/
  same : String → String → Bool
  /-- How a message from an unknown sender is refused. -/
  refusal : NewMessage → Failure

namespace Rules

variable (r : Rules)

/-- The address with an email. -/
def addressByEmail? (l : Ledger) (email : String) : Option Address :=
  l.addresses.find? fun a => r.same a.email email

/-- Makes an address, unless its email is taken. -/
def create (l : Ledger) (email : String) (name : Option String) : Creation × Ledger :=
  if (r.addressByEmail? l email).isSome then (.taken, l)
  else (.created (l.newAddress email name), l.addAddress (l.newAddress email name))

/-- Stores a message, unless its id is in use or its sender unknown. -/
def insert (l : Ledger) (m : NewMessage) : Except Failure Insertion × Ledger :=
  if (l.message? m.id).isSome then (.ok .duplicate, l)
  else if (l.address? m.senderId).isNone then (.error (r.refusal m), l)
  else (.ok .stored, l.addMessage m.stored)

/-- What a call does. -/
def step (c : Call) (l : Ledger) : Step Ledger c :=
  match c with
  | .addressByEmail email => ⟨.ok (r.addressByEmail? l email), l, []⟩
  | .address id => ⟨.ok (l.address? id), l, []⟩
  | .createAddress email name => ⟨.ok (r.create l email name).1, (r.create l email name).2, []⟩
  | .insert m => ⟨(r.insert l m).1, (r.insert l m).2, []⟩
  | .message id => ⟨.ok (l.message? id), l, []⟩
  | .raw id => ⟨.ok ((l.message? id).map Message.raw), l, []⟩
  | .has id => ⟨.ok (l.message? id).isSome, l, []⟩
  | .delete id => ⟨.ok (), l.strike id, []⟩
  | .previews => ⟨.ok l.previews, l, []⟩
  | .count => ⟨.ok l.messages.length, l, []⟩

/-- **The ledger as a store.** -/
def server : Server Ledger := ⟨r.step⟩

end Rules

/-! ### Looking things up -/

namespace Ledger

variable {l : Ledger}

theorem message?_eq_none {id : String} :
    l.message? id = none ↔ ∀ m ∈ l.messages, m.id ≠ id := by
  simp [message?]

theorem mem_of_message? {id : String} {m : Message} (h : l.message? id = some m) :
    m ∈ l.messages := List.mem_of_find?_eq_some h

theorem id_of_message? {id : String} {m : Message} (h : l.message? id = some m) : m.id = id := by
  simpa using List.find?_some h

theorem mem_of_address? {id : Int} {a : Address} (h : l.address? id = some a) :
    a ∈ l.addresses := List.mem_of_find?_eq_some h

theorem id_of_address? {id : Int} {a : Address} (h : l.address? id = some a) : a.id = id := by
  simpa using List.find?_some h

/-- A number that has an address keeps it when another address is made. -/
theorem address?_addAddress {id : Int} {a b : Address} (h : l.address? id = some b) :
    (l.addAddress a).address? id = some b := by
  simp only [address?] at h
  simp [addAddress, address?, h]

/-- Where ids are different, an id leads to every message that has it. -/
theorem message?_of_mem (h : (l.messages.map Message.id).Nodup) {m : Message}
    (hm : m ∈ l.messages) : l.message? m.id = some m := by
  rcases hf : l.message? m.id with _ | m'
  · exact absurd rfl (message?_eq_none.mp hf m hm)
  · rw [List.inj_on_of_nodup_map h (mem_of_message? hf) hm (id_of_message? hf)]

end Ledger

/-! ### What the two writing calls can do -/

namespace Rules

variable (r : Rules) (l : Ledger)

/-- An address is made if the email is new; otherwise nothing happens. -/
theorem create_cases (email : String) (name : Option String) :
    (r.addressByEmail? l email = none ∧
      r.create l email name =
        (.created (l.newAddress email name), l.addAddress (l.newAddress email name))) ∨
    ((r.addressByEmail? l email).isSome ∧ r.create l email name = (.taken, l)) := by
  rw [create]
  rcases r.addressByEmail? l email with _ | a
  · exact .inl ⟨rfl, rfl⟩
  · exact .inr ⟨rfl, rfl⟩

/-- Making an address leaves the messages alone. -/
@[simp] theorem messages_create (email : String) (name : Option String) :
    (r.create l email name).2.messages = l.messages := by
  obtain ⟨-, heq⟩ | ⟨-, heq⟩ := r.create_cases l email name
  · rw [heq]
    rfl
  · rw [heq]

/-- A message is stored if its id is new and its sender known; otherwise nothing
happens. -/
theorem insert_cases (m : NewMessage) :
    (l.message? m.id = none ∧ (l.address? m.senderId).isSome ∧
      r.insert l m = (.ok .stored, l.addMessage m.stored)) ∨
    (∃ x, x ≠ .ok .stored ∧ r.insert l m = (x, l)) := by
  rw [insert]
  rcases l.message? m.id with _ | x
  · rcases l.address? m.senderId with _ | a
    · exact .inr ⟨.error (r.refusal m), by simp, rfl⟩
    · exact .inl ⟨rfl, rfl, rfl⟩
  · exact .inr ⟨.ok .duplicate, by simp, rfl⟩

/-- A message from a known sender is stored, unless its id is in use. -/
theorem insert_of_known {m : NewMessage} (h : (l.address? m.senderId).isSome) :
    (l.message? m.id = none ∧ r.insert l m = (.ok .stored, l.addMessage m.stored)) ∨
    ((l.message? m.id).isSome ∧ r.insert l m = (.ok .duplicate, l)) := by
  rw [insert]
  rcases l.message? m.id with _ | x
  · rw [Option.isSome_iff_ne_none] at h
    exact .inl ⟨rfl, by simp [h]⟩
  · exact .inr ⟨rfl, rfl⟩

end Rules

/-! ### Linked ledgers -/

/-- **A ledger in which every message can be found and shown**, whatever the numbers of the
addresses and the sizes of the messages are. -/
structure Ledger.Linked (l : Ledger) : Prop where
  /-- Every message has a sender. -/
  known : ∀ m ∈ l.messages, (l.address? m.senderId).isSome
  /-- No two messages have the same id. -/
  unique : (l.messages.map Message.id).Nodup

namespace Ledger.Linked

variable {l : Ledger}

/-- Another address takes no message its sender. -/
theorem addAddress (h : l.Linked) (a : Address) : (l.addAddress a).Linked where
  known m hm := by
    obtain ⟨b, hb⟩ := Option.isSome_iff_exists.mp (h.known m hm)
    rw [address?_addAddress hb]
    rfl
  unique := h.unique

/-- A message with a new id and a known sender keeps the ledger linked. -/
theorem addMessage (h : l.Linked) {m : Message} (hid : l.message? m.id = none)
    (hsender : (l.address? m.senderId).isSome) : (l.addMessage m).Linked where
  known x hx := by
    rcases List.mem_append.mp hx with hx | hx
    · exact h.known x hx
    · rw [List.mem_singleton.mp hx]
      exact hsender
  unique := by
    rw [Ledger.addMessage, List.map_append]
    refine List.nodup_append.mpr ⟨h.unique, by simp, ?_⟩
    rintro x hx y hy rfl
    obtain ⟨m', hm', hid'⟩ := List.mem_map.mp hx
    exact message?_eq_none.mp hid m' hm' (hid'.trans (List.mem_singleton.mp hy))

/-- Striking out a message keeps the ledger linked. -/
theorem strike (h : l.Linked) (id : String) : (l.strike id).Linked where
  known m hm := h.known m (List.mem_filter.mp hm).1
  unique := h.unique.sublist (List.filter_sublist.map _)

/-- Whether a message is stored or turned away, the ledger stays linked. -/
theorem insert (h : l.Linked) (r : Rules) (m : NewMessage) : (r.insert l m).2.Linked := by
  obtain ⟨hid, hsender, heq⟩ | ⟨x, -, heq⟩ := r.insert_cases l m
  · rw [heq]
    exact h.addMessage hid hsender
  · rwa [heq]

/-- **In a linked ledger every message is listed**, in its place and with its sender. -/
theorem forall₂_previews (h : l.Linked) :
    List.Forall₂ (fun m p => ∃ a, l.address? m.senderId = some a ∧ p = m.preview a)
      l.messages l.previews := by
  -- the induction is on the messages alone, so their senders are set aside before
  have hk := h.known
  rw [Ledger.previews]
  generalize l.messages = ms at hk
  induction ms with
  | nil => exact List.Forall₂.nil
  | cons m ms ih =>
    obtain ⟨a, ha⟩ := Option.isSome_iff_exists.mp (hk m List.mem_cons_self)
    have hp : l.preview? m = some (m.preview a) := by rw [Ledger.preview?, ha]; rfl
    rw [List.filterMap_cons_some hp]
    exact .cons ⟨a, ha, rfl⟩ (ih fun x hx => hk x (List.mem_cons_of_mem _ hx))

/-- What a listing says of the messages alone is said of each in its place. -/
theorem map_previews (h : l.Linked) {α : Type} {f : Preview → α} {g : Message → α}
    (hfg : ∀ m a, f (m.preview a) = g m) : l.previews.map f = l.messages.map g := by
  rw [← List.forall₂_eq_eq_eq, List.forall₂_map_left_iff, List.forall₂_map_right_iff]
  refine h.forall₂_previews.flip.imp fun p m hmp => ?_
  obtain ⟨a, -, rfl⟩ := hmp
  exact hfg m a

end Ledger.Linked

/-! ### Soundness -/

/-- **A ledger in order.** -/
structure Rules.Sound (r : Rules) (l : Ledger) : Prop where
  /-- Addresses are numbered from 1 in the order in which they were made. -/
  numbered : ∀ (i : Nat) (a : Address), l.addresses[i]? = some a → a.id = i + 1
  /-- No two addresses have the same email. -/
  distinct : l.addresses.Pairwise fun a b => r.same a.email b.email = false
  /-- Every message has a sender. -/
  known : ∀ m ∈ l.messages, (l.address? m.senderId).isSome
  /-- No two messages have the same id. -/
  unique : (l.messages.map Message.id).Nodup
  /-- The size of a message is the number of its octets. -/
  sized : ∀ m ∈ l.messages, m.size = m.raw.length

namespace Rules

variable {r : Rules} {l : Ledger}

/-- A sound ledger is linked. -/
theorem Sound.linked (h : r.Sound l) : l.Linked := ⟨h.known, h.unique⟩

theorem sound_empty : r.Sound {} where
  numbered i a h := by simp at h
  distinct := List.Pairwise.nil
  known m h := by simp at h
  unique := by simp
  sized m h := by simp at h

/-- A new email keeps the ledger sound. -/
theorem Sound.addAddress (h : r.Sound l) {email : String} (name : Option String)
    (hnew : r.addressByEmail? l email = none) :
    r.Sound (l.addAddress (l.newAddress email name)) where
  numbered i a hi := by
    -- an old place, the new one, or one where nothing stands
    rcases Nat.lt_trichotomy i l.addresses.length with hlt | rfl | hgt
    · rw [Ledger.addAddress, List.getElem?_append_left hlt] at hi
      exact h.numbered i a hi
    · simp only [Ledger.addAddress, List.getElem?_concat_length, Option.some.injEq] at hi
      rw [← hi, Ledger.newAddress]
    · rw [Ledger.addAddress, List.getElem?_append_right (Nat.le_of_lt hgt)] at hi
      rw [List.getElem?_eq_none (by simp; omega)] at hi
      exact absurd hi (by simp)
  distinct := by
    refine List.pairwise_append.mpr ⟨h.distinct, List.pairwise_singleton _ _, fun a ha b hb => ?_⟩
    rw [List.mem_singleton.mp hb]
    simpa [Ledger.newAddress] using List.find?_eq_none.mp hnew a ha
  known := (h.linked.addAddress _).known
  unique := h.unique
  sized := h.sized

/-- A message with a new id and a known sender keeps the ledger sound. -/
theorem Sound.addMessage (h : r.Sound l) {m : NewMessage} (hid : l.message? m.id = none)
    (hsender : (l.address? m.senderId).isSome) : r.Sound (l.addMessage m.stored) where
  numbered := h.numbered
  distinct := h.distinct
  known := (h.linked.addMessage (m := m.stored) hid hsender).known
  unique := (h.linked.addMessage (m := m.stored) hid hsender).unique
  sized x hx := by
    rcases List.mem_append.mp hx with hx | hx
    · exact h.sized x hx
    · rw [List.mem_singleton.mp hx]
      rfl

/-- Striking out a message keeps the ledger sound. -/
theorem Sound.strike (h : r.Sound l) (id : String) : r.Sound (l.strike id) where
  numbered := h.numbered
  distinct := h.distinct
  known := (h.linked.strike id).known
  unique := (h.linked.strike id).unique
  sized m hm := h.sized m (List.mem_filter.mp hm).1

/-- **Every call keeps the ledger sound.** -/
theorem sound_step (h : r.Sound l) (c : Call) : r.Sound (r.server.step c l).state := by
  cases c with
  | createAddress email name =>
    change r.Sound (r.create l email name).2
    obtain ⟨hnew, heq⟩ | ⟨-, heq⟩ := r.create_cases l email name
    · rw [heq]
      exact h.addAddress name hnew
    · rwa [heq]
  | insert m =>
    change r.Sound (r.insert l m).2
    obtain ⟨hid, hsender, heq⟩ | ⟨x, -, heq⟩ := r.insert_cases l m
    · rw [heq]
      exact h.addMessage hid hsender
    · rwa [heq]
  | delete id => exact h.strike id
  | _ => exact h

/-- In a sound ledger a number stands for the place before it. -/
theorem Sound.address?_eq (h : r.Sound l) (id : Int) :
    l.address? id = if id < 1 then none else l.addresses[(id - 1).toNat]? := by
  rcases ha : l.address? id with _ | a
  · by_cases hid : id < 1
    · rw [if_pos hid]
    · rw [if_neg hid]
      rcases hb : l.addresses[(id - 1).toNat]? with _ | b
      · rfl
      · -- what stands at the place has its number, so it would have been found
        have hne : b.id ≠ id := by
          simpa using List.find?_eq_none.mp ha b (List.mem_of_getElem? hb)
        have := h.numbered _ b hb
        omega
  · obtain ⟨i, hi⟩ := List.getElem?_of_mem (Ledger.mem_of_address? ha)
    have hia : a.id = i + 1 := h.numbered i a hi
    have hid : a.id = id := Ledger.id_of_address? ha
    rw [if_neg (by omega), show (id - 1).toNat = i by omega, hi]

/-- In a sound ledger a number leads to every address that has it. -/
theorem Sound.address?_of_mem (h : r.Sound l) {a : Address} (ha : a ∈ l.addresses) :
    l.address? a.id = some a := by
  obtain ⟨i, hi⟩ := List.getElem?_of_mem ha
  have hid : a.id = i + 1 := h.numbered i a hi
  rw [h.address?_eq, if_neg (by omega), show (a.id - 1).toNat = i by omega, hi]

/-- In a sound ledger addresses whose emails are the same are the same. -/
theorem Sound.eq_of_same (h : r.Sound l) {a b : Address} (ha : a ∈ l.addresses)
    (hb : b ∈ l.addresses) (hab : r.same a.email b.email) (hba : r.same b.email a.email) :
    a = b := by
  obtain ⟨i, hi, rfl⟩ := List.getElem_of_mem ha
  obtain ⟨j, hj, rfl⟩ := List.getElem_of_mem hb
  -- of two places the earlier one excludes the email from the later one
  have hd := List.pairwise_iff_getElem.mp h.distinct
  rcases Nat.lt_trichotomy i j with hlt | rfl | hgt
  · exact absurd hab (by simp [hd i j hi hj hlt])
  · rfl
  · exact absurd hba (by simp [hd j i hj hi hgt])

/-- **In a sound ledger every message is listed**, in its place and with its sender. -/
theorem Sound.forall₂_previews (h : r.Sound l) :
    List.Forall₂ (fun m p => ∃ a, l.address? m.senderId = some a ∧ p = m.preview a)
      l.messages l.previews := h.linked.forall₂_previews

end Rules

end Store

end Maildrop
