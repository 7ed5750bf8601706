import Maildrop.Store.Program

/-!
# A store in memory

Addresses are kept in a list, numbered from 1 by their places in it. Beside it stands
an index from emails in small letters to numbers, so that emails which differ only in
case share an address. Messages are kept by id, and a list of ids keeps the order in
which they came.
-/

namespace Maildrop.Store

/-- **The tables of a store in memory.** -/
structure Memory where
  /-- The address with number `i + 1` stands at place `i`. -/
  addresses : List Address := []
  /-- Numbers by email in small letters. -/
  index : List (String × Int) := []
  /-- Messages by id. -/
  messages : List (String × Message) := []
  /-- Ids in the order of insertion. -/
  order : List String := []

namespace Memory

/-- An email as the index holds it. -/
def key (email : String) : String := String.ofList (Text.lowercase email.toList)

/-- The address with a number. -/
def address? (m : Memory) (id : Int) : Option Address :=
  if id < 1 then none else m.addresses[(id - 1).toNat]?

/-- The message with an id. -/
def message? (m : Memory) (id : String) : Option Message := m.messages.lookup id

/-- Makes an address, unless its email is taken. -/
def create (m : Memory) (email : String) (name : Option String) : Creation × Memory :=
  if (m.index.lookup (key email)).isSome then (.taken, m)
  else
    let a : Address := ⟨m.addresses.length + 1, email, name⟩
    (.created a,
      { m with addresses := m.addresses ++ [a], index := (key email, a.id) :: m.index })

/-- Stores a message, unless its id is in use or its sender unknown. -/
def insert (m : Memory) (message : NewMessage) : Except Failure Insertion × Memory :=
  if (m.message? message.id).isSome then (.ok .duplicate, m)
  else if message.senderId < 1 ∨ message.senderId > m.addresses.length then
    (.error ⟨.unknownSender message.id message.senderId, []⟩, m)
  else
    (.ok .stored,
      { m with
        messages := (message.id, message.stored) :: m.messages
        order := m.order ++ [message.id] })

/-- Deletes a message. -/
def delete (m : Memory) (id : String) : Memory :=
  if (m.message? id).isSome then
    { m with messages := m.messages.filter (·.1 != id), order := m.order.filter (· != id) }
  else m

/-- The listing entry of a message, if its sender is known. -/
def preview? (m : Memory) (x : Message) : Option Preview :=
  (m.address? x.senderId).map fun a =>
    ⟨x.id, a, x.subjectPreview, x.bodyPreview, x.size, x.receivedAt⟩

/-- All messages in the order of insertion. -/
def previews (m : Memory) : List Preview :=
  (m.order.filterMap m.message?).filterMap m.preview?

/-- What a call does. -/
def step (c : Call) (m : Memory) : Step Memory c :=
  match c with
  | .addressByEmail email => ⟨.ok ((m.index.lookup (key email)).bind m.address?), m, []⟩
  | .address id => ⟨.ok (m.address? id), m, []⟩
  | .createAddress email name => ⟨.ok (m.create email name).1, (m.create email name).2, []⟩
  | .insert x => ⟨(m.insert x).1, (m.insert x).2, []⟩
  | .message id => ⟨.ok (m.message? id), m, []⟩
  | .raw id => ⟨.ok ((m.message? id).map Message.raw), m, []⟩
  | .has id => ⟨.ok (m.message? id).isSome, m, []⟩
  | .delete id => ⟨.ok (), m.delete id, []⟩
  | .previews => ⟨.ok m.previews, m, []⟩
  | .count => ⟨.ok m.messages.length, m, []⟩

/-- **The store in memory.** -/
def backend : Server Memory := ⟨step⟩

end Memory

end Maildrop.Store
