import Maildrop.Proofs.Store.Action
import Maildrop.Proofs.Store.Ledger
import Maildrop.Registry

/-!
# The registry on a ledger

What the registry does to a ledger. The address of an email is the one that the ledger
has for its normal form, and otherwise the next one, which is added
(`Maildrop.Registry.eval_getOrCreate`). As the look-up and the making of an address go by
the same rule, an email that was not found is never reported as taken: where nobody else
uses the store, the second look-up does not come about.
-/

namespace Maildrop

open Store (Call Rules Ledger Action)

namespace Store.Rules

variable (r : Rules) (l : Ledger)

/-- **The address that an email resolves to**: the one that there is, or the next one. -/
def resolve (email : String) (name : Option String) : Address :=
  (r.addressByEmail? l (normalizeEmail email)).getD (l.newAddress (normalizeEmail email) name)

/-- **The ledger after an email has been resolved.** -/
def register (email : String) (name : Option String) : Ledger :=
  match r.addressByEmail? l (normalizeEmail email) with
  | some _ => l
  | none => l.addAddress (l.newAddress (normalizeEmail email) name)

variable {r l}

/-- Resolving an email leaves the messages alone. -/
@[simp] theorem messages_register (email : String) (name : Option String) :
    (r.register l email name).messages = l.messages := by
  rw [register]
  split <;> rfl

/-- Resolving an email adds its address, unless there is one. -/
theorem addresses_register (email : String) (name : Option String) :
    (r.register l email name).addresses = l.addresses ++
      if (r.addressByEmail? l (normalizeEmail email)).isNone then [r.resolve l email name]
      else [] := by
  rw [register, resolve]
  rcases r.addressByEmail? l (normalizeEmail email) with _ | a
  · rfl
  · exact (List.append_nil _).symm

theorem Sound.register (h : r.Sound l) (email : String) (name : Option String) :
    r.Sound (r.register l email name) := by
  rw [Rules.register]
  split
  · exact h
  · next hnew => exact h.addAddress name hnew

/-- An email resolves to an address of the ledger afterwards. -/
theorem resolve_mem_register (email : String) (name : Option String) :
    r.resolve l email name ∈ (r.register l email name).addresses := by
  rw [resolve, Rules.register]
  rcases ha : r.addressByEmail? l (normalizeEmail email) with _ | a
  · exact List.mem_append_right _ (List.mem_singleton.mpr rfl)
  · exact List.mem_of_find?_eq_some ha

/-- An email resolves to an address that is known by its number. -/
theorem Sound.address?_resolve (h : r.Sound l) (email : String) (name : Option String) :
    (r.register l email name).address? (r.resolve l email name).id =
      some (r.resolve l email name) :=
  (h.register email name).address?_of_mem (resolve_mem_register email name)

end Store.Rules

namespace Registry

variable (r : Rules) (l : Ledger)

/-- **Getting or creating the address of an email**, on a ledger. -/
theorem eval_getOrCreate (email : String) (name : Option String) :
    (getOrCreate email name).eval r.server l =
      (.ok (r.resolve l email name), r.register l email name) := by
  have hlook : (r.server.step (.addressByEmail (normalizeEmail email)) l).result =
      .ok (r.addressByEmail? l (normalizeEmail email)) := rfl
  rw [getOrCreate, Action.eval_ask_bind hlook, Rules.resolve, Rules.register]
  rcases ha : r.addressByEmail? l (normalizeEmail email) with _ | a
  · -- the email is new by the rule by which an address is made, so it is made
    have hmake : r.create l (normalizeEmail email) name =
        (.created (l.newAddress (normalizeEmail email) name),
          l.addAddress (l.newAddress (normalizeEmail email) name)) := by
      rw [Rules.create, ha]
      rfl
    have hcreate : (r.server.step (.createAddress (normalizeEmail email) name) l).result =
        .ok (.created (l.newAddress (normalizeEmail email) name)) := by
      change Except.ok (r.create l (normalizeEmail email) name).1 = _
      rw [hmake]
    change (create (normalizeEmail email) name).eval r.server l = _
    rw [create, Action.eval_ask_bind hcreate]
    change (Except.ok _, (r.create l (normalizeEmail email) name).2) = _
    rw [hmake]
    rfl
  · rfl

end Registry

end Maildrop
