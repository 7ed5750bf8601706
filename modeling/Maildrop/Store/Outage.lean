import Maildrop.Store.Program

/-!
# Stores whose calls go wrong

A store around another one that answers some calls itself: look-ups that find nothing,
inserts that fail, and so on. Everything else goes to the store inside.

Such stores are for those who try out a program that uses one. No command has to do with them, and
neither has the theory, where any call may fail (`Maildrop.Store.Server.unreliable`).
-/

namespace Maildrop.Store

/-- **Which calls go wrong, and how.** A text stands for a failure with that text. -/
structure Outages where
  /-- So many first look-ups by email find nothing. -/
  hiddenLookups : Nat := 0
  /-- Look-ups by email fail. -/
  lookup : Option String := none
  /-- Look-ups by number find nothing. -/
  noAddress : Bool := false
  /-- What making an address gives. -/
  create : Option (Except String Unit) := none
  /-- What storing a message gives. -/
  insert : Option (Except String Unit) := none
  /-- What reading octets gives. -/
  raw : Option (Except String (Option Bytes)) := none
  /-- Deleting fails. -/
  delete : Option String := none
  /-- Listing fails. -/
  list : Option String := none

/-- A failure with a text of its own. -/
def outage (text : String) : Failure := ⟨.other text, []⟩

/-- What a call gives without the store inside, if it is one that goes wrong; `hidden`
says how many look-ups are still to find nothing. -/
def Outages.answer? (o : Outages) (hidden : Nat) (c : Call) : Option c.Result :=
  match c with
  | .addressByEmail _ =>
    if 0 < hidden then some (.ok none) else o.lookup.map fun t => .error (outage t)
  | .address _ => if o.noAddress then some (.ok none) else none
  | .createAddress _ _ => o.create.map fun r => (r.mapError outage).map fun _ => .taken
  | .insert _ => o.insert.map fun r => (r.mapError outage).map fun _ => .duplicate
  | .raw _ => o.raw.map fun r => r.mapError outage
  | .delete _ => o.delete.map fun t => .error (outage t)
  | .previews => o.list.map fun t => .error (outage t)
  | _ => none

/-- Whether a call is a look-up by email. -/
def Call.isLookup : Call → Bool
  | .addressByEmail _ => true
  | _ => false

/-- **A backend with outages.** Its state counts the look-ups still to be hidden. -/
def Outages.around {σ : Type} (o : Outages) (b : Server σ) : Server (Nat × σ) where
  step c s :=
    let hidden := if c.isLookup then s.1 - 1 else s.1
    match o.answer? s.1 c with
    | some r => ⟨r, (hidden, s.2), []⟩
    | none =>
      let out := b.step c s.2
      ⟨out.result, (hidden, out.state), out.log⟩

end Maildrop.Store
