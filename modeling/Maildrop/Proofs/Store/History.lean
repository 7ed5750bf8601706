import Maildrop.Proofs.Store.Medium

/-!
# What a history leaves standing

A history is a list of calls with their results, oldest first. It can be read without
any store: a message *stands* after it (`Maildrop.Store.standing`) if some call in it has
stored the message and no later one has *displaced* it, that is, deleted its id or stored
another message under it.

From an empty store of either kind, the messages that stand after the history are the
messages that the store holds, in the same order (`Maildrop.Store.Medium.messages_after`).
Calls that failed, and messages that were turned away as duplicates, play no part in a
history, whatever they said.

From any other state it is the same for what is added, and what was there is left as far as it has
not been displaced. This needs nothing but that every call does to the messages what its entry says
(`Maildrop.Store.Amends`, `Maildrop.Store.messages_after_of_amends`).
-/

namespace Maildrop.Store

/-- Whether a call removes the message of an id from where it stood: by deleting it, or by
storing a new one. -/
def displaces (id : String) : (c : Call) × c.Result → Bool
  | ⟨.delete x, _⟩ => x = id
  | ⟨.insert m, .ok .stored⟩ => m.id = id
  | _ => false

/-- **The messages that stand after a history**, in the order in which they were stored:
what was stored and not displaced later. -/
def standing : List ((c : Call) × c.Result) → List NewMessage
  | [] => []
  | ⟨.insert m, .ok .stored⟩ :: h =>
    if h.any (displaces m.id) then standing h else m :: standing h
  | _ :: h => standing h

/-- The messages that no call of a history displaces. -/
def undisplaced (h : List ((c : Call) × c.Result)) (ms : List Message) : List Message :=
  ms.filter fun m => !h.any (displaces m.id)

/-- An entry that displaces nothing can be left out. -/
theorem undisplaced_cons {e : (c : Call) × c.Result} {ms : List Message}
    (he : ∀ m ∈ ms, displaces m.id e = false) (h : List ((c : Call) × c.Result)) :
    undisplaced (e :: h) ms = undisplaced h ms :=
  List.filter_congr fun m hm => by rw [List.any_cons, he m hm, Bool.false_or]

/-- Deleting first and displacing the rest later is the same as displacing all. -/
theorem undisplaced_delete (id : String) (x : (Call.delete id).Result)
    (h : List ((c : Call) × c.Result)) (ms : List Message) :
    undisplaced h (ms.filter fun m => m.id ≠ id) = undisplaced (⟨.delete id, x⟩ :: h) ms := by
  rw [undisplaced, undisplaced, List.filter_filter]
  refine List.filter_congr fun m _ => ?_
  rw [List.any_cons, Bool.not_or, Bool.and_comm]
  simp [displaces, eq_comm]

/-- A new message stands if nothing displaces it later. -/
theorem undisplaced_addMessage (h : List ((c : Call) × c.Result)) (ms : List Message)
    (m : NewMessage) :
    undisplaced h (ms ++ [m.stored]) ++ (standing h).map NewMessage.stored =
      undisplaced h ms ++ (standing (⟨.insert m, .ok .stored⟩ :: h)).map NewMessage.stored := by
  rw [undisplaced, List.filter_append, List.append_assoc, standing]
  change undisplaced h ms ++ _ = _
  rcases hd : h.any (displaces m.id) with _ | _
  · simp [NewMessage.stored, hd]
  · simp [NewMessage.stored, hd]

/-- **What an entry of a history does to messages**: a deletion strikes out an id, a message that
is stored has a new id and comes last, and everything else leaves them alone. -/
def Amends : (c : Call) × c.Result → List Message → List Message → Prop
  | ⟨.delete id, _⟩, ms, ms' => ms' = ms.filter fun m => m.id ≠ id
  | ⟨.insert m, .ok .stored⟩, ms, ms' => (∀ m' ∈ ms, m'.id ≠ m.id) ∧ ms' = ms ++ [m.stored]
  | _, ms, ms' => ms' = ms

/-- What an entry does comes to the same as reading it in the history. -/
theorem Amends.standing {e : (c : Call) × c.Result} {ms ms' : List Message} (he : Amends e ms ms')
    (h : List ((c : Call) × c.Result)) :
    undisplaced h ms' ++ (standing h).map NewMessage.stored =
      undisplaced (e :: h) ms ++ (standing (e :: h)).map NewMessage.stored := by
  rcases e with ⟨c, x⟩
  cases c with
  | delete id =>
    obtain rfl : ms' = ms.filter fun m => m.id ≠ id := he
    rw [undisplaced_delete id x]
    rfl
  | insert m =>
    rcases x with f | _ | _
    · obtain rfl : ms' = ms := he
      rw [undisplaced_cons fun _ _ => rfl]
      rfl
    · -- a message that is stored had a new id, so it displaces nothing that was there
      obtain ⟨hnew, rfl⟩ : (∀ m' ∈ ms, m'.id ≠ m.id) ∧ ms' = ms ++ [m.stored] := he
      rw [undisplaced_cons fun m' hm' => by simpa [displaces, eq_comm] using hnew m' hm']
      exact undisplaced_addMessage ..
    · obtain rfl : ms' = ms := he
      rw [undisplaced_cons fun _ _ => rfl]
      rfl
  | _ =>
    obtain rfl : ms' = ms := he
    rw [undisplaced_cons fun _ _ => rfl]
    rfl

/-- **What calls leave of messages and add to them**, wherever the messages are seen: of those
that were there the ones that are not displaced, and then those that stand after the history. -/
theorem messages_after_of_amends {σ : Type} {b : Server σ} {messages : σ → List Message}
    (hstep : ∀ c s, Amends ⟨c, (b.step c s).result⟩ (messages s) (messages (b.step c s).state))
    (cs : List Call) (s : σ) :
    messages (b.after cs s) =
      undisplaced (b.history cs s) (messages s) ++
        (standing (b.history cs s)).map NewMessage.stored := by
  induction cs generalizing s with
  | nil => simp [Backend.after, Backend.history, undisplaced, standing]
  | cons c cs ih => rw [Backend.after_cons, ih, (hstep c s).standing, Backend.history]

/-- A ledger is amended as the history says. -/
theorem Rules.amends (r : Rules) (c : Call) (l : Ledger) :
    Amends ⟨c, (r.server.step c l).result⟩ l.messages (r.server.step c l).state.messages := by
  cases c with
  | createAddress email name => exact r.messages_create l email name
  | insert m =>
    change Amends ⟨.insert m, (r.insert l m).1⟩ l.messages (r.insert l m).2.messages
    obtain ⟨hid, -, heq⟩ | ⟨x, hx, heq⟩ := r.insert_cases l m
    · rw [heq]
      exact ⟨Ledger.message?_eq_none.mp hid, rfl⟩
    · rw [heq]
      rcases x with f | _ | _
      · rfl
      · exact absurd rfl hx
      · rfl
  | _ => rfl

/-- **What the calls leave of a ledger and add to it**: of the messages that were there
those that are not displaced, and then those that stand after the history. -/
theorem Rules.messages_after (r : Rules) (cs : List Call) (l : Ledger) :
    (r.server.after cs l).messages =
      undisplaced (r.server.history cs l) l.messages ++
        (standing (r.server.history cs l)).map NewMessage.stored :=
  messages_after_of_amends r.amends cs l

/-- **The messages of a store are those that stand after its history.** -/
theorem Medium.messages_after (k : Medium) (cs : List Call) :
    (k.ledger (k.after cs)).messages = (standing (k.history cs)).map NewMessage.stored := by
  obtain ⟨hh, hl⟩ := k.history_eq cs
  rw [hl, hh, Rules.messages_after]
  rfl

end Maildrop.Store
