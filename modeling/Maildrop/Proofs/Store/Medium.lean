import Maildrop.Proofs.Email
import Maildrop.Proofs.Store.DatabaseLedger
import Maildrop.Proofs.Store.MemoryLedger

/-!
# Stores of either kind

A store is kept in memory or in a database. Statements about both are made once, about a
*medium* (`Maildrop.Store.Medium`): it says what the states of a store are, what each
call does in them, and which ledger a state holds.

From an empty store, whatever calls are made, the state stays valid, and the answers and
the ledger afterwards are those of the ledger under the medium's rules
(`Maildrop.Store.Medium.eval_eq`, `Maildrop.Store.Medium.history_eq`). This is how
properties of stores are reduced to properties of ledgers.
-/

namespace Maildrop.Store

/-- Whether a call takes the place before number 0, which no list has. Both the look-up of
an email and the listing go from a number to the place before it without asking. -/
def Memory.Underflows (c : Call) (m : Memory) : Prop :=
  match c with
  | .addressByEmail email => m.index.lookup (Memory.key email) = some 0
  | .previews => ∃ x ∈ m.order.filterMap m.message?, x.senderId = 0
  | _ => False

/-- In a valid store every number has a place before it. -/
theorem Memory.Valid.not_underflows {m : Memory} (h : m.Valid) (c : Call) :
    ¬m.Underflows c := by
  have hpos : ∀ n, (m.ledger.address? n).isSome → n ≠ 0 := by
    intro n hn h0
    rw [h.sound.address?_eq, if_pos (by omega)] at hn
    exact absurd hn (by simp)
  cases c with
  | addressByEmail email =>
    change m.index.lookup (Memory.key email) ≠ some 0
    rw [h.lookup_index]
    intro hn
    obtain ⟨a, ha, ha0⟩ := Option.map_eq_some_iff.mp hn
    have hmem : a ∈ m.ledger.addresses := List.mem_of_find?_eq_some ha
    exact hpos a.id (by rw [h.sound.address?_of_mem hmem]; rfl) ha0
  | previews =>
    rintro ⟨x, hx, h0⟩
    obtain ⟨id, -, hid⟩ := List.mem_filterMap.mp hx
    rw [h.message?_eq] at hid
    exact hpos _ (h.sound.known x (Ledger.mem_of_message? hid)) h0
  | _ => exact id

/-- **What a store is kept in.** -/
inductive Medium where
  | memory
  | database
  deriving DecidableEq, Repr

namespace Medium

/-- The states of a store. -/
abbrev State : Medium → Type
  | memory => Memory
  | database => Database

/-- What each call does. -/
def backend : (k : Medium) → Server k.State
  | memory => Memory.backend
  | database => Database.backend

/-- A store in which nothing has been kept yet. -/
def empty : (k : Medium) → k.State
  | memory => ({} : Memory)
  | database => ({} : Database)

/-- The rules that the store follows. -/
def rules : Medium → Rules
  | memory => Memory.rules
  | database => Database.rules

/-- **The ledger that a state holds**: its addresses and messages, oldest first. -/
def ledger : (k : Medium) → k.State → Ledger
  | memory => Memory.ledger
  | database => Database.ledger

/-- States that nothing but calls has brought about. -/
def Valid : (k : Medium) → k.State → Prop
  | memory => Memory.Valid
  | database => fun d => ∃ t, d.tables = some t ∧ t.Valid

/-- Whether a call takes a place that is out of the question. -/
def Underflows : (k : Medium) → Call → k.State → Prop
  | memory => fun c m => m.Underflows c
  | database => fun _ _ => False

/-- Under the rules of a store every email is the same as itself. -/
theorem same_self (k : Medium) (x : String) : k.rules.same x x := by
  cases k with
  | memory => exact beq_self_eq_true (Memory.key x)
  | database => exact sameEmail_self x

/-- Under the rules of a store sameness is mutual. -/
theorem same_comm (k : Medium) (x y : String) : k.rules.same x y = k.rules.same y x := by
  cases k with
  | memory => exact Bool.beq_comm
  | database =>
    change sameEmail x y = sameEmail y x
    rw [sameEmail, sameEmail, agree_comm, Bool.beq_comm]

/-- Under the rules of a store an email in normal form is the same as a plain one only if the
two are equal. -/
theorem same_iff_of_normal (k : Medium) {x y : String} (hx : normalizeEmail x = x)
    (hy : PlainEmail y) : k.rules.same x y ↔ x = y := by
  cases k with
  | memory =>
    change (Memory.key x == Memory.key y) = true ↔ x = y
    rw [key_of_normal hx, key_of_normal hy.normal, beq_iff_eq]
  | database => exact PlainEmail.sameEmail_iff hx hy

/-- So plain emails are the same only if they are equal. -/
theorem same_iff (k : Medium) {x y : String} (hx : PlainEmail x) (hy : PlainEmail y) :
    k.rules.same x y ↔ x = y := k.same_iff_of_normal hx.normal hy

/-- No two addresses of a sound ledger have one email. -/
theorem nodup_emails {k : Medium} {l : Ledger} (h : k.rules.Sound l) :
    (l.addresses.map Address.email).Nodup := by
  refine List.pairwise_map.mpr (h.distinct.imp fun {a b} hab heq => ?_)
  rw [heq, k.same_self] at hab
  exact absurd hab (by simp)

/-- The answer to a call. -/
def ask (k : Medium) (c : Call) (s : k.State) : c.Result := (k.backend.step c s).result

/-- **The state after some calls** on an empty store. -/
def after (k : Medium) (cs : List Call) : k.State := k.backend.after cs k.empty

/-- **The history of some calls** on an empty store. -/
def history (k : Medium) (cs : List Call) : List ((c : Call) × c.Result) :=
  k.backend.history cs k.empty

/-- **A store stands for its ledger.** -/
theorem refines (k : Medium) :
    Refines k.backend k.rules.server fun s l => k.Valid s ∧ k.ledger s = l := by
  cases k with
  | memory => exact Memory.refines
  | database => exact Database.refines

variable {k : Medium} {s : k.State}

theorem valid_empty (k : Medium) : k.Valid k.empty := by
  cases k with
  | memory => exact Memory.valid_empty
  | database => exact ⟨{}, rfl, Tables.valid_empty⟩

theorem ledger_empty (k : Medium) : k.ledger k.empty = {} := by
  cases k <;> rfl

theorem valid_step (h : k.Valid s) (c : Call) : k.Valid (k.backend.step c s).state :=
  (k.refines.state c s _ ⟨h, rfl⟩).1

theorem valid_after (k : Medium) (cs : List Call) : k.Valid (k.after cs) :=
  k.backend.after_keeps (I := k.Valid) (fun c _ hs => valid_step hs c) cs k.valid_empty

theorem Valid.sound (h : k.Valid s) : k.rules.Sound (k.ledger s) := by
  cases k with
  | memory => exact Memory.Valid.sound h
  | database =>
    obtain ⟨t, ht, hv⟩ := h
    change Database.rules.Sound (Database.ledger s)
    rw [Database.ledger, ht]
    exact hv.sound

theorem Valid.not_underflows (h : k.Valid s) (c : Call) : ¬k.Underflows c s := by
  cases k with
  | memory => exact Memory.Valid.not_underflows h c
  | database => exact id

/-- The answer to a call is the one that the ledger gives. -/
theorem Valid.ask_eq (h : k.Valid s) (c : Call) :
    k.ask c s = (k.rules.step c (k.ledger s)).result :=
  k.refines.result c s _ ⟨h, rfl⟩

/-- **A program does to a store what it does to the ledger.** -/
theorem Valid.eval_eq {α : Type} (h : k.Valid s) (p : Client α) :
    (p.eval k.backend s).1 = (p.eval k.rules.server (k.ledger s)).1 ∧
      k.Valid (p.eval k.backend s).2 ∧
      k.ledger (p.eval k.backend s).2 = (p.eval k.rules.server (k.ledger s)).2 :=
  k.refines.eval p ⟨h, rfl⟩

/-- Calls on an empty store have the history that they have on an empty ledger. -/
theorem history_eq (k : Medium) (cs : List Call) :
    k.history cs = k.rules.server.history cs {} ∧
      k.ledger (k.after cs) = k.rules.server.after cs {} := by
  obtain ⟨hh, -, hl⟩ := k.refines.history cs ⟨k.valid_empty, k.ledger_empty⟩
  exact ⟨hh, hl⟩

end Medium

end Maildrop.Store
