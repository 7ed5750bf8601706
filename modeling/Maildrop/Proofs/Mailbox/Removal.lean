import Maildrop.Mailbox.Basic
import Maildrop.Proofs.Store.Unreliable

/-!
# Removing messages

Messages are removed one after the other, and the first deletion that fails ends the removal.
What is left does not depend on the order of the deletions or on how often an id is named: it is
the state without the messages of the ids (`Maildrop.Store.Medium.without`), for a store of
either kind (`Maildrop.Mailbox.eval_remove_eq`). That is said of the whole state and not only of
what can be read from it, so stores that have lost the same messages cannot be told apart later.

On an unreliable line a removal that fails has deleted the messages of the ids that stand before
the failure in the list, and no others (`Maildrop.Mailbox.eval_removeEach_error`).
`Maildrop.Mailbox.removal` puts this together for every state that calls can reach.
-/

namespace Maildrop

namespace Store

/-! ### States without some messages -/

/-- The ledger without the messages of some ids. -/
def Ledger.without (l : Ledger) (ids : List String) : Ledger :=
  { l with messages := l.messages.filter fun m => m.id ∉ ids }

/-- The tables in memory without the messages of some ids. -/
def Memory.without (m : Memory) (ids : List String) : Memory :=
  { m with
    messages := m.messages.filter fun x => x.1 ∉ ids
    order := m.order.filter fun id => id ∉ ids }

/-- The tables of a database without the messages of some ids. -/
def Tables.without (t : Tables) (ids : List String) : Tables :=
  { t with messages := t.messages.filter fun r => r.id ∉ ids }

/-- **A state of a store without the messages of some ids.** -/
def Medium.without : (k : Medium) → k.State → List String → k.State
  | memory => Memory.without
  | database => fun d ids => { d with tables := d.tables.map fun t => t.without ids }

/-- A message is found among those that are left, unless its id is one of those left out. -/
theorem Ledger.message?_without (l : Ledger) (ids : List String) (id : String) :
    (l.without ids).message? id = if id ∈ ids then none else l.message? id := by
  rw [Ledger.message?, Ledger.without, List.find?_filter]
  split
  · next hid =>
    refine List.find?_eq_none.mpr fun m _ hm => ?_
    simp only [decide_eq_true_eq] at hm
    exact hm.1 (hm.2 ▸ hid)
  · next hid =>
    refine congrArg (l.messages.find? ·) (funext fun m => ?_)
    by_cases hm : m.id = id
    · simp [hm, hid]
    · simp [hm]

section Filter

variable {α : Type} (key : α → String) (xs : List α)

theorem filter_without_nil : xs.filter (fun x => key x ∉ ([] : List String)) = xs := by
  simp

/-- What is left without some ids and then without others is left without both. -/
theorem filter_without_without (ids ids' : List String) :
    (xs.filter fun x => key x ∉ ids).filter (fun x => key x ∉ ids') =
      xs.filter fun x => key x ∉ ids ++ ids' := by
  rw [List.filter_filter]
  refine List.filter_congr fun x _ => ?_
  rw [← Bool.decide_and, decide_eq_decide, List.mem_append, not_or, and_comm]

/-- Leaving out one id is a beginning of leaving out several. -/
theorem filter_ne_without (id : String) (ids : List String) :
    (xs.filter fun x => key x ≠ id).filter (fun x => key x ∉ ids) =
      xs.filter fun x => key x ∉ id :: ids := by
  rw [← List.singleton_append, ← filter_without_without]
  simp only [List.mem_singleton, ne_eq]

theorem filter_without_congr {ids ids' : List String} (h : ∀ id, id ∈ ids ↔ id ∈ ids') :
    xs.filter (fun x => key x ∉ ids) = xs.filter fun x => key x ∉ ids' :=
  List.filter_congr fun x _ => by rw [decide_eq_decide, h]

end Filter

theorem Ledger.strike_without (l : Ledger) (id : String) (ids : List String) :
    (l.strike id).without ids = l.without (id :: ids) := by
  rw [Ledger.without, Ledger.strike, filter_ne_without]
  rfl

/-- Deletions strike the messages out of a ledger. -/
theorem Rules.after_deletes (r : Rules) (ids : List String) (l : Ledger) :
    r.server.after (ids.map Call.delete) l = l.without ids := by
  induction ids generalizing l with
  | nil => rw [Ledger.without, filter_without_nil]; rfl
  | cons id ids ih => rw [List.map_cons, Backend.after_cons, ih, ← Ledger.strike_without]; rfl

theorem Tables.delete_without (t : Tables) (id : String) (ids : List String) :
    (t.delete id).without ids = t.without (id :: ids) := by
  rw [Tables.without, Tables.delete, filter_ne_without]
  rfl

theorem Tables.without_nil (t : Tables) : t.without [] = t := by
  rw [Tables.without, filter_without_nil]

/-- Deleting one message leaves the tables without it. -/
theorem Tables.delete_eq (t : Tables) (id : String) : t.delete id = t.without [id] := by
  rw [← delete_without, without_nil]

namespace Medium

variable (k : Medium) (s : k.State)

theorem without_nil : k.without s [] = s := by
  cases k with
  | memory =>
    change Memory.without s [] = s
    rw [Memory.without, filter_without_nil, filter_without_nil fun id : String => id]
  | database =>
    change Database.mk s.schema (s.tables.map fun t => t.without []) = s
    rw [show (fun t : Tables => t.without []) = id from funext Tables.without_nil, Option.map_id]
    rfl

/-- **Messages can be left out in parts.** -/
theorem without_without (ids ids' : List String) :
    k.without (k.without s ids) ids' = k.without s (ids ++ ids') := by
  cases k with
  | memory =>
    change Memory.without (Memory.without s ids) ids' = Memory.without s (ids ++ ids')
    rw [Memory.without, Memory.without, Memory.without, filter_without_without,
      filter_without_without fun id : String => id]
  | database =>
    change Database.mk s.schema
        ((s.tables.map fun t => t.without ids).map fun t => t.without ids') =
      Database.mk s.schema (s.tables.map fun t => t.without (ids ++ ids'))
    rw [Option.map_map]
    refine congrArg (fun f => Database.mk s.schema (s.tables.map f)) (funext fun t => ?_)
    change (t.without ids).without ids' = _
    rw [Tables.without, Tables.without, Tables.without, filter_without_without]

/-- Neither the order of the ids nor how often they are named makes a difference. -/
theorem without_congr {ids ids' : List String} (h : ∀ id, id ∈ ids ↔ id ∈ ids') :
    k.without s ids = k.without s ids' := by
  cases k with
  | memory =>
    change Memory.without s ids = Memory.without s ids'
    rw [Memory.without, Memory.without, filter_without_congr _ _ h,
      filter_without_congr (fun id : String => id) _ h]
  | database =>
    refine congrArg (fun f => Database.mk s.schema (s.tables.map f)) (funext fun t => ?_)
    rw [Tables.without, Tables.without, filter_without_congr _ _ h]

variable {k s}

/-- **Deleting a message leaves the state without it.** -/
theorem Valid.step_delete (h : k.Valid s) (id : String) :
    (k.backend.step (.delete id) s).result = .ok () ∧
      (k.backend.step (.delete id) s).state = k.without s [id] := by
  refine ⟨h.ask_eq (.delete id), ?_⟩
  cases k with
  | memory =>
    change Memory.delete s id = Memory.without s [id]
    have hv : Memory.Valid s := h
    have hne : ∀ x : String, (x != id) = decide (x ∉ [id]) := fun x => by
      simp [bne, beq_eq_decide]
    rw [Memory.delete, Memory.without]
    split
    · simp only [hne]
    · next hnone =>
      -- with nothing stored under the id, there is nothing to leave out
      rw [Bool.not_eq_true, Option.isSome_eq_false_iff, Option.isNone_iff_eq_none, hv.message?_eq,
        Ledger.message?_eq_none] at hnone
      have horder : ∀ x ∈ s.order, x ∉ [id] := by
        intro x hx hid
        rw [hv.order] at hx
        obtain ⟨m, hm, rfl⟩ := List.mem_map.mp hx
        exact hnone m hm (List.mem_singleton.mp hid)
      have hmessages : ∀ x ∈ s.messages, x.1 ∉ [id] := by
        intro x hx hid
        rw [hv.keyed x hx, List.mem_singleton] at hid
        exact hnone x.2 (List.mem_reverse.mpr (List.mem_map_of_mem hx)) hid
      rw [List.filter_eq_self.mpr fun x hx => decide_eq_true (hmessages x hx),
        List.filter_eq_self.mpr fun x hx => decide_eq_true (horder x hx)]
  | database =>
    obtain ⟨t, ht, -⟩ := h
    change (Database.step (.delete id) s).state = _
    rw [Database.step, ht]
    change Database.mk s.schema (some (t.delete id)) =
      Database.mk s.schema (s.tables.map fun t => t.without [id])
    rw [ht, t.delete_eq]
    rfl

theorem Valid.after_deletes (h : k.Valid s) (ids : List String) :
    k.backend.after (ids.map Call.delete) s = k.without s ids := by
  induction ids generalizing s with
  | nil => exact (without_nil k s).symm
  | cons id ids ih =>
    rw [List.map_cons, Backend.after_cons, ih (valid_step h _), (h.step_delete id).2,
      without_without]
    rfl

theorem Valid.without (h : k.Valid s) (ids : List String) : k.Valid (k.without s ids) :=
  h.after_deletes ids ▸ k.backend.after_keeps (I := k.Valid) (fun c _ hs => valid_step hs c) _ h

/-- The ledger of a state loses the same messages. -/
theorem Valid.ledger_without (h : k.Valid s) (ids : List String) :
    k.ledger (k.without s ids) = (k.ledger s).without ids := by
  rw [← h.after_deletes ids, ← k.rules.after_deletes]
  exact (k.refines.history (ids.map Call.delete) ⟨h, rfl⟩).2.2

end Medium

end Store

namespace Mailbox

open Store (Action Call Failure Ledger Medium Rules Server)

/-! ### Running a removal -/

/-- **Where no deletion fails**, the messages are deleted one after the other. -/
theorem eval_remove_of_ok {σ : Type} {b : Server σ} {I : σ → Prop}
    (hI : ∀ id s, I s →
      (b.step (.delete id) s).result = .ok () ∧ I (b.step (.delete id) s).state)
    (ids : List String) {s : σ} (hs : I s) :
    (remove ids).eval b s = (.ok (), b.after (ids.map Call.delete) s) := by
  have heach : (removeEach ids).eval b s = (.ok (), b.after (ids.map Call.delete) s) := by
    induction ids generalizing s with
    | nil => rfl
    | cons id ids ih =>
      rw [removeEach, Action.eval_ask_bind (hI id s hs).1]
      exact ih (hI id s hs).2
  rw [remove, Action.eval_bind_ok heach]
  rfl

/-- Removing messages strikes them out of a ledger. -/
theorem eval_remove (r : Rules) (l : Ledger) (ids : List String) :
    (remove ids).eval r.server l = (.ok (), l.without ids) := by
  rw [eval_remove_of_ok (I := fun _ => True) (fun _ _ _ => ⟨rfl, trivial⟩) ids trivial,
    r.after_deletes]

section Medium

variable {k : Medium} {s : k.State}

/-- **A removal leaves the state without the messages.** -/
theorem eval_remove_eq (h : k.Valid s) (ids : List String) :
    (remove ids).eval k.backend s = (.ok (), k.without s ids) := by
  rw [eval_remove_of_ok (I := k.Valid)
    (fun id _ hs => ⟨(hs.step_delete id).1, Medium.valid_step hs _⟩) ids h, h.after_deletes]

/-! ### Removals on an unreliable line -/

/-- Deletions that meet no failure. -/
theorem eval_removeEach_ok (h : k.Valid s) (ids : List String) {faults : List (Option Failure)}
    (hfaults : ∀ i < ids.length, ∀ f, faults[i]? ≠ some (some f)) :
    (removeEach ids).eval k.backend.unreliable (faults, s) =
      (.ok (), faults.drop ids.length, k.without s ids) := by
  induction ids generalizing s faults with
  | nil => rw [k.without_nil]; rfl
  | cons id ids ih =>
    have hnone : faults.head?.join = none := by
      rcases faults with _ | ⟨_ | f, faults⟩
      · rfl
      · rfl
      · exact absurd rfl (hfaults 0 (Nat.succ_pos _) f)
    have hstep := k.backend.unreliable_step_of_none hnone (.delete id) s
    obtain ⟨hresult, hstate⟩ := h.step_delete id
    have hrest : ∀ i < ids.length, ∀ f, faults.tail[i]? ≠ some (some f) := fun i hi f => by
      rw [List.getElem?_tail]
      exact hfaults (i + 1) (Nat.succ_lt_succ hi) f
    rw [removeEach, Action.eval_ask_bind (b := k.backend.unreliable) (by rw [hstep, hresult]),
      hstep, hstate, ih (h.without [id]) hrest, Medium.without_without, List.drop_tail]
    rfl

/-- Deleting messages is deleting the first of them and then the others. -/
theorem removeEach_append (ids ids' : List String) :
    removeEach (ids ++ ids') = removeEach ids >>= fun _ => removeEach ids' := by
  induction ids with
  | nil => exact (pure_bind () fun _ => removeEach ids').symm
  | cons id ids ih => rw [List.cons_append, removeEach, removeEach, ih, bind_assoc]

/-- Deletions up to the first that fails. -/
theorem eval_removeEach_error (h : k.Valid s) (before : List String) (id : String)
    (behind : List String) {faults : List (Option Failure)} {f : Failure}
    (hfaults : ∀ i < before.length, ∀ f, faults[i]? ≠ some (some f))
    (hf : faults[before.length]? = some (some f)) :
    (removeEach (before ++ id :: behind)).eval k.backend.unreliable (faults, s) =
      (.error (f.within (.removeMessage id)), faults.drop (before.length + 1),
        k.without s before) := by
  have hhead : (faults.drop before.length).head?.join = some f := by
    rw [List.head?_drop, hf]
    rfl
  have hstep := k.backend.unreliable_step_of_some hhead (.delete id) (k.without s before)
  rw [removeEach_append, Action.eval_bind_ok (eval_removeEach_ok h before hfaults), removeEach,
    Action.eval_ask_bind_error (b := k.backend.unreliable) (by rw [hstep]), hstep, List.tail_drop]

/-- **A removal on an unreliable line**, with all deletions or up to the first that fails. -/
theorem remove_unreliable_cases (h : k.Valid s) (ids : List String)
    (faults : List (Option Failure)) :
    ((∀ i < ids.length, ∀ f, faults[i]? ≠ some (some f)) ∧
      (remove ids).eval k.backend.unreliable (faults, s) =
        (.ok (), faults.drop ids.length, k.without s ids)) ∨
    ∃ before id behind f, ids = before ++ id :: behind ∧
      (∀ i < before.length, ∀ g, faults[i]? ≠ some (some g)) ∧
      faults[before.length]? = some (some f) ∧
      (remove ids).eval k.backend.unreliable (faults, s) =
        (.error (f.within (.removeMessage id)), faults.drop (before.length + 1),
          k.without s before) := by
  classical
  by_cases hfault : ∃ n, n < ids.length ∧ ∃ f, faults[n]? = some (some f)
  · -- the first failure divides the list
    have hlast := Nat.find_spec hfault
    have hfirst := fun i hi => Nat.find_min hfault (m := i) hi
    generalize Nat.find hfault = n at hlast hfirst
    obtain ⟨hn, f, hf⟩ := hlast
    have hlength : (ids.take n).length = n := List.length_take_of_le (Nat.le_of_lt hn)
    have hids : ids = ids.take n ++ ids[n] :: ids.drop (n + 1) := by
      rw [← List.drop_eq_getElem_cons hn, List.take_append_drop]
    have hbefore : ∀ i < (ids.take n).length, ∀ g, faults[i]? ≠ some (some g) := by
      intro i hi g hg
      rw [hlength] at hi
      exact hfirst i hi ⟨Nat.lt_trans hi hn, g, hg⟩
    rw [← hlength] at hf
    refine .inr ⟨ids.take n, ids[n], ids.drop (n + 1), f, hids, hbefore, hf, ?_⟩
    conv_lhs => rw [hids]
    exact Action.eval_bind_error (eval_removeEach_error h _ _ _ hbefore hf) _
  · have hnone : ∀ i < ids.length, ∀ f, faults[i]? ≠ some (some f) :=
      fun i hi f hf => hfault ⟨i, hi, f, hf⟩
    exact .inl ⟨hnone, Action.eval_bind_ok (eval_removeEach_ok h ids hnone) _⟩

/-! ### What is left -/

/-- **One state is another without some messages**, in what it holds and in what it answers. -/
structure Removed (k : Medium) (s s' : k.State) (ids : List String) : Prop where
  /-- The addresses are left, and the other messages, in their order. -/
  ledger : k.ledger s' =
    { k.ledger s with messages := (k.ledger s).messages.filter fun m => m.id ∉ ids }
  /-- The listing is left without the entries of the messages. -/
  previews : ∃ ps, k.ask .previews s = .ok ps ∧
    k.ask .previews s' = .ok (ps.filter fun p => p.id ∉ ids)
  /-- The messages are gone, and the others are there as they were. -/
  message : ∀ id, k.ask (.message id) s' = if id ∈ ids then .ok none else k.ask (.message id) s
  address : ∀ n, k.ask (.address n) s' = k.ask (.address n) s
  addressByEmail : ∀ email, k.ask (.addressByEmail email) s' = k.ask (.addressByEmail email) s

theorem removed_without (h : k.Valid s) (ids : List String) :
    Removed k s (k.without s ids) ids where
  ledger := h.ledger_without ids
  previews := by
    refine ⟨_, h.ask_eq .previews, ((h.without ids).ask_eq .previews).trans ?_⟩
    rw [h.ledger_without]
    refine congrArg Except.ok ?_
    have hpreview : ((k.ledger s).without ids).preview? = (k.ledger s).preview? := rfl
    rw [Ledger.previews, Ledger.previews, hpreview, Ledger.without, List.filterMap_filter,
      List.filter_filterMap]
    refine List.filterMap_congr fun m _ => ?_
    -- an entry has the id of its message
    rw [Ledger.preview?]
    rcases (k.ledger s).address? m.senderId with _ | a
    · simp
    · simp [Option.filter, Message.preview]
  message id := by
    rw [(h.without ids).ask_eq, h.ask_eq, h.ledger_without]
    change Except.ok (((k.ledger s).without ids).message? id) =
      if id ∈ ids then .ok none else .ok ((k.ledger s).message? id)
    rw [Ledger.message?_without]
    split <;> rfl
  address n := by
    rw [(h.without ids).ask_eq, h.ask_eq, h.ledger_without]
    rfl
  addressByEmail email := by
    rw [(h.without ids).ask_eq, h.ask_eq, h.ledger_without]
    rfl

/-- **What a removal does.** On a store of either kind that any calls have filled, a removal
succeeds and leaves what is not named, in its order. Which list names the ids makes no
difference, and removing them again changes nothing.

On an unreliable line a removal fails if and only if one of its deletions does. It is over then,
and it has left what is not named before that deletion. -/
theorem removal (k : Medium) (cs : List Call) (ids : List String) :
    (∃ s', (remove ids).eval k.backend (k.after cs) = (.ok (), s') ∧
      Removed k (k.after cs) s' ids ∧
      (∀ ids', (∀ id, id ∈ ids' ↔ id ∈ ids) →
        (remove ids').eval k.backend (k.after cs) = (.ok (), s')) ∧
      (remove ids).eval k.backend s' = (.ok (), s')) ∧
    ∀ faults : List (Option Failure), ∃ result faults' s',
      (remove ids).eval k.backend.unreliable (faults, k.after cs) = (result, faults', s') ∧
      ((∃ e, result = .error e) ↔ ∃ i < ids.length, ∃ f, faults[i]? = some (some f)) ∧
      (result = .ok () → Removed k (k.after cs) s' ids) ∧
      ∀ e, result = .error e → ∃ before id behind f, ids = before ++ id :: behind ∧
        (∀ i < before.length, ∀ g, faults[i]? ≠ some (some g)) ∧
        faults[before.length]? = some (some f) ∧ faults' = faults.drop (before.length + 1) ∧
        e = f.within (.removeMessage id) ∧ Removed k (k.after cs) s' before := by
  have h : k.Valid (k.after cs) := k.valid_after cs
  refine ⟨⟨_, eval_remove_eq h ids, removed_without h ids, fun ids' hids => ?_, ?_⟩,
    fun faults => ?_⟩
  · rw [eval_remove_eq h ids', Medium.without_congr k _ hids]
  · rw [eval_remove_eq (h.without ids) ids, Medium.without_without]
    have htwice : ∀ id, id ∈ ids ++ ids ↔ id ∈ ids := fun id => by rw [List.mem_append, or_self]
    rw [Medium.without_congr k _ htwice]
  · obtain ⟨hnone, heq⟩ | ⟨before, id, behind, f, rfl, hbefore, hf, heq⟩ :=
      remove_unreliable_cases h ids faults
    · refine ⟨_, _, _, heq, iff_of_false (by simp) ?_, fun _ => removed_without h ids, by simp⟩
      rintro ⟨i, hi, f, hf⟩
      exact hnone i hi f hf
    · refine ⟨_, _, _, heq, iff_of_true ⟨_, rfl⟩ ⟨before.length, by simp, f, hf⟩, by simp,
        fun e he => ?_⟩
      exact ⟨before, id, behind, f, rfl, hbefore, hf, rfl, (Except.error.inj he).symm,
        removed_without h before⟩

end Medium

/-- Two messages are removed, once with their ids named in another order, and once with the
second deletion failing. -/
theorem removal_interrupted :
    let s := Medium.memory.after [.createAddress "a@b" none, .insert ⟨"x", 1, "", "", [], 0⟩,
      .insert ⟨"y", 1, "", "", [], 0⟩]
    let faults : List (Option Failure) := [none, some ⟨.other "no line", []⟩]
    (remove ["y", "x", "x"]).eval Medium.memory.backend s =
      (remove ["x", "y"]).eval Medium.memory.backend s ∧
    ∃ e faults' s',
      (remove ["x", "y"]).eval Medium.memory.backend.unreliable (faults, s) =
        (.error e, faults', s') ∧ Removed .memory s s' ["x"] := by
  intro s faults
  obtain ⟨⟨s₁, heq₁, -, hsame, -⟩, hfaults⟩ := removal .memory _ ["x", "y"]
  refine ⟨(hsame ["y", "x", "x"] fun id => by simp [or_comm]).trans heq₁.symm, ?_⟩
  obtain ⟨result, faults', s', heq, hiff, -, herror⟩ := hfaults faults
  obtain ⟨e, rfl⟩ := hiff.mpr ⟨1, by decide, _, rfl⟩
  obtain ⟨before, id, behind, f, hids, -, hf, -, -, hremoved⟩ := herror e rfl
  refine ⟨e, faults', s', heq, ?_⟩
  -- the failure is the second of the two
  rcases before with _ | ⟨x, _ | ⟨y, before⟩⟩
  · exact absurd hf (by simp [faults])
  · obtain rfl := (List.cons.inj hids).1
    exact hremoved
  · exact absurd hf (by simp [faults])

end Mailbox

end Maildrop
