import Maildrop.Proofs.Program
import Mathlib.Algebra.BigOperators.Ring.Finset
import Mathlib.Logic.Function.Basic

/-!
# Programs side by side

Any number of parties run a program each on one backend, and others use the backend as
well. Each call is one step, and the steps come in any order: a *move*
(`Maildrop.Move`) says whose turn it is. At its turn a party makes its next call, if there
is one left to make, and goes on to the call after that. What the parties still have to do
and the state of the backend are a *crowd* (`Maildrop.Crowd`); what has been done is a list
of *deeds* (`Maildrop.Deed`), oldest first, each with the state in which it was done.

A list of moves determines a run (`Maildrop.Crowd.run`). So a statement about all lists of
moves is one about all orders in which the calls can come.

The deeds of a run are counted in two ways. By what they do to a property of the state:
it comes about as often as it goes, except for once if it holds in the end
(`Maildrop.Crowd.count_enters`). And by who has done them: what the parties have done one
by one makes up what they have done together (`Maildrop.Deed.sum_count_party`).
-/

namespace Maildrop

variable {Call : Type} {Result : Call → Type} {σ ι α β : Type}

/-! ### Between two calls -/

namespace Program

/-- The value of a program that has made all its calls. -/
def value? : Program Call Result α → Option α
  | .done a => some a
  | .log _ next => next.value?
  | .call _ _ => none

/-- A program that has made all its calls gives its value on every backend. -/
theorem eval_of_value? {p : Program Call Result α} {a : α} (h : p.value? = some a)
    (b : Backend Call Result σ) (s : σ) : p.eval b s = (a, s) ∧ p.trace b s = [] := by
  induction p with
  | done a' => exact ⟨congrArg (·, s) (Option.some.inj h), rfl⟩
  | log r next ih => exact ih h
  | call c next => exact absurd h (by simp [value?])

theorem value?_bind {p : Program Call Result α} {a : α} (h : p.value? = some a)
    (f : α → Program Call Result β) : (p >>= f).value? = (f a).value? := by
  induction p with
  | done a' => rw [← Option.some.inj h]; rfl
  | log r next ih => exact ih h
  | call c next => exact absurd h (by simp [value?])

/-- **The next call of a program**, with what it goes on to do. -/
def next? : Program Call Result α → Option ((c : Call) × (Result c → Program Call Result α))
  | .done _ => none
  | .log _ next => next.next?
  | .call c next => some ⟨c, next⟩

/-- A program has a value or a call to make. -/
theorem value?_eq_none_iff (p : Program Call Result α) :
    p.value? = none ↔ p.next?.isSome := by
  induction p with
  | done a => simp [value?, next?]
  | log r next ih => exact ih
  | call c next ih => simp [value?, next?]

end Program

/-! ### Moves and deeds -/

/-- **A move**: who makes the next call. -/
inductive Move (Call ι : Type) where
  /-- A party makes its next call, if it has one left to make. -/
  | turn (i : ι)
  /-- Someone who is not one of the parties makes a call. -/
  | other (c : Call)

/-- Whether it is the turn of a party. -/
def Move.isTurnOf [DecidableEq ι] (i : ι) : Move Call ι → Bool
  | .turn j => j = i
  | .other _ => false

/-- **A call that has been made.** -/
structure Deed (Call σ ι : Type) where
  /-- The party that has made it, if it was one. -/
  party : Option ι
  call : Call
  /-- The state in which it was made. -/
  before : σ

namespace Deed

variable (b : Backend Call Result σ)

/-- The state after a call. -/
def after (x : Deed Call σ ι) : σ := (b.step x.call x.before).state

/-- A call with its result. -/
def entry (x : Deed Call σ ι) : (c : Call) × Result c := ⟨x.call, (b.step x.call x.before).result⟩

/-- Whether a property comes about with a call. -/
def enters (q : σ → Bool) (x : Deed Call σ ι) : Bool := !q x.before && q (x.after b)

/-- Whether a property goes with a call. -/
def leaves (q : σ → Bool) (x : Deed Call σ ι) : Bool := q x.before && !q (x.after b)

/-- **The past of a party**: the calls that it has made, each with its result. -/
def past [DecidableEq ι] (i : ι) (xs : List (Deed Call σ ι)) : List ((c : Call) × Result c) :=
  (xs.filter fun x => x.party = some i).map (entry b)

theorem past_append [DecidableEq ι] (i : ι) (xs ys : List (Deed Call σ ι)) :
    past b i (xs ++ ys) = past b i xs ++ past b i ys := by
  rw [past, List.filter_append, List.map_append, past, past]

theorem entry_mem_past [DecidableEq ι] {i : ι} {xs : List (Deed Call σ ι)} {x : Deed Call σ ι}
    (hx : x ∈ xs) (hi : x.party = some i) : x.entry b ∈ past b i xs :=
  List.mem_map_of_mem (List.mem_filter.mpr ⟨hx, decide_eq_true hi⟩)

/-- What the parties have done one by one makes up what they have done together. -/
theorem sum_count_party [DecidableEq ι] [Fintype ι] (p : Deed Call σ ι → Bool)
    {xs : List (Deed Call σ ι)} (h : ∀ x ∈ xs, p x → x.party.isSome) :
    ∑ i, (xs.filter fun x => x.party = some i).countP p = xs.countP p := by
  induction xs with
  | nil => simp
  | cons x xs ih =>
    have hrest := ih fun y hy => h y (List.mem_cons_of_mem _ hy)
    rcases hx : x.party with _ | j
    · -- a deed of nobody counts on neither side
      have hp : ¬p x := fun hp => by simpa [hx] using h x List.mem_cons_self hp
      simp only [List.filter_cons, hx, reduceCtorEq, decide_false, Bool.false_eq_true, if_false,
        hrest, List.countP_cons_of_neg hp]
    · -- a deed of a party counts for that party only
      have hone : ∀ i, ((x :: xs).filter fun y => y.party = some i).countP p =
          (xs.filter fun y => y.party = some i).countP p +
            if i = j then (if p x then 1 else 0) else 0 := by
        intro i
        rcases eq_or_ne i j with rfl | hij
        · simp only [List.filter_cons, hx, decide_true, if_true, List.countP_cons]
        · simp only [List.filter_cons, hx, Option.some.injEq, Ne.symm hij, decide_false,
            Bool.false_eq_true, if_false, hij, Nat.add_zero]
      simp only [hone, Finset.sum_add_distrib, hrest, Finset.sum_ite_eq', Finset.mem_univ,
        if_true, List.countP_cons]

end Deed

/-! ### Crowds -/

/-- **A crowd**: the state of a backend, and what each party still has to do. -/
structure Crowd (Call : Type) (Result : Call → Type) (σ ι α : Type) where
  store : σ
  programs : ι → Program Call Result α

namespace Crowd

variable [DecidableEq ι] (b : Backend Call Result σ)

/-- What a move does, and the call that it makes if it makes one. -/
def step : Move Call ι → Crowd Call Result σ ι α → List (Deed Call σ ι) × Crowd Call Result σ ι α
  | .turn i, w =>
    match (w.programs i).next? with
    | some ⟨c, next⟩ =>
      ([⟨some i, c, w.store⟩],
        ⟨(b.step c w.store).state,
          Function.update w.programs i (next (b.step c w.store).result)⟩)
    | none => ([], w)
  | .other c, w => ([⟨none, c, w.store⟩], ⟨(b.step c w.store).state, w.programs⟩)

/-- **A run**: what has been done after some moves, and the crowd then. -/
def run : List (Move Call ι) → Crowd Call Result σ ι α →
    List (Deed Call σ ι) × Crowd Call Result σ ι α
  | [], w => ([], w)
  | m :: ms, w =>
    let r := step b m w
    let rest := run ms r.2
    (r.1 ++ rest.1, rest.2)

variable {b} {w : Crowd Call Result σ ι α}

/-- Moves go on where the moves before them have led. -/
theorem run_append (ms ns : List (Move Call ι)) :
    run b (ms ++ ns) w =
      ((run b ms w).1 ++ (run b ns (run b ms w).2).1, (run b ns (run b ms w).2).2) := by
  induction ms generalizing w with
  | nil => rfl
  | cons m ms ih => simp only [List.cons_append, run, ih, List.append_assoc]

/-! ### The course of a run -/

/-- A party that has a value keeps it. -/
theorem programs_step_of_value? {i : ι} (h : (w.programs i).value?.isSome) (m : Move Call ι) :
    (step b m w).2.programs i = w.programs i := by
  cases m with
  | other c => rfl
  | turn j =>
    rcases hnext : (w.programs j).next? with _ | ⟨c, next⟩
    · simp only [step, hnext]
    · have hij : i ≠ j := by
        rintro rfl
        have := (Program.value?_eq_none_iff (w.programs i)).mpr (by rw [hnext]; rfl)
        simp [this] at h
      simp only [step, hnext, Function.update_of_ne hij]

theorem programs_run_of_value? {i : ι} (h : (w.programs i).value?.isSome)
    (ms : List (Move Call ι)) : (run b ms w).2.programs i = w.programs i := by
  induction ms generalizing w with
  | nil => rfl
  | cons m ms ih =>
    have hstep := programs_step_of_value? (b := b) h m
    exact (ih (w := (step b m w).2) (by rwa [hstep])).trans hstep

/-- **A party that has no value yet has made a call at each of its turns.** -/
theorem length_past {i : ι} {ms : List (Move Call ι)}
    (h : ((run b ms w).2.programs i).value? = none) :
    (Deed.past b i (run b ms w).1).length = ms.countP (Move.isTurnOf i) := by
  induction ms generalizing w with
  | nil => rfl
  | cons m ms ih =>
    have hrest := ih (w := (step b m w).2) h
    rw [run, Deed.past_append, List.length_append, List.countP_cons]
    change _ + (Deed.past b i (run b ms (step b m w).2).1).length = _
    rw [hrest, Nat.add_comm]
    congr 1
    cases m with
    | other c => simp [step, Deed.past, Move.isTurnOf]
    | turn j =>
      rcases hnext : (w.programs j).next? with _ | ⟨c, next⟩
      · -- this party has its value, so it is another one
        have hij : j ≠ i := by
          rintro rfl
          have hsome : (w.programs j).value?.isSome := by
            rw [← Option.ne_none_iff_isSome, ne_eq, Program.value?_eq_none_iff, hnext]
            simp
          rw [programs_run_of_value? hsome (Move.turn j :: ms)] at h
          simp [h] at hsome
        simp [step, hnext, Deed.past, Move.isTurnOf, hij]
      · rcases eq_or_ne j i with rfl | hij
        · simp [step, hnext, Deed.past, Move.isTurnOf]
        · simp [step, hnext, Deed.past, Move.isTurnOf, hij]

/-- A call that no party has made has come from outside. -/
theorem other_mem_of_party {ms : List (Move Call ι)} {x : Deed Call σ ι}
    (hx : x ∈ (run b ms w).1) (hnone : x.party = none) : Move.other x.call ∈ ms := by
  induction ms generalizing w with
  | nil => exact absurd hx (by simp [run])
  | cons m ms ih =>
    rcases List.mem_append.mp hx with hx | hx
    · cases m with
      | other c =>
        obtain rfl := List.mem_singleton.mp hx
        exact List.mem_cons_self
      | turn i =>
        rcases hnext : (w.programs i).next? with _ | ⟨c, next⟩
        · simp [step, hnext] at hx
        · simp only [step, hnext, List.mem_singleton] at hx
          simp [hx] at hnone
    · exact List.mem_cons_of_mem _ (ih hx)

/-- **A property comes about as often as it goes**, but for once if it holds in the end, and
for once if it has held from the beginning. -/
theorem count_enters (q : σ → Bool) (ms : List (Move Call ι)) :
    (run b ms w).1.countP (Deed.enters b q) + (q w.store).toNat =
      (run b ms w).1.countP (Deed.leaves b q) + (q (run b ms w).2.store).toNat := by
  induction ms generalizing w with
  | nil => rfl
  | cons m ms ih =>
    have hrest := ih (w := (step b m w).2)
    have hone : ∀ x : Deed Call σ ι, x.before = w.store →
        [x].countP (Deed.enters b q) + (q w.store).toNat =
          [x].countP (Deed.leaves b q) + (q (x.after b)).toNat := by
      intro x hx
      rcases hb : q w.store <;> rcases ha : q (x.after b) <;>
        simp [Deed.enters, Deed.leaves, hx, hb, ha]
    have hstep : (step b m w).1.countP (Deed.enters b q) + (q w.store).toNat =
        (step b m w).1.countP (Deed.leaves b q) + (q (step b m w).2.store).toNat := by
      cases m with
      | other c => exact hone ⟨none, c, w.store⟩ rfl
      | turn i =>
        rcases hnext : (w.programs i).next? with _ | ⟨c, next⟩
        · simp [step, hnext]
        · simp only [step, hnext]
          exact hone ⟨some i, c, w.store⟩ rfl
    simp only [run, List.countP_append]
    omega

end Crowd

end Maildrop
