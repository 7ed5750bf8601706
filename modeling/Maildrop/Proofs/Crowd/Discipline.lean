import Maildrop.Proofs.Crowd.Basic

/-!
# Promises among others

What a program gives is hard to say where others use the backend between its calls, unless
they keep to something too. A *discipline* (`Maildrop.Discipline`) says what everybody keeps
to: which calls are allowed, what is true of every state, and how a state may differ from an
earlier one. Given that, a program is looked at alone: it *keeps a promise* under the
discipline (`Maildrop.Program.Keeps`) if it makes only allowed calls, and if whatever states
it finds at its calls, as long as they are as they may be, what it has promised is true of
its value, its own past and the state.

Whether a program keeps a promise is shown piece by piece along its text
(`Maildrop.Program.Keeps.bind`). If all parties of a crowd keep theirs, and the others make
allowed calls, then all promises are true after every run, however the calls have come
(`Maildrop.Crowd.run_keeps`).
-/

namespace Maildrop

variable {Call : Type} {Result : Call → Type} {σ ι α β : Type}

/-- **What everybody keeps to** who uses a backend. -/
structure Discipline (b : Backend Call Result σ) where
  /-- The calls that may be made. -/
  Allowed : Call → Prop
  /-- What is true of every state. -/
  Inv : σ → Prop
  /-- How a state may come after another. -/
  Later : σ → σ → Prop
  refl : ∀ s, Later s s
  trans : ∀ {s t u}, Later s t → Later t u → Later s u
  inv_step : ∀ {c s}, Allowed c → Inv s → Inv (b.step c s).state
  later_step : ∀ {c s}, Allowed c → Inv s → Later s (b.step c s).state

/-- **A promise**: what a program says of its value, if it has one, of the calls that it has
made, and of the state. -/
abbrev Promise (Call : Type) (Result : Call → Type) (σ α : Type) :=
  Option α → List ((c : Call) × Result c) → σ → Prop

namespace Program

variable {b : Backend Call Result σ}

/-- **A program keeps a promise** among others who keep to a discipline, where `h` are the
calls that it has made already. -/
def Keeps (D : Discipline b) (P : Promise Call Result σ α) :
    Program Call Result α → List ((c : Call) × Result c) → σ → Prop
  | .done a, h, s => ∀ t, D.Inv t → D.Later s t → P (some a) h t
  | .log _ next, h, s => next.Keeps D P h s
  | .call c next, h, s => D.Allowed c ∧ ∀ t, D.Inv t → D.Later s t →
    P none h t ∧ (next (b.step c t).result).Keeps D P (h ++ [⟨c, (b.step c t).result⟩])
      (b.step c t).state

namespace Keeps

variable {D : Discipline b} {P : Promise Call Result σ α} {p : Program Call Result α}
  {h : List ((c : Call) × Result c)} {s t : σ}

/-- What others do does not keep a program from keeping its promise. -/
theorem later (hp : p.Keeps D P h s) (hst : D.Later s t) : p.Keeps D P h t := by
  induction p with
  | done a => exact fun u hu htu => hp u hu (D.trans hst htu)
  | log r next ih => exact ih hp
  | call c next ih => exact ⟨hp.1, fun u hu htu => hp.2 u hu (D.trans hst htu)⟩

/-- **A promise that is kept is true**, at every moment. -/
theorem promise (hp : p.Keeps D P h s) (hs : D.Inv s) : P p.value? h s := by
  induction p with
  | done a => exact hp s hs (D.refl s)
  | log r next ih => exact ih hp
  | call c next ih => exact (hp.2 s hs (D.refl s)).1

/-- **One program after the other**: the promise of the first one has to be enough for the
second one to keep its own. -/
theorem bind {Q : Promise Call Result σ β} {f : α → Program Call Result β}
    (hp : p.Keeps D P h s) (hs : D.Inv s) (hnone : ∀ h t, P none h t → Q none h t)
    (hf : ∀ a h t, D.Inv t → P (some a) h t → (f a).Keeps D Q h t) :
    (p >>= f).Keeps D Q h s := by
  induction p generalizing h s with
  | done a => exact hf a h s hs (hp s hs (D.refl s))
  | log r next ih => exact ih hp hs
  | call c next ih =>
    obtain ⟨hc, hnext⟩ := hp
    refine ⟨hc, fun t ht hst => ?_⟩
    obtain ⟨hq, hk⟩ := hnext t ht hst
    exact ⟨hnone h t hq, ih _ hk (D.inv_step hc ht)⟩

/-- A program that has still to make a call keeps its promise in the next state. -/
theorem of_next? (hp : p.Keeps D P h s) (hs : D.Inv s) {c : Call}
    {next : Result c → Program Call Result α} (hnext : p.next? = some ⟨c, next⟩) :
    D.Allowed c ∧ (next (b.step c s).result).Keeps D P (h ++ [⟨c, (b.step c s).result⟩])
      (b.step c s).state := by
  induction p with
  | done a => simp [next?] at hnext
  | log r p ih => exact ih hp hnext
  | call c' next' ih =>
    simp only [next?, Option.some.injEq, Sigma.mk.injEq] at hnext
    obtain ⟨rfl, hnext⟩ := hnext
    rw [← eq_of_heq hnext]
    exact ⟨hp.1, (hp.2 s hs (D.refl s)).2⟩

end Keeps

end Program

/-! ### Crowds that keep to a discipline -/

namespace Crowd

variable [DecidableEq ι] {b : Backend Call Result σ} (D : Discipline b)
  (P : ι → Promise Call Result σ α)

/-- **Everybody keeps to the discipline**, and the parties, whose pasts are `h`, keep their
promises. -/
structure Orderly (h : ι → List ((c : Call) × Result c)) (w : Crowd Call Result σ ι α) :
    Prop where
  inv : D.Inv w.store
  keeps : ∀ i, (w.programs i).Keeps D (P i) (h i) w.store

variable {D P} {h : ι → List ((c : Call) × Result c)} {w : Crowd Call Result σ ι α}

/-- **A move leaves a crowd orderly**, if no forbidden call comes from outside. -/
theorem Orderly.step (hw : Orderly D P h w) {m : Move Call ι}
    (hm : ∀ c, m = .other c → D.Allowed c) :
    Orderly D P (fun i => h i ++ Deed.past b i (step b m w).1) (step b m w).2 ∧
      D.Later w.store (step b m w).2.store ∧
      ∀ x ∈ (step b m w).1, D.Allowed x.call ∧ D.Inv x.before := by
  cases m with
  | other c =>
    have hc := hm c rfl
    have hlater : D.Later w.store (b.step c w.store).state := D.later_step hc hw.inv
    refine ⟨⟨D.inv_step hc hw.inv, fun i => ?_⟩, hlater, ?_⟩
    · simpa [Crowd.step, Deed.past] using (hw.keeps i).later hlater
    · simpa [Crowd.step] using ⟨hc, hw.inv⟩
  | turn j =>
    rcases hnext : (w.programs j).next? with _ | ⟨c, next⟩
    · simpa [Crowd.step, hnext, Deed.past] using ⟨hw, D.refl w.store⟩
    · obtain ⟨hc, hk⟩ := (hw.keeps j).of_next? hw.inv hnext
      have hlater : D.Later w.store (b.step c w.store).state := D.later_step hc hw.inv
      simp only [Crowd.step, hnext]
      refine ⟨⟨D.inv_step hc hw.inv, fun i => ?_⟩, hlater, by simpa using ⟨hc, hw.inv⟩⟩
      -- the party whose turn it is has gone on, and the others find a later state
      rcases eq_or_ne i j with rfl | hij
      · simpa [Deed.past, Deed.entry] using hk
      · simpa [Deed.past, hij, Ne.symm hij] using (hw.keeps i).later hlater

/-- **After every run all promises are true**, whatever the order of the calls: the crowd
stays orderly, and everything that has been done was allowed. -/
theorem run_keeps (hw : Orderly D P h w) {ms : List (Move Call ι)}
    (hms : ∀ c, Move.other c ∈ ms → D.Allowed c) :
    Orderly D P (fun i => h i ++ Deed.past b i (run b ms w).1) (run b ms w).2 ∧
      D.Later w.store (run b ms w).2.store ∧
      ∀ x ∈ (run b ms w).1, D.Allowed x.call ∧ D.Inv x.before := by
  induction ms generalizing h w with
  | nil => simpa [run, Deed.past] using ⟨hw, D.refl w.store⟩
  | cons m ms ih =>
    obtain ⟨hstep, hlater, hdeeds⟩ := hw.step (m := m) fun c hc => hms c (by simp [hc])
    obtain ⟨hrun, hlater', hdeeds'⟩ := ih hstep fun c hc => hms c (List.mem_cons_of_mem _ hc)
    simp only [run, Deed.past_append, ← List.append_assoc]
    refine ⟨hrun, D.trans hlater hlater', fun x hx => ?_⟩
    rcases List.mem_append.mp hx with hx | hx
    · exact hdeeds x hx
    · exact hdeeds' x hx

/-- The promises themselves, in a run from the beginning. -/
theorem promise_run (hw : Orderly D P (fun _ => []) w) {ms : List (Move Call ι)}
    (hms : ∀ c, Move.other c ∈ ms → D.Allowed c) (i : ι) :
    P i ((run b ms w).2.programs i).value? (Deed.past b i (run b ms w).1)
      (run b ms w).2.store := by
  obtain ⟨hrun, -, -⟩ := run_keeps hw hms
  exact (hrun.keeps i).promise hrun.inv

end Crowd

end Maildrop
