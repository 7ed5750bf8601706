import Maildrop.Proofs.Store.Action

/-!
# Programs that act alike

Two stores may answer a call with answers that differ in what does not matter: the
instants at which messages came, and how a failure is put. Such answers *look* alike
(`Maildrop.Store.Call.look`).

A program goes on with an answer, so it might bring a difference that does not matter
into the calls that come next. That it does not is what `Maildrop.Store.Alike` says of two
programs, or of one and itself: as long as their answers look alike, they make the same
calls, and in the end have values that are related. Being alike is shown once for each
program, without regard to stores; from it follows for any two stores whose answers look
alike that the values are related, and the states too
(`Maildrop.Store.Alike.eval`).

The calls are asked to be of a kind `P` on the way. So what is true of two stores only for
calls of that kind is covered, and so is an invariant of one store that only calls of that
kind keep.
-/

namespace Maildrop

/-! ### The look of a result -/

/-- **The look of a result**: its error seen through `f`, its value through `g`. -/
def look {ε ε' α α' : Type} (f : ε → ε') (g : α → α') : Except ε α → Except ε' α'
  | .ok a => .ok (g a)
  | .error e => .error (f e)

/-- Results that look alike are both errors or both values. -/
theorem look_eq_look {ε ε' α α' : Type} {f : ε → ε'} {g : α → α'} {x y : Except ε α}
    (h : look f g x = look f g y) :
    (∃ a b, x = .ok a ∧ y = .ok b ∧ g a = g b) ∨
      (∃ e e', x = .error e ∧ y = .error e' ∧ f e = f e') := by
  rcases x with e | a <;> rcases y with e' | b
  · exact .inr ⟨e, e', rfl, rfl, Except.error.inj h⟩
  · exact absurd h (by simp [look])
  · exact absurd h (by simp [look])
  · exact .inl ⟨a, b, rfl, rfl, Except.ok.inj h⟩

/-- The message without the instant at which it came. -/
def Message.unstamped (m : Message) : Message := { m with receivedAt := 0 }

/-- The listing entry without the instant at which its message came. -/
def Preview.unstamped (p : Preview) : Preview := { p with receivedAt := 0 }

namespace Store

/-- The failure without its cause and what was being done. -/
def Failure.blank (_ : Failure) : Failure := ⟨.other "", []⟩

/-- The answer without the instants at which messages came. -/
def Call.unstamp : (c : Call) → c.Answer → c.Answer
  | .message _ => Option.map Message.unstamped
  | .previews => List.map Preview.unstamped
  | _ => id

/-- **How a call's result looks.** -/
abbrev Call.look (c : Call) : c.Result → c.Result := Maildrop.look Failure.blank c.unstamp

/-! ### Programs -/

variable {P : Call → Prop} {α α' β β' : Type}

/-- **Programs that act alike**, with related values. -/
inductive Alike (P : Call → Prop) (R : α → α' → Prop) : Client α → Client α' → Prop where
  | done {a : α} {a' : α'} (h : R a a') : Alike P R (.done a) (.done a')
  | log (r r' : LogRecord) {p : Client α} {p' : Client α'} (h : Alike P R p p') :
    Alike P R (.log r p) (.log r' p')
  | call (c : Call) {next : c.Result → Client α} {next' : c.Result → Client α'} (hc : P c)
    (h : ∀ x y, c.look x = c.look y → Alike P R (next x) (next' y)) :
    Alike P R (.call c next) (.call c next')

namespace Alike

variable {R : α → α' → Prop} {S : β → β' → Prop} {p : Client α} {p' : Client α'}

theorem pure {a : α} {a' : α'} (h : R a a') : Alike P R (Pure.pure a) (Pure.pure a') := .done h

theorem record (r r' : LogRecord) :
    Alike P (fun _ _ => True) (Program.record r) (Program.record r') := .log r r' (.done trivial)

theorem ask {c : Call} (hc : P c) :
    Alike P (fun x y => c.look x = c.look y) (Program.ask c) (Program.ask c) :=
  .call c hc fun _ _ h => .done h

/-- Programs that act alike go on alike. -/
theorem bind (h : Alike P R p p') {f : α → Client β} {f' : α' → Client β'}
    (hf : ∀ a a', R a a' → Alike P S (f a) (f' a')) : Alike P S (p >>= f) (p' >>= f') := by
  induction h with
  | done h => exact hf _ _ h
  | log r r' _ ih => exact .log r r' ih
  | call c hc _ ih => exact .call c hc ih

/-- **Alike programs on alike stores**: if calls of the kind `P` have results that look
alike and lead from related states to related states, then the values of the programs
and the states after them are related. -/
theorem eval (h : Alike P R p p') {σ τ : Type} {b : Server σ} {b' : Server τ}
    {I : σ → τ → Prop}
    (hI : ∀ c s t, P c → I s t →
      c.look (b.step c s).result = c.look (b'.step c t).result ∧
        I (b.step c s).state (b'.step c t).state)
    {s : σ} {t : τ} (hst : I s t) :
    R (p.eval b s).1 (p'.eval b' t).1 ∧ I (p.eval b s).2 (p'.eval b' t).2 := by
  induction h generalizing s t with
  | done h => exact ⟨h, hst⟩
  | log r r' _ ih => exact ih hst
  | call c hc _ ih =>
    obtain ⟨hlook, hnext⟩ := hI c s t hc hst
    exact ih _ _ hlook hnext

/-- **What the calls keep, the program keeps.** -/
theorem keeps {q : Client α} {R : α → α → Prop} (h : Alike P R q q) {σ : Type} {b : Server σ}
    {I : σ → Prop} (hI : ∀ c s, P c → I s → I (b.step c s).state) {s : σ} (hs : I s) :
    R (q.eval b s).1 (q.eval b s).1 ∧ I (q.eval b s).2 := by
  have hstep : ∀ c s t, P c → s = t ∧ I s →
      c.look (b.step c s).result = c.look (b.step c t).result ∧
        (b.step c s).state = (b.step c t).state ∧ I (b.step c s).state := by
    rintro c s _ hc ⟨rfl, hs⟩
    exact ⟨rfl, rfl, hI c s hc hs⟩
  have heval := h.eval (I := fun s t => s = t ∧ I s) hstep ⟨rfl, hs⟩
  exact ⟨heval.1, heval.2.2⟩

/-- **A program makes calls of its kind only.** -/
theorem forall_mem_trace (h : Alike P R p p') {σ : Type} (b : Server σ) (s : σ) :
    ∀ x ∈ p.trace b s, P x.1 := by
  induction h generalizing s with
  | done _ => simp [Program.trace]
  | log _ _ _ ih => exact ih s
  | call c hc _ ih =>
    intro x hx
    rcases List.mem_cons.mp hx with rfl | hx
    · exact hc
    · exact ih (b.step c s).result (b.step c s).result rfl _ x hx

end Alike

/-! ### Actions -/

namespace Action

variable {ε ε' α' γ γ' : Type} {f : ε → ε'} {g : α → α'}

/-- **Actions that act alike**, with results that look alike. -/
def Alike (P : Call → Prop) (f : ε → ε') (g : α → α') (x y : Action ε α) : Prop :=
  Store.Alike P (fun a b => look f g a = look f g b) x.run y.run

theorem alike_pure {a b : α} (h : g a = g b) :
    Alike P f g (pure a : Action ε α) (pure b) := .done (congrArg Except.ok h)

theorem alike_throw {e e' : ε} (h : f e = f e') :
    Alike P f g (throw e : Action ε α) (throw e') := .done (congrArg Except.error h)

theorem alike_record (r r' : LogRecord) :
    Alike P f id (record r : Action ε Unit) (record r') := .log r r' (.done rfl)

/-- A call is alike to itself if all failures are put alike. -/
theorem alike_ask {c : Call} (hc : P c) {onFailure : Failure → ε}
    (hf : ∀ e e', f (onFailure e) = f (onFailure e')) :
    Alike P f c.unstamp (ask c onFailure) (ask c onFailure) := by
  refine .call c hc fun x y h => .done ?_
  obtain ⟨a, b, rfl, rfl, hab⟩ | ⟨e, e', rfl, rfl, -⟩ := look_eq_look h
  · exact congrArg Except.ok hab
  · exact congrArg Except.error (hf e e')

/-- Actions that act alike go on alike. -/
theorem Alike.bind {x y : Action ε α} (h : Alike P f g x y) {g' : γ → γ'}
    {k k' : α → Action ε γ} (hk : ∀ a b, g a = g b → Alike P f g' (k a) (k' b)) :
    Alike P f g' (x >>= k) (y >>= k') := by
  rw [Alike, ExceptT.run_bind, ExceptT.run_bind]
  refine Store.Alike.bind h fun r s hrs => ?_
  obtain ⟨a, b, rfl, rfl, hab⟩ | ⟨e, e', rfl, rfl, he⟩ := look_eq_look hrs
  · exact hk a b hab
  · exact .done (congrArg Except.error he)

end Action

end Store

end Maildrop
