import Maildrop.Proofs.Submission.Sharing

/-!
# The life of a session

A session hears senders, receives data and is told that all is done, any number of times
and in any order. What it comes to is settled by the first data: before them the session
only keeps the last sender that it has heard, and after them it is what they have made of
it, for ever (`Maildrop.Session.life`).

Nothing is assumed about the store: it may fail at any call, and others may change it between
two calls. What is said about the time before the first data and about the time after them
is therefore read off the programs of the session alone. There is no call in them, and what
they answer to data does not depend on the data.
-/

namespace Maildrop

open Store (Action Call Client Medium Server)

/-! ### How many messages are stored -/

namespace Store.Action

variable {q : Call → Bool} {m n : Nat} {ε α β : Type}

theorem atMost_bind {x : Action ε α} {f : α → Action ε β} (hx : x.run.AtMost q m)
    (hf : ∀ a, (f a).run.AtMost q n) : (x >>= f).run.AtMost q (m + n) := by
  rw [ExceptT.run_bind]
  refine hx.bind ?_
  rintro (e | a)
  · exact .done _
  · exact hf a

/-- An action that begins with a call of another kind makes as many calls as its rest. -/
theorem atMost_ask_bind {c : Call} (hc : q c = false) {onFailure : Failure → ε}
    {f : c.Answer → Action ε α} (hf : ∀ a, (f a).run.AtMost q n) :
    (ask c onFailure >>= f).run.AtMost q n := by
  refine .other hc ?_
  rintro (e | a)
  · exact .done _
  · exact hf a

/-- An action that begins with a call makes at most one call more than its rest. -/
theorem atMost_ask_bind_succ {c : Call} {onFailure : Failure → ε} {f : c.Answer → Action ε α}
    (hf : ∀ a, (f a).run.AtMost q n) : (ask c onFailure >>= f).run.AtMost q (n + 1) := by
  refine .counted ?_
  rintro (e | a)
  · exact .done _
  · exact hf a

end Store.Action

/-- Registering an email stores no message. -/
theorem Registry.atMost_getOrCreate (email : String) (name : Option String) :
    (getOrCreate email name).run.AtMost Call.isInsertion 0 := by
  refine Action.atMost_ask_bind rfl ?_
  rintro (_ | a)
  · refine Action.atMost_ask_bind rfl ?_
    rintro (a | _)
    · exact .log (.done _)
    · refine .log (Action.atMost_ask_bind rfl ?_)
      rintro (_ | a)
      · exact .log (.done _)
      · exact .done _
  · exact .done _

namespace Submission

theorem atMost_gistFor (a : Address) (e : Envelope) :
    (gistFor a e).run.AtMost Call.isInsertion 0 := by
  rw [gistFor]
  rcases e.gist with _ | _
  · exact .log (.done _)
  · exact .done _

theorem atMost_duplicate (id : String) (raw : Bytes) :
    (duplicate id raw).run.AtMost Call.isInsertion 0 := by
  refine Action.atMost_ask_bind rfl ?_
  rintro (_ | stored)
  · exact .done _
  · exact .done _

/-- Depositing a message tries to store it once. -/
theorem atMost_deposit (a : Address) (e : Envelope) (d : Delivery) :
    (deposit a e d).run.AtMost Call.isInsertion 1 := by
  refine Action.atMost_bind (m := 0) (n := 1) (atMost_gistFor a e) fun gist =>
    Action.atMost_ask_bind_succ ?_
  rintro (_ | _)
  · exact .done _
  · exact atMost_duplicate ..

/-- **A submission tries to store one message at most**, whatever the store answers. -/
theorem atMost_accept (sender : String) (d : Delivery) :
    (accept sender d).run.AtMost Call.isInsertion 1 := by
  rcases hreading : reading sender d with e | ⟨claimed, envelope⟩
  · rw [accept_of_reading_error hreading]
    exact .done _
  · rw [accept_of_reading_ok hreading]
    exact .log (Action.atMost_bind (Registry.atMost_getOrCreate ..) fun a =>
      atMost_deposit a envelope d)

end Submission

/-! ### Signals -/

namespace Session

open Submission (Error)

/-- **What may happen to a session.** -/
inductive Signal where
  /-- A sender is heard. -/
  | sender (text : String)
  /-- Data are received. -/
  | data (d : Delivery)
  /-- All is done. -/
  | done

/-- Whether the signal brings data. -/
def Signal.isData : Signal → Bool
  | .data _ => true
  | _ => false

/-- The sender that a signal brings. -/
def Signal.sender? : Signal → Option String
  | .sender text => some text
  | _ => none

/-- What a session does at a signal: what it answers, if data have come, and what it is
afterwards. -/
def signalled (s : Session) : Signal → Client (List (Except Error String) × Session)
  | .sender text => do
    let s ← s.hear text
    pure ([], s)
  | .data d => do
    let r ← s.receive d
    pure ([r.1], r.2)
  | .done => do
    s.finish
    pure ([], s)

/-- **What a session does at signals one after the other**: its answers to data, in order,
and what it is in the end. -/
def live : List Signal → Session → Client (List (Except Error String) × Session)
  | [], s => pure ([], s)
  | e :: es, s => do
    let r ← s.signalled e
    let rest ← live es r.2
    pure (r.1 ++ rest.1, rest.2)

/-- The last sender that has been heard. -/
def lastSender? (es : List Signal) : Option String := (es.filterMap Signal.sender?).getLast?

/-- A session without data, by the last sender that it has heard. -/
def waiting : Option String → Session
  | none => .receivingSender
  | some text => .receivingData text

/-- What the first data lead to, by the last sender before them. -/
def first (sender : Option String) (d : Delivery) : Client (Except Error String) :=
  match sender with
  | none => pure (.error .missingSender)
  | some text => (Submission.accept text d).run

/-! ### Before the data -/

theorem lastSender?_cons (e : Signal) (es : List Signal) :
    lastSender? (e :: es) = (lastSender? es).or e.sender? := by
  rw [lastSender?, List.filterMap_cons]
  rcases e.sender? with _ | text
  · exact (Option.or_none).symm
  · rw [List.getLast?_cons, lastSender?]
    cases (es.filterMap Signal.sender?).getLast? <;> rfl

/-- **Until data come, a session makes no call**, and keeps the last sender. -/
theorem value?_live_waiting {es : List Signal} (hes : ∀ e ∈ es, e.isData = false)
    (sender : Option String) :
    (live es (waiting sender)).value? = some ([], waiting ((lastSender? es).or sender)) := by
  induction es generalizing sender with
  | nil => rfl
  | cons e es ih =>
    have hrest := ih fun x hx => hes x (List.mem_cons_of_mem _ hx)
    have hstep : ((waiting sender).signalled e).value? =
        some ([], waiting (e.sender?.or sender)) := by
      cases e with
      | sender text => cases sender <;> rfl
      | data d => exact absurd (hes (.data d) List.mem_cons_self) (by simp [Signal.isData])
      | done => rfl
    rw [live, Program.value?_bind hstep, Program.value?_bind (hrest _), lastSender?_cons,
      Option.or_assoc]
    rfl

/-! ### After the data -/

/-- **A session that has had its data makes no call**, and stays what it is. -/
theorem value?_live_finished {s : Session} (hs : s.isFinished) (es : List Signal) :
    (live es s).value? =
      some (List.replicate (es.countP Signal.isData) (.error .sessionFinished), s) := by
  induction es with
  | nil => rfl
  | cons e es ih =>
    have hstep : (s.signalled e).value? =
        some (if e.isData then [.error .sessionFinished] else [], s) := by
      cases s with
      | receivingSender => exact absurd hs (by simp [isFinished])
      | receivingData sender => exact absurd hs (by simp [isFinished])
      | resolved id => cases e <;> rfl
      | rejected => cases e <;> rfl
    rw [live, Program.value?_bind hstep, Program.value?_bind ih, List.countP_cons]
    cases e.isData
    · rfl
    · rfl

/-! ### A whole life -/

/-- Signals go on where the signals before them have led. -/
theorem live_append (es es' : List Signal) (s : Session) :
    live (es ++ es') s = (do
      let r ← live es s
      let rest ← live es' r.2
      pure (r.1 ++ rest.1, rest.2)) := by
  induction es generalizing s with
  | nil => exact (bind_pure _).symm
  | cons e es ih =>
    simp only [List.cons_append, live, ih, bind_assoc, pure_bind, List.append_assoc]

variable {σ : Type} (b : Server σ)

/-- **The first data** lead to what the last sender before them leads to, and the session is
over. -/
theorem signalled_data (sender : Option String) (d : Delivery) (t : σ) :
    ((waiting sender).signalled (.data d)).eval b t =
        (([((first sender d).eval b t).1], ofVerdict ((first sender d).eval b t).1),
          ((first sender d).eval b t).2) ∧
      ((waiting sender).signalled (.data d)).trace b t = (first sender d).trace b t := by
  cases sender with
  | none => exact ⟨rfl, rfl⟩
  | some text =>
    constructor
    · simp only [signalled, waiting, Program.eval_bind, eval_receive, Program.eval_pure]
      rfl
    · -- behind the submission there is nothing left but a record
      simp only [signalled, waiting, receive, Program.trace_bind, first]
      rcases (Submission.accept text d).run.eval b t with ⟨_ | _, t'⟩
      · exact (List.append_nil _).trans (List.append_nil _)
      · exact (List.append_nil _).trans (List.append_nil _)

/-- The first data store one message at most. -/
theorem atMost_first (sender : Option String) (d : Delivery) :
    (first sender d).AtMost Call.isInsertion 1 := by
  cases sender with
  | none => exact .done _
  | some text => exact Submission.atMost_accept text d

theorem isFinished_ofVerdict (x : Except Error String) : (ofVerdict x).isFinished := by
  cases x <;> rfl

/-- **The life of a session**, on any store whatever. Until data come, the session makes no
call and is waiting, with the last sender if it has heard one. The first data lead to what
this sender leads to; from then on the session is what the verdict has made of it, all data
that come are answered alike, and no call is made. So there is one message at most that the
session tries to store. -/
theorem life (t : σ) {es : List Signal} (hes : ∀ e ∈ es, e.isData = false) :
    (live es .receivingSender).value? = some ([], waiting (lastSender? es)) ∧
    ∀ d later,
      let p := first (lastSender? es) d
      let q := live (es ++ .data d :: later) .receivingSender
      q.eval b t =
        (((p.eval b t).1 :: List.replicate (later.countP Signal.isData) (.error .sessionFinished),
          ofVerdict (p.eval b t).1), (p.eval b t).2) ∧
      q.trace b t = p.trace b t ∧
      (q.trace b t).countP (fun x => x.1.isInsertion) ≤ 1 := by
  have hbefore := value?_live_waiting hes none
  rw [Option.or_none] at hbefore
  refine ⟨hbefore, fun d later => ?_⟩
  have happend : live (es ++ .data d :: later) .receivingSender = _ :=
    live_append es (.data d :: later) (waiting none)
  obtain ⟨hwait, hsilent⟩ := Program.eval_of_value? hbefore b t
  obtain ⟨hdata, hcalls⟩ := signalled_data b (lastSender? es) d t
  -- what comes after the data finds a session that is over
  obtain ⟨hlater, hsilent'⟩ := Program.eval_of_value? (value?_live_finished
    (isFinished_ofVerdict ((first (lastSender? es) d).eval b t).1) later) b
    ((first (lastSender? es) d).eval b t).2
  have htrace : (live (es ++ .data d :: later) .receivingSender).trace b t =
      (first (lastSender? es) d).trace b t := by
    simp only [happend, live, Program.trace_bind, Program.trace_pure, Program.eval_bind, hwait,
      hsilent, hdata, hcalls, hsilent', List.append_nil, List.nil_append]
  refine ⟨?_, htrace, ?_⟩
  · simp only [happend, live, Program.eval_bind, Program.eval_pure, hwait, hdata, hlater,
      List.nil_append, List.singleton_append]
  · rw [htrace]
    exact (atMost_first _ d).countP_trace b t

/-- The store fails when the message is to be stored, so the session is rejected, and a
second try finds it over. -/
theorem life_full_store :
    let b := Medium.memory.backend.unreliable
    let t := ([none, none, some ⟨.other "full", []⟩], Medium.memory.empty)
    let d : Delivery := ⟨"To: c\n\nd".toUTF8.toList, none, 0⟩
    let es : List Signal := [.sender "e@f", .sender "Ann <A@b>", .done]
    ((live (es ++ .data d :: [.sender "e@f", .data d, .done]) .receivingSender).eval b t).1 =
      ([.error (.storage ⟨.other "full", []⟩), .error .sessionFinished], .rejected) := by
  intro b t d es
  have hes : ∀ e ∈ es, e.isData = false := by decide
  rw [((life b t hes).2 d _).1]
  decide +kernel

end Session

end Maildrop
