import Maildrop.CommandLine.Run
import Maildrop.Proofs.Service.Stamping
import Maildrop.Proofs.Store.Tables

/-!
# What tasks do to tables

A task on a store is a program, and this module says what it does to tables, whatever they hold
(`Maildrop.CommandLine.Task.onTables`). Ingestion does what the submission does, and deletion
takes the rows of the listed ids out if all of them are ids, and none if one of them is not
(`Maildrop.CommandLine.Task.onTables_delete`). All other tasks leave the tables alone
(`Maildrop.CommandLine.Task.onTables_of_reads`).
-/

namespace Maildrop.CommandLine

open Store (Failure Tables)

variable {α : Type} (style : TimeStyle) (dl : Delivery) (t : Tables)

/-- **What a task does to tables**: what it prints or why it fails, and the tables afterwards. -/
def Task.onTables (task : Task) : Except Error Bytes × Tables :=
  (task.answer style dl).eval Tables.server t

/-! ### The parts of tasks -/

/-- What is handed out of the message that a text names, by what has been found of it. -/
def handedOut (text : String) (r : Except Failure (Option α)) : Except Error α :=
  if MessageId.isValid text then
    match r with
    | .ok (some a) => .ok a
    | .ok none => .error (.unknownMessage text)
    | .error f => .error (.store f)
  else .error (.malformedId text)

/-- What is handed out fails without a distinction. -/
theorem exitCode_of_handedOut {text : String} {r : Except Failure (Option α)} {e : Error}
    (h : handedOut text r = .error e) : e.exitCode = 1 := by
  unfold handedOut at h
  split at h
  · split at h
    · exact absurd h (by simp)
    · rw [← Except.error.inj h]
      rfl
    · rw [← Except.error.inj h]
      rfl
  · rw [← Except.error.inj h]
    rfl

theorem handedOut_some {text : String} (hid : MessageId.isValid text) (a : α) :
    handedOut text (.ok (some a)) = .ok a := if_pos hid

/-- Nothing is handed out if the text is no id, or there is no message. -/
theorem exists_handedOut_error {text : String} {r : Except Failure (Option α)}
    (h : ¬MessageId.isValid text ∨ r = .ok none) : ∃ e, handedOut text r = .error e := by
  unfold handedOut
  rcases h with hbad | rfl
  · exact ⟨_, if_neg hbad⟩
  · split
    · exact ⟨_, rfl⟩
    · exact ⟨_, rfl⟩

theorem eval_messageId (text : String) :
    (messageId text).eval Tables.server t =
      (if MessageId.isValid text then .ok text else .error (.malformedId text), t) := by
  rw [messageId]
  split <;> rfl

/-- A look-up for the message that a text names hands out what it finds. -/
theorem eval_handedOut (text : String) {part : String → Store.Action Failure (Option α)}
    {r : Except Failure (Option α)} (h : (part text).eval Tables.server t = (r, t)) :
    (messageId text >>= fun id => lookup (part id) >>= found id).eval Tables.server t =
      (handedOut text r, t) := by
  have hmessage := eval_messageId t text
  unfold handedOut
  by_cases hid : MessageId.isValid text
  · rw [if_pos hid] at hmessage ⊢
    rw [Store.Action.eval_bind_ok hmessage, Store.Action.eval_bind, lookup,
      Store.Action.eval_adapt, h]
    rcases r with f | _ | a <;> rfl
  · rw [if_neg hid] at hmessage ⊢
    exact Store.Action.eval_bind_error hmessage _

/-- Ids are checked up to the first that is none. -/
theorem eval_messageIds (texts : List String) :
    (messageIds texts).eval Tables.server t =
      (match texts.find? fun text => !MessageId.isValid text with
      | some text => .error (.malformedId text)
      | none => .ok texts, t) := by
  induction texts with
  | nil => rfl
  | cons text texts ih =>
    have hmessage := eval_messageId t text
    rw [messageIds]
    by_cases hid : MessageId.isValid text
    · rw [if_pos hid] at hmessage
      rw [Store.Action.eval_bind_ok hmessage, Store.Action.eval_bind, ih,
        List.find?_cons_of_neg (by simp [hid])]
      rcases texts.find? fun text => !MessageId.isValid text with _ | text <;> rfl
    · rw [if_neg hid] at hmessage
      rw [Store.Action.eval_bind_error hmessage, List.find?_cons_of_pos (by simp [hid])]

namespace Task

/-! ### Ingestion and deletion -/

/-- **Ingestion** submits the delivery, and prints the id of its message. -/
theorem onTables_ingest (sender : String) (file : Option String) :
    (ingest sender file).onTables style dl t =
      (((((Submission.accept sender dl).eval Tables.server t).1.mapError Error.submission).map
        fun id => octets (line id)), ((Submission.accept sender dl).eval Tables.server t).2) := by
  have hsubmit : Store.Action.eval Tables.server (ExceptT.mk (Submission.submit sender dl)) t =
      (Submission.accept sender dl).eval Tables.server t := Submission.eval_submit ..
  rw [onTables, answer, depositDelivery, Store.Action.eval_bind, Store.Action.eval_adapt, hsubmit]
  rcases (Submission.accept sender dl).eval Tables.server t with ⟨e | id, t'⟩ <;> rfl

/-- **Deletion** takes out the rows of the listed ids, if all of them are ids. -/
theorem onTables_delete (texts : List String) :
    (delete texts).onTables style dl t =
      match texts.find? fun text => !MessageId.isValid text with
      | some text => (.error (.malformedId text), t)
      | none => (.ok [], { t with messages := t.messages.filter fun r => r.id ∉ texts }) := by
  have hids := eval_messageIds t texts
  rw [onTables, answer]
  rcases htexts : texts.find? fun text => !MessageId.isValid text with _ | text <;>
    rw [htexts] at hids
  · have hremove : (lookup (Mailbox.remove texts)).eval Tables.server t =
        (.ok (), t.without texts) := by
      rw [lookup, Store.Action.eval_adapt, Tables.eval_remove]
      rfl
    rw [Store.Action.eval_bind_ok hids, Store.Action.eval_bind_ok hremove]
    rfl
  · exact Store.Action.eval_bind_error hids _

/-! ### Reading -/

/-- **The task only reads.** -/
def Reads : Task → Prop
  | ingest _ _ | delete _ => False
  | _ => True

theorem onTables_list (json : Bool) :
    (list json).onTables style dl t =
      (.ok (octets (if json then
          (Json.Value.array ((t.previews.map Mailbox.Summary.ofPreview).map (·.toJson style))).lines
        else Mailbox.listing style (t.previews.map Mailbox.Summary.ofPreview))), t) := rfl

theorem onTables_count :
    count.onTables style dl t = (.ok (octets (line (toString t.messages.length))), t) := rfl

theorem onTables_inspect (text : String) (json : Bool) :
    (inspect text json).onTables style dl t =
      ((handedOut text (t.detail text)).map fun detail =>
        octets (if json then (detail.toJson style).lines else detail.text style), t) := by
  have hfound := eval_handedOut t text (t.eval_detail text)
  change (messageId text >>= fun id => lookup (Mailbox.detail id) >>= fun r =>
    found id r >>= fun detail =>
      pure (octets (if json then (detail.toJson style).lines else detail.text style))).eval _ t = _
  simp only [← bind_assoc] at hfound ⊢
  rw [Store.Action.eval_bind, hfound]
  rcases handedOut text (t.detail text) with e | detail <;> rfl

theorem onTables_raw (text : String) :
    (raw text).onTables style dl t = (handedOut text (t.raw text), t) :=
  eval_handedOut t text (t.eval_content text)

theorem onTables_headers (text : String) :
    (headers text).onTables style dl t =
      (handedOut text ((t.raw text).map (Option.map fun s => (Mailbox.split s).1)), t) :=
  eval_handedOut t text (t.eval_headers text)

theorem onTables_body (text : String) :
    (body text).onTables style dl t =
      (handedOut text ((t.raw text).map (Option.map fun s => (Mailbox.split s).2)), t) :=
  eval_handedOut t text (t.eval_body text)

/-- **A task that only reads leaves the tables alone.** If it fails, its exit code says so without
a distinction. -/
theorem onTables_of_reads {task : Task} (h : task.Reads) :
    (task.onTables style dl t).2 = t ∧
      ∀ e, (task.onTables style dl t).1 = .error e → e.exitCode = 1 := by
  cases task with
  | ingest sender file => exact h.elim
  | delete texts => exact h.elim
  | list json =>
    rw [onTables_list]
    exact ⟨rfl, fun e he => absurd he (by simp)⟩
  | count =>
    rw [onTables_count]
    exact ⟨rfl, fun e he => absurd he (by simp)⟩
  | inspect text json =>
    rw [onTables_inspect]
    refine ⟨rfl, fun e he => ?_⟩
    rcases hfound : handedOut text (t.detail text) with e' | detail <;> rw [hfound] at he
    · obtain rfl := Except.error.inj he
      exact exitCode_of_handedOut hfound
    · exact absurd he (by simp [Except.map])
  | raw text =>
    rw [onTables_raw]
    exact ⟨rfl, fun e he => exitCode_of_handedOut he⟩
  | headers text =>
    rw [onTables_headers]
    exact ⟨rfl, fun e he => exitCode_of_handedOut he⟩
  | body text =>
    rw [onTables_body]
    exact ⟨rfl, fun e he => exitCode_of_handedOut he⟩

/-- The message that a task is about, if it is about one. -/
def named? : Task → Option String
  | inspect text _ | raw text | headers text | body text => some text
  | _ => none

theorem reads_of_named {task : Task} {text : String} (h : task.named? = some text) :
    task.Reads := by
  cases task with
  | ingest sender file => exact absurd h (by simp [named?])
  | delete texts => exact absurd h (by simp [named?])
  | _ => exact trivial

/-- **A task about a message that there is not** fails. -/
theorem onTables_of_unknown {task : Task} {text : String} (hnamed : task.named? = some text)
    (h : ¬MessageId.isValid text ∨ t.row? text = none) :
    ∃ e, task.onTables style dl t = (.error e, t) ∧ e.exitCode = 1 := by
  have hraw : ¬MessageId.isValid text ∨ t.raw text = .ok none := by
    refine h.imp_right fun hnone => ?_
    rw [Tables.raw, hnone]
  have hhalf (half : Bytes → Bytes) :
      ¬MessageId.isValid text ∨ (t.raw text).map (Option.map half) = .ok none := by
    refine hraw.imp_right fun hnone => ?_
    rw [hnone]
    rfl
  have hfound {r : Except Failure (Option Bytes)} (hr : ¬MessageId.isValid text ∨ r = .ok none) :
      ∃ e, (handedOut text r, t) = (.error e, t) ∧ e.exitCode = 1 := by
    obtain ⟨e, he⟩ := exists_handedOut_error hr
    exact ⟨e, by rw [he], exitCode_of_handedOut he⟩
  cases task with
  | inspect text' json =>
    obtain rfl := Option.some.inj hnamed
    have hdetail : ¬MessageId.isValid text' ∨ t.detail text' = .ok none := by
      refine h.imp_right fun hnone => ?_
      rw [Tables.detail, Tables.message, hnone]
      rfl
    obtain ⟨e, he⟩ := exists_handedOut_error hdetail
    refine ⟨e, ?_, exitCode_of_handedOut he⟩
    rw [onTables_inspect, he]
    rfl
  | raw text' =>
    obtain rfl := Option.some.inj hnamed
    rw [onTables_raw]
    exact hfound hraw
  | headers text' =>
    obtain rfl := Option.some.inj hnamed
    rw [onTables_headers]
    exact hfound (hhalf _)
  | body text' =>
    obtain rfl := Option.some.inj hnamed
    rw [onTables_body]
    exact hfound (hhalf _)
  | _ => exact absurd hnamed (by simp [named?])

end Task

end Maildrop.CommandLine
