import Maildrop.Proofs.CommandLine.Storage

/-!
# What a turn changes, and its exit code

A turn finds databases that turns have made and used, and if there is nothing unusual about it, it
either changes rows or says by its exit code why it has not
(`Maildrop.CommandLine.Turn.effect_playAll`):

* rows change where a delivery that can be read is ingested, where ids are deleted, and where
  settings are saved in place of a database, and nowhere else;
* a deletion takes out the listed messages, or none if something in the list is no id;
* an ingestion says whose fault it is if it fails, and whatever else fails leaves the messages.

Rows are lost without a deletion where settings are saved in their place, and where their database
stands beside another one that is opened (`Maildrop.CommandLine.Turn.rows_lost`).
-/

namespace Maildrop.CommandLine

open Host (Action Disk Place)
open Store (Database MessageRow Tables)

namespace Turn

/-! ### What turns can do -/

/-- **The turn submits a delivery**, with an outcome. -/
def Submits (t : Turn) (i : Invocation) (d : Disk) (r : Except Submission.Error String) : Prop :=
  ∃ sender file p db d' dl, i.command = .onStore (.ingest sender file) ∧ t.Opens i d p db d' ∧
    (Task.ingest sender file).deliveryOnDisk t.input t.clock d' = .ok dl ∧
    ((Submission.submit sender dl).eval Database.backend db).1 = r

/-- **The turn ingests a delivery that can be read**, so that it reaches the storage at a place. -/
def ReachesStorage (t : Turn) (i : Invocation) (d : Disk) (q : Place) : Prop :=
  ∃ sender file db d' dl x, i.command = .onStore (.ingest sender file) ∧
    t.Opens i d (some q) db d' ∧
    (Task.ingest sender file).deliveryOnDisk t.input t.clock d' = .ok dl ∧
    Submission.reading sender dl = .ok x

/-- **The turn deletes ids**, all of them well-formed, at a place. -/
def DeletesAt (t : Turn) (i : Invocation) (d : Disk) (q : Place) : Prop :=
  ∃ ids db d', i.command = .onStore (.delete ids) ∧ (∀ id ∈ ids, MessageId.isValid id) ∧
    t.Opens i d (some q) db d'

/-- **The effect of a turn** on the rows of all places, and its exit code. -/
structure Effect (t : Turn) (i : Invocation) (d : Disk) : Prop where
  /-- Rows change where an ingestion reaches storage, ids are deleted or settings are saved. -/
  rows : ∀ q, Tables.onDisk (t.play d).2 q ≠ Tables.onDisk d q →
    t.ReachesStorage i d q ∨ t.DeletesAt i d q ∨ t.SavesAt i d q
  /-- With something in the list that is no id, nothing is deleted. -/
  malformed : ∀ texts, i.command = .onStore (.delete texts) →
    (∃ text ∈ texts, ¬MessageId.isValid text) →
      (t.play d).1.code = 1 ∧ ∀ q, Tables.onDisk (t.play d).2 q = Tables.onDisk d q
  /-- Otherwise exactly the listed messages are, in the database that is opened. -/
  deletion : ∀ ids p db d', i.command = .onStore (.delete ids) →
    (∀ id ∈ ids, MessageId.isValid id) → t.Opens i d p db d' →
      (t.play d).1.code = 0 ∧ ∀ q, Tables.onDisk (t.play d).2 q =
        if some q = p then
          { Tables.onDisk d q with
            messages := (Tables.onDisk d q).messages.filter fun r => r.id ∉ ids }
        else Tables.onDisk d q
  client : (t.play d).1.code = 2 ↔ ∃ e, t.Submits i d (.error e) ∧ e.fault = .client
  /-- What the submitter is to blame for has changed no row. -/
  rejected : (t.play d).1.code = 2 → ∀ q, Tables.onDisk (t.play d).2 q = Tables.onDisk d q
  fatal : (t.play d).1.code = 3 ↔ ∃ e, t.Submits i d (.error e) ∧ e.fault = .fatal
  stored : ∀ sender file, i.command = .onStore (.ingest sender file) →
    ((t.play d).1.code = 0 ↔ ∃ id, t.Submits i d (.ok id))
  /-- A message that has been stored in a file has a row there. -/
  added : ∀ sender file q db d', i.command = .onStore (.ingest sender file) →
    t.Opens i d (some q) db d' →
      ((t.play d).1.code = 0 ↔ ∃ dl r,
        (Task.ingest sender file).deliveryOnDisk t.input t.clock d' = .ok dl ∧
        (Tables.onDisk (t.play d).2 q).messages = (Tables.onDisk d q).messages ++ [r] ∧
        r.id = MessageId.ofContent dl.octets ∧ r.payload = .packed dl.octets)
  /-- Every failure has one of three codes, and leaves the messages of all places. -/
  failure : (t.play d).1.code ≠ 0 →
    ((t.play d).1.code = 1 ∨ (t.play d).1.code = 2 ∨ (t.play d).1.code = 3) ∧
      ∀ q, (Tables.onDisk (t.play d).2 q).messages = (Tables.onDisk d q).messages

/-- **Failures that are told apart only in the log**: their exit code is one. -/
structure Indistinct (t : Turn) (i : Invocation) (d : Disk) : Prop where
  /-- The settings cannot be had. -/
  settings : ∀ e, i.settingsOnDisk t.environment (prepared t.environment d) = .error e →
    (t.play d).1.code = 1
  /-- They cannot be saved. -/
  saving : ∀ s e, i.command = .settings true →
    i.settingsOnDisk t.environment (prepared t.environment d) = .ok s →
    ((Settings.save t.environment.settingsRoot s).eval (Disk.host t.input t.clock)
      (prepared t.environment d)).1 = .error e → (t.play d).1.code = 1
  /-- The database cannot be opened. -/
  database : ∀ task, i.command = .onStore task → (∀ p db d', ¬t.Opens i d p db d') →
    (t.play d).1.code = 1
  /-- The file with a message cannot be opened. -/
  file : ∀ sender file p db d' e, i.command = .onStore (.ingest sender file) →
    t.Opens i d p db d' →
    (Task.ingest sender file).deliveryOnDisk t.input t.clock d' = .error e →
    (t.play d).1.code = 1
  /-- A text is no id, or no message has it. -/
  unknown : ∀ task text p n tb d', i.command = .onStore task → task.named? = some text →
    t.Opens i d p ⟨n, some tb⟩ d' → ¬MessageId.isValid text ∨ tb.row? text = none →
    (t.play d).1.code = 1
  /-- A submission fails by a fault of the server. -/
  server : ∀ e, t.Submits i d (.error e) → e.fault = .server → (t.play d).1.code = 1

variable {t : Turn} {i : Invocation} {d d' : Disk} {p : Option Place} {q : Place} {task : Task}

/-- A turn submits once at most. -/
theorem Submits.unique {r r' : Except Submission.Error String} (h : t.Submits i d r)
    (h' : t.Submits i d r') : r = r' := by
  obtain ⟨sender, file, p, db, e, dl, hi, ho, hdl, rfl⟩ := h
  obtain ⟨sender', file', p', db', e', dl', hi', ho', hdl', rfl⟩ := h'
  obtain ⟨rfl, rfl⟩ := Task.ingest.inj (Command.onStore.inj (hi.symm.trans hi'))
  obtain ⟨rfl, rfl, rfl⟩ := ho.unique ho'
  obtain rfl := Except.ok.inj (hdl.symm.trans hdl')
  rfl

/-- The effect of a turn that submits nothing. -/
theorem effect_of_not_submits (hcode : (t.play d).1.code = 0 ∨ (t.play d).1.code = 1)
    (hingest : ∀ sender file, i.command = .onStore (.ingest sender file) →
      (t.play d).1.code = 1 ∧ ∀ p db d' dl, t.Opens i d p db d' →
        (Task.ingest sender file).deliveryOnDisk t.input t.clock d' ≠ .ok dl)
    (hrows : ∀ q, Tables.onDisk (t.play d).2 q ≠ Tables.onDisk d q →
      t.DeletesAt i d q ∨ t.SavesAt i d q)
    (hfailure : (t.play d).1.code = 1 → ∀ q, Tables.onDisk (t.play d).2 q = Tables.onDisk d q)
    (hmalformed : ∀ texts, i.command = .onStore (.delete texts) →
      (∃ text ∈ texts, ¬MessageId.isValid text) → (t.play d).1.code = 1)
    (hdeletion : ∀ ids p db d', i.command = .onStore (.delete ids) →
      (∀ id ∈ ids, MessageId.isValid id) → t.Opens i d p db d' →
        (t.play d).1.code = 0 ∧ ∀ q, Tables.onDisk (t.play d).2 q =
          if some q = p then
            { Tables.onDisk d q with
              messages := (Tables.onDisk d q).messages.filter fun r => r.id ∉ ids }
          else Tables.onDisk d q) : Effect t i d := by
  have hsubmits : ∀ r, ¬t.Submits i d r := by
    rintro r ⟨sender, file, p, db, d', dl, hi, ho, hdl, -⟩
    exact (hingest sender file hi).2 p db d' dl ho hdl
  have htwo : (t.play d).1.code ≠ 2 := by rcases hcode with h | h <;> rw [h] <;> decide
  have hthree : (t.play d).1.code ≠ 3 := by rcases hcode with h | h <;> rw [h] <;> decide
  exact
    { rows := fun q hq => .inr (hrows q hq)
      malformed := fun texts hi hbad =>
        ⟨hmalformed texts hi hbad, hfailure (hmalformed texts hi hbad)⟩
      deletion := hdeletion
      client := ⟨fun h => absurd h htwo, fun ⟨_, he, _⟩ => absurd he (hsubmits _)⟩
      rejected := fun h => absurd h htwo
      fatal := ⟨fun h => absurd h hthree, fun ⟨_, he, _⟩ => absurd he (hsubmits _)⟩
      stored := fun sender file hi =>
        ⟨fun h => absurd (h.symm.trans (hingest sender file hi).1) (by decide),
          fun ⟨_, hid⟩ => absurd hid (hsubmits _)⟩
      added := fun sender file q db d' hi ho =>
        ⟨fun h => absurd (h.symm.trans (hingest sender file hi).1) (by decide),
          fun ⟨dl, _, hdl, _⟩ => absurd hdl ((hingest sender file hi).2 _ db d' dl ho)⟩
      failure := fun h => ⟨.inl (hcode.resolve_left h),
        fun q => by rw [hfailure (hcode.resolve_left h) q]⟩ }

/-- The effect of a turn that submits nothing and deletes nothing, and changes no rows. -/
theorem effect_of_quiet (hrows : ∀ q, Tables.onDisk (t.play d).2 q = Tables.onDisk d q)
    (hcode : (t.play d).1.code = 0 ∨ (t.play d).1.code = 1)
    (hingest : ∀ sender file, i.command = .onStore (.ingest sender file) →
      (t.play d).1.code = 1 ∧ ∀ p db d' dl, t.Opens i d p db d' →
        (Task.ingest sender file).deliveryOnDisk t.input t.clock d' ≠ .ok dl)
    (hdelete : ∀ texts, i.command = .onStore (.delete texts) → (t.play d).1.code = 1 ∧
      ((∀ text ∈ texts, MessageId.isValid text) → ∀ p db d', ¬t.Opens i d p db d')) :
    Effect t i d :=
  effect_of_not_submits hcode hingest (fun q hq => absurd (hrows q) hq) (fun _ => hrows)
    (fun texts hi _ => (hdelete texts hi).1)
    fun ids p db d' hi hids ho => ((hdelete ids hi).2 hids p db d' ho).elim

/-- The effect of a turn with a task that only reads. -/
theorem effect_of_reads {n : Nat} {tb : Tables} (ht : t.Asks i) (hi : i.command = .onStore task)
    (hordinary : ¬t.Unusual i d) (htask : task.Reads) (ho : t.Opens i d p ⟨n, some tb⟩ d') :
    Effect t i d := by
  have hresult := Task.result_of_reads t.style t.input t.clock d' htask tb
  obtain ⟨hsame, herror⟩ := Task.onTables_of_reads t.style { octets := [] } tb htask
  rw [← hresult] at hsame herror
  refine effect_of_quiet (onDisk_of_result (fun tb => tb) ht hi hordinary ho hsame) ?_ ?_ ?_
  · rw [(tables_of_opens ht hi ho).1]
    rcases hr : (task.result t.style t.input t.clock d' tb).1 with e | output
    · exact .inr (herror e hr)
    · exact .inl rfl
  · intro sender file hi'
    obtain rfl := Command.onStore.inj (hi.symm.trans hi')
    exact htask.elim
  · intro texts hi'
    obtain rfl := Command.onStore.inj (hi.symm.trans hi')
    exact htask.elim

/-- The effect of a turn that deletes messages. -/
theorem effect_of_delete {n : Nat} {tb : Tables} {texts : List String} (ht : t.Asks i)
    (hi : i.command = .onStore (.delete texts)) (hordinary : ¬t.Unusual i d)
    (ho : t.Opens i d p ⟨n, some tb⟩ d') : Effect t i d := by
  have hresult : (Task.delete texts).result t.style t.input t.clock d' tb =
      (Task.delete texts).onTables t.style { octets := [] } tb := rfl
  rw [Task.onTables_delete] at hresult
  have hreport := (tables_of_opens ht hi ho).1
  rcases htexts : texts.find? fun text => !MessageId.isValid text with _ | text <;>
    rw [htexts] at hresult
  · have hcode : (t.play d).1.code = 0 := by
      rw [hreport, hresult]
      rfl
    have hrows := rows_of_opens ht hi hordinary ho
    simp only [hresult] at hrows
    have hvalid : ∀ text ∈ texts, MessageId.isValid text := by
      simpa [List.find?_eq_none] using htexts
    refine effect_of_not_submits (.inl hcode) ?ingest ?rows
      (fun hone => absurd (hcode.symm.trans hone) (by decide)) ?malformed ?deletion
    case ingest =>
      intro sender file hi'
      exact absurd (hi.symm.trans hi') (by simp)
    case rows =>
      intro q hq
      by_cases hqp : some q = p
      · subst hqp
        exact .inl ⟨texts, _, d', hi, hvalid, ho⟩
      · exact absurd ((hrows q).2 hqp) hq
    case malformed =>
      rintro texts' hi' ⟨text, htext, hbad⟩
      obtain rfl := Task.delete.inj (Command.onStore.inj (hi.symm.trans hi'))
      exact absurd (hvalid text htext) hbad
    case deletion =>
      intro ids p' db e hi' _ ho'
      obtain rfl := Task.delete.inj (Command.onStore.inj (hi.symm.trans hi'))
      obtain ⟨rfl, -, -⟩ := ho.unique ho'
      refine ⟨hcode, fun q => ?_⟩
      by_cases hq : some q = p
      · rw [if_pos hq, ((hrows q).1 hq).2, ((hrows q).1 hq).1]
      · rw [if_neg hq, (hrows q).2 hq]
  · have hone : (t.play d).1.code = 1 := by
      rw [hreport, hresult]
      rfl
    refine effect_of_quiet (onDisk_of_result (fun tb => tb) ht hi hordinary ho (by rw [hresult]))
      (.inr hone) ?_ ?_
    · intro sender file hi'
      exact absurd (hi.symm.trans hi') (by simp)
    · intro texts' hi'
      obtain rfl := Task.delete.inj (Command.onStore.inj (hi.symm.trans hi'))
      refine ⟨hone, fun hvalid => ?_⟩
      have htext := hvalid text (List.mem_of_find?_eq_some htexts)
      exact absurd (List.find?_some htexts) (by simp [htext])

/-- **The exit code of an ingestion** by the outcome of its submission. -/
theorem code_of_submission (r : Except Submission.Error String) :
    let code := (Report.of ((r.mapError Error.submission).map fun id => octets (line id))).code
    (code = 0 ↔ ∃ id, r = .ok id) ∧ (code = 2 ↔ ∃ e, r = .error e ∧ e.fault = .client) ∧
      (code = 3 ↔ ∃ e, r = .error e ∧ e.fault = .fatal) ∧
      (code = 0 ∨ code = 1 ∨ code = 2 ∨ code = 3) := by
  rcases r with e | id
  · have hcode : (Report.of (((Except.error e : Except Submission.Error String).mapError
        Error.submission).map fun id => octets (line id))).code =
        (Error.submission e).exitCode := rfl
    dsimp only
    rw [hcode, Error.exitCode]
    rcases hfault : e.fault with _ | _ | _ <;> simp [hfault]
  · simp [Report.of, Except.mapError, Except.map]

/-- Where there is nothing to ingest, the exit code says so without a distinction. -/
theorem exitCode_of_deliveryOnDisk {input : Bytes} {clock : Instant} {e : Error}
    (h : task.deliveryOnDisk input clock d = .error e) : e.exitCode = 1 := by
  unfold Task.deliveryOnDisk at h
  split at h
  · next path =>
    unfold deliveryOf at h
    split at h
    · exact absurd h (by simp)
    · exact absurd h (by simp)
    · obtain rfl := Except.error.inj h
      rfl
  · exact absurd h (by simp)
  · exact absurd h (by simp)

/-- A turn that has something to ingest submits it, and nothing else. -/
theorem submits_iff {n : Nat} {tb : Tables} {sender : String} {file : Option String}
    {dl : Delivery} (hi : i.command = .onStore (.ingest sender file))
    (ho : t.Opens i d p ⟨n, some tb⟩ d')
    (hdl : (Task.ingest sender file).deliveryOnDisk t.input t.clock d' = .ok dl)
    (r : Except Submission.Error String) :
    t.Submits i d r ↔ ((Submission.accept sender dl).eval Tables.server tb).1 = r := by
  have heval : ((Submission.submit sender dl).eval Database.backend ⟨n, some tb⟩).1 =
      ((Submission.accept sender dl).eval Tables.server tb).1 := by
    rw [Database.eval_tables]
    exact congrArg Prod.fst (Submission.eval_submit ..)
  rw [← heval]
  have hsubmits : t.Submits i d ((Submission.submit sender dl).eval Database.backend _).1 :=
    ⟨sender, file, p, _, d', dl, hi, ho, hdl, rfl⟩
  constructor
  · exact fun h => hsubmits.unique h
  · rintro rfl
    exact hsubmits

/-- The effect of a turn that has something to ingest. -/
theorem effect_of_delivery {n : Nat} {tb : Tables} {sender : String} {file : Option String}
    {dl : Delivery} (ht : t.Asks i) (hi : i.command = .onStore (.ingest sender file))
    (hordinary : ¬t.Unusual i d) (ho : t.Opens i d p ⟨n, some tb⟩ d')
    (hdl : (Task.ingest sender file).deliveryOnDisk t.input t.clock d' = .ok dl) :
    Effect t i d := by
  have hresult : (Task.ingest sender file).result t.style t.input t.clock d' tb =
      (((((Submission.accept sender dl).eval Tables.server tb).1.mapError Error.submission).map
        fun id => octets (line id)), ((Submission.accept sender dl).eval Tables.server tb).2) := by
    rw [Task.result, hdl]
    exact Task.onTables_ingest t.style dl tb sender file
  have hreport := (tables_of_opens ht hi ho).1
  have hrows := rows_of_opens ht hi hordinary ho
  have hagree {α : Type} (f : Tables → α) := onDisk_of_result f ht hi hordinary ho
  rw [hresult] at hreport
  simp only [hresult] at hrows hagree
  have hsubmits := submits_iff hi ho hdl
  -- the exit code and the tables afterwards both follow from what has become of the submission
  have hcases := Tables.accept_cases sender dl tb
  generalize (Submission.accept sender dl).eval Tables.server tb = a at *
  obtain ⟨hzero, htwo, hthree, hcodes⟩ := code_of_submission a.1
  rw [← hreport] at hzero htwo hthree hcodes
  refine
    { rows := ?rows
      malformed := fun texts hi' _ => absurd (hi.symm.trans hi') (by simp)
      deletion := fun ids p db e hi' _ _ => absurd (hi.symm.trans hi') (by simp)
      client := by simpa only [hsubmits] using htwo
      rejected := ?rejected
      fatal := by simpa only [hsubmits] using hthree
      stored := fun _ _ _ => by simpa only [hsubmits] using hzero
      added := ?added
      failure := ?failure }
  case rows =>
    intro q hq
    have hqp : some q = p := by_contra fun hqp => hq ((hrows q).2 hqp)
    subst hqp
    rcases hcases with ⟨e, -, rfl⟩ | ⟨x, hx, -⟩
    · exact absurd (hagree (fun tb => tb) rfl q) hq
    · exact .inl ⟨sender, file, _, d', dl, x, hi, ho, hdl, hx⟩
  case rejected =>
    intro hcode
    obtain ⟨e, he, hfault⟩ := htwo.mp hcode
    rcases hcases with ⟨e', -, rfl⟩ | ⟨x, -, t', ⟨-, rfl⟩ | ⟨e', hfault', -, rfl⟩⟩
    · exact hagree (fun tb => tb) rfl
    · exact absurd he (by simp)
    · obtain rfl := Except.error.inj he
      exact absurd hfault hfault'
  case added =>
    intro sender' file' q db e hi' ho'
    obtain ⟨rfl, rfl⟩ := Task.ingest.inj (Command.onStore.inj (hi'.symm.trans hi))
    obtain ⟨rfl, rfl, rfl⟩ := ho'.unique ho
    obtain ⟨hbefore, hafter⟩ := (hrows q).1 rfl
    rw [hbefore, hafter, hzero]
    constructor
    · rintro ⟨id, hid⟩
      rcases hcases with ⟨e', -, rfl⟩ | ⟨x, -, t', ⟨⟨r, hadded, hr⟩, rfl⟩ | ⟨e', -, -, rfl⟩⟩
      · exact absurd hid (by simp)
      · exact ⟨dl, r, hdl, hadded, hr⟩
      · exact absurd hid (by simp)
    · rintro ⟨dl', r, -, hadded, -⟩
      rcases hcases with ⟨e', -, rfl⟩ | ⟨x, -, t', ⟨-, rfl⟩ | ⟨e', -, hkept, rfl⟩⟩
      · exact absurd hadded (by simp)
      · exact ⟨_, rfl⟩
      · exact absurd (hkept.symm.trans hadded) (by simp)
  case failure =>
    intro hcode
    refine ⟨hcodes.resolve_left hcode, hagree Tables.messages ?_⟩
    rcases hcases with ⟨e', -, rfl⟩ | ⟨x, -, t', ⟨-, rfl⟩ | ⟨e', -, hkept, rfl⟩⟩
    · rfl
    · exact absurd (hzero.mpr ⟨_, rfl⟩) hcode
    · exact hkept

/-- The effect of a turn that ingests. -/
theorem effect_of_ingest {n : Nat} {tb : Tables} {sender : String} {file : Option String}
    (ht : t.Asks i) (hi : i.command = .onStore (.ingest sender file)) (hordinary : ¬t.Unusual i d)
    (ho : t.Opens i d p ⟨n, some tb⟩ d') : Effect t i d := by
  rcases hdl : (Task.ingest sender file).deliveryOnDisk t.input t.clock d' with e | dl
  · -- nothing is submitted
    have hresult : (Task.ingest sender file).result t.style t.input t.clock d' tb =
        (.error e, tb) := by
      rw [Task.result, hdl]
    have hone : (t.play d).1.code = 1 := by
      rw [(tables_of_opens ht hi ho).1, hresult]
      exact exitCode_of_deliveryOnDisk hdl
    refine effect_of_quiet (onDisk_of_result (fun tb => tb) ht hi hordinary ho (by rw [hresult]))
      (.inr hone) ?_ ?_
    · intro sender' file' hi'
      obtain ⟨rfl, rfl⟩ := Task.ingest.inj (Command.onStore.inj (hi'.symm.trans hi))
      refine ⟨hone, fun p' db e dl ho' hdl' => ?_⟩
      obtain ⟨-, -, rfl⟩ := ho'.unique ho
      exact absurd (hdl.symm.trans hdl') (by simp)
    · intro texts hi'
      exact absurd (hi.symm.trans hi') (by simp)
  · exact effect_of_delivery ht hi hordinary ho hdl

/-- **The effect of a turn on databases that have their tables.** -/
theorem effect_of_sound (ht : t.Asks i) (hordinary : ¬t.Unusual i d) (h : Sound d) :
    Effect t i d := by
  rcases hi : i.command with task | write
  · rcases play_cases ht hi d with ⟨p, db, d', ho⟩ | ⟨hno, hreport, -, hextends⟩
    · obtain ⟨n, tb, rfl⟩ := h.exists_tables ho
      cases task with
      | ingest sender file => exact effect_of_ingest ht hi hordinary ho
      | delete texts => exact effect_of_delete ht hi hordinary ho
      | _ => exact effect_of_reads ht hi hordinary trivial ho
    · have hone : (t.play d).1.code = 1 := by rw [hreport]
      exact effect_of_quiet (Tables.onDisk_of_extends (hextends hordinary)) (.inr hone)
        (fun _ _ _ => ⟨hone, fun p db d' _ ho _ => hno p db d' ho⟩)
        fun _ _ => ⟨hone, fun _ => hno⟩
  · -- no database is opened, and rows are lost only where the settings go
    have hcommand : ∀ task, i.command ≠ .onStore task := by
      intro task hi'
      exact absurd (hi.symm.trans hi') (by simp)
    rcases settings_cases ht hi d with ⟨made, q, s, hsaves, hextends, hdisk⟩ | ⟨hextends, hcode⟩
    · have hcode := hsaves.2.1
      have hrows (y : Place) (hy : y ≠ q) :
          Tables.onDisk (t.play d).2 y = Tables.onDisk d y := by
        rw [hdisk, Tables.onDisk_put_of_ne hy, Tables.onDisk_of_extends hextends]
      refine effect_of_not_submits (.inl hcode) (fun _ _ hi' => absurd hi' (hcommand _)) ?_
        (fun hone => absurd (hcode.symm.trans hone) (by decide))
        (fun _ hi' => absurd hi' (hcommand _)) fun _ _ _ _ hi' => absurd hi' (hcommand _)
      intro y hchanged
      by_cases hy : y = q
      · subst hy
        exact .inr hsaves
      · exact absurd (hrows y hy) hchanged
    · exact effect_of_quiet (fun q => Tables.onDisk_of_extends hextends q) hcode
        (fun _ _ hi' => absurd hi' (hcommand _)) fun _ hi' => absurd hi' (hcommand _)

/-! ### Failures -/

/-- **Failures that are told apart only in the log** have one exit code. -/
theorem indistinct_of_sound (ht : t.Asks i) (hordinary : ¬t.Unusual i d) (h : Sound d) :
    Indistinct t i d where
  settings := by
    intro e he
    rw [t.play_of_parse ht, Invocation.eval_run, he]
    rfl
  saving := by
    intro s e hi hs he
    rw [t.play_of_parse ht, Invocation.eval_run, hs, hi]
    dsimp only
    rw [eval_printSettings_true]
    dsimp only
    rw [he]
    rfl
  database := by
    intro task hi hno
    rcases play_cases ht hi d with ⟨p, db, d', ho⟩ | ⟨-, hreport, -⟩
    · exact absurd ho (hno p db d')
    · rw [hreport]
  file := by
    intro sender file p db d' e hi ho hdl
    rw [play_of_opens ht hi ho, Task.outcome, hdl]
    exact exitCode_of_deliveryOnDisk hdl
  unknown := by
    intro task text p n tb d' hi hnamed ho hunknown
    obtain ⟨e, he, hone⟩ := Task.onTables_of_unknown t.style { octets := [] } tb hnamed hunknown
    rw [(tables_of_opens ht hi ho).1, Task.result_of_reads _ _ _ _ (Task.reads_of_named hnamed), he]
    exact hone
  server := by
    intro e he hfault
    have heffect := effect_of_sound ht hordinary h
    have hcommand : ∃ sender file, i.command = .onStore (.ingest sender file) := by
      obtain ⟨sender, file, p, db, d', dl, hi, -⟩ := he
      exact ⟨sender, file, hi⟩
    obtain ⟨sender, file, hi⟩ := hcommand
    have hzero : (t.play d).1.code ≠ 0 := by
      intro hcode
      obtain ⟨id, hid⟩ := (heffect.stored sender file hi).mp hcode
      exact absurd (he.unique hid) (by simp)
    have hother {f : Submission.Fault} (hf : ∃ e', t.Submits i d (.error e') ∧ e'.fault = f) :
        f = .server := by
      obtain ⟨e', he', rfl⟩ := hf
      rw [← Except.error.inj (he.unique he'), hfault]
    rcases (heffect.failure hzero).1 with hone | htwo | hthree
    · exact hone
    · exact absurd (hother (heffect.client.mp htwo)) (by decide)
    · exact absurd (hother (heffect.fatal.mp hthree)) (by decide)

/-- **The effect of a turn** about which there is nothing unusual, on every disk that turns have
come to from one on which databases, if there are any, have their tables. -/
theorem effect_playAll {d : Disk} (h : Sound d) (ts : List Turn) {t : Turn} {i : Invocation}
    (ht : t.Asks i) (hordinary : ¬t.Unusual i (playAll ts d)) :
    Effect t i (playAll ts d) ∧ Indistinct t i (playAll ts d) :=
  ⟨effect_of_sound ht hordinary (h.playAll ts), indistinct_of_sound ht hordinary (h.playAll ts)⟩

/-- A text that is no id, behind the id of the only message, keeps that from being deleted. -/
theorem effect_malformed_id :
    let id := "5g5bFiiiliyrOsOr_5WrluaHbLfr3viw4s4E2cJEeK8"
    let t : Turn :=
      { style := .calendar, environment := ⟨"/c", none, {}⟩, input := octets "To: c\n\nd"
        arguments := ["--database", "m", "ingest", "--from", "a@b"] }
    let u : Turn := { t with arguments := ["--database", "m", "delete", id, "d"] }
    let d := playAll [t] {}
    (Tables.onDisk d [['m']]).messages.map MessageRow.id = [id] ∧
      (u.play d).1.code = 1 ∧ ∀ q, Tables.onDisk (u.play d).2 q = Tables.onDisk d q := by
  intro id t u d
  have hu : u.Asks ⟨none, some "m", .onStore (.delete [id, "d"])⟩ := by
    rw [Turn.Asks]
    decide +kernel
  have hordinary : ¬u.Unusual ⟨none, some "m", .onStore (.delete [id, "d"])⟩ d := by
    have hs : (⟨none, some "m", .onStore (.delete [id, "d"])⟩ : Invocation).settingsOnDisk
        u.environment (prepared u.environment d) = .ok ⟨"m", 3⟩ := by decide +kernel
    have hclear : ∀ e ∈ Database.endings,
        (prepared u.environment d).present ("m" ++ e) = false := by decide +kernel
    have hmade := Database.directoryMade_of_parent (by decide +kernel : Path.parent? "m" = _)
      (prepared u.environment d)
    refine not_unusual hs (by decide +kernel : _ = some "m") hmade hclear fun task htask => ?_
    obtain rfl := Command.onStore.inj htask
    exact not_false
  refine ⟨by decide +kernel, ?_⟩
  exact (effect_playAll sound_empty [t] hu hordinary).1.malformed [id, "d"] rfl
    ⟨"d", by simp, by decide⟩

/-- **Rows that are lost without a deletion**: a turn that only asks for its settings to be saved
leaves none in a database in the file that these go to, and one that only counts messages leaves
none in a database that stands where its own database keeps a file of its own. -/
theorem rows_lost :
    let d : Disk := Disk.put {} ["c.json".toList] (.file (octets "\x7b\x7d"))
    let turn (arguments : List String) : Turn :=
      { style := .calendar, environment := ⟨"/c", none, {}⟩, input := octets "To: c\n\nd"
        arguments := "--config" :: "c.json" :: arguments }
    let ingest (path : String) := turn ["--database", path, "ingest", "--from", "a@b"]
    let save := turn ["config", "--write"]
    let count := turn ["--database", "j", "count"]
    let path := "/c/mailsink/mailsink.json"
    let q := ["c".toList, "mailsink".toList, "mailsink.json".toList]
    let y := ["j-journal".toList]
    Sound d ∧
    save.Asks ⟨some "c.json", none, .settings true⟩ ∧
      (save.play (playAll [ingest path] d)).1.code = 0 ∧
      (Tables.onDisk (playAll [ingest path] d) q).messages.length = 1 ∧
      (Tables.onDisk (save.play (playAll [ingest path] d)).2 q).messages = [] ∧
    count.Asks ⟨some "c.json", some "j", .onStore .count⟩ ∧
      (count.play (playAll [ingest "j-journal"] d)).1.code = 0 ∧
      (Tables.onDisk (playAll [ingest "j-journal"] d) y).messages.length = 1 ∧
      (Tables.onDisk (count.play (playAll [ingest "j-journal"] d)).2 y).messages = [] := by
  simp only [Turn.Asks]
  refine ⟨sound_empty.put (by decide +kernel) _, ?_, ?_, ?_, ?_, ?_, ?_, ?_, ?_⟩ <;> decide +kernel

end Turn

end Maildrop.CommandLine
