import Maildrop.Proofs.CommandLine.Task
import Maildrop.Proofs.CommandLine.Turn
import Maildrop.Proofs.Store.File

/-!
# What turns do to the databases of a disk

A turn that works on a store opens the database that its settings name, runs its task on it and
writes it back (`Maildrop.CommandLine.Turn.play_of_opens`). This module follows the databases at
all places of the disk, whichever of them a turn opens.

* A turn opens a database, or saves its settings, or brings no file
  (`Maildrop.CommandLine.Turn.disk_cases`).
* A turn leaves a database that has its tables with tables
  (`Maildrop.CommandLine.Sound.play`), so that databases that turns have made and used always have
  them (`Maildrop.CommandLine.Sound.playAll`).

Some turns are set apart (`Maildrop.CommandLine.Turn.Unusual`). A turn whose database keeps files of
its own where something stands already does away with that. The other two kinds are not modelled: a
turn that asks for a database with options of its own, and one that ingests a file that is there
only because the database is open.
-/

namespace Maildrop.CommandLine

open Host (Action Disk Place)
open Store (Database Tables)
open Store.Database (Opened onDisk? writtenBack)

/-! ### Tasks on a disk -/

/-- **What there is to ingest** on a disk. -/
def Task.deliveryOnDisk (input : Bytes) (clock : Instant) (d : Disk) : Task → Except Error Delivery
  | .ingest _ (some path) => deliveryOf path clock (d.read path)
  | .ingest _ none => .ok { octets := input, receivedAt := clock }
  | _ => .ok { octets := [] }

section Tasks

variable (style : TimeStyle) (input : Bytes) (clock : Instant) (d : Disk)

theorem Task.eval_delivery (task : Task) :
    task.delivery.eval (Disk.host input clock) d = (task.deliveryOnDisk input clock d, d) := by
  cases task with
  | ingest sender file => cases file <;> rfl
  | _ => rfl

/-- **What a task does to an open database**: what it prints or why it fails, and the database
afterwards. -/
def Task.outcome (task : Task) (db : Database) : Except Error Bytes × Database :=
  match task.deliveryOnDisk input clock d with
  | .error e => (.error e, db)
  | .ok dl => (task.answer style dl).eval Database.backend db

/-- **What a task does to the tables of an open database.** -/
def Task.result (task : Task) (t : Tables) : Except Error Bytes × Tables :=
  match task.deliveryOnDisk input clock d with
  | .error e => (.error e, t)
  | .ok dl => task.onTables style dl t

/-- As long as there are tables, a task does to a database what it does to them. -/
theorem Task.outcome_tables (task : Task) (n : Nat) (t : Tables) :
    task.outcome style input clock d ⟨n, some t⟩ =
      ((task.result style input clock d t).1, ⟨n, some (task.result style input clock d t).2⟩) := by
  rw [outcome, result]
  rcases task.deliveryOnDisk input clock d with e | dl
  · rfl
  · exact Database.eval_tables (task.answer style dl).run n t

/-- A task that only reads has nothing to ingest. -/
theorem Task.result_of_reads {task : Task} (h : task.Reads) (t : Tables) :
    task.result style input clock d t = task.onTables style { octets := [] } t := by
  have hdelivery : task.deliveryOnDisk input clock d = .ok { octets := [] } := by
    cases task with
    | ingest sender file => exact h.elim
    | _ => rfl
  rw [result, hdelivery]

/-- **What becomes of the tables in a task**: nothing; or a delivery is submitted to them; or
messages are deleted from them. -/
theorem Task.result_cases (task : Task) (t : Tables) :
    (task.result style input clock d t).2 = t ∨
    (∃ sender file dl, task = .ingest sender file ∧
      task.deliveryOnDisk input clock d = .ok dl ∧
      task.result style input clock d t =
        (((((Submission.accept sender dl).eval Tables.server t).1.mapError Error.submission).map
          fun id => octets (line id)), ((Submission.accept sender dl).eval Tables.server t).2)) ∨
    ∃ ids, task = .delete ids ∧ task.result style input clock d t =
      (.ok [], { t with messages := t.messages.filter fun r => r.id ∉ ids }) := by
  cases task with
  | ingest sender file =>
    rcases hdl : (ingest sender file).deliveryOnDisk input clock d with e | dl
    · refine .inl ?_
      rw [result, hdl]
    · refine .inr (.inl ⟨sender, file, dl, rfl, rfl, ?_⟩)
      rw [result, hdl]
      exact onTables_ingest style dl t sender file
  | delete texts =>
    have hresult : (delete texts).result style input clock d t =
        (delete texts).onTables style { octets := [] } t := rfl
    rw [hresult, onTables_delete]
    rcases texts.find? fun text => !MessageId.isValid text with _ | text
    · exact .inr (.inr ⟨texts, rfl, rfl⟩)
    · exact .inl rfl
  | _ =>
    rw [result_of_reads style input clock d (by trivial)]
    exact .inl (onTables_of_reads style _ t (by trivial)).1

/-- An ingestion that succeeds has had a delivery to submit, and prints its id. -/
theorem Task.exists_of_result_ok {sender : String} {file : Option String} {t : Tables}
    {output : Bytes} (h : ((ingest sender file).result style input clock d t).1 = .ok output) :
    ∃ dl id, (ingest sender file).deliveryOnDisk input clock d = .ok dl ∧
      ((Submission.accept sender dl).eval Tables.server t).1 = .ok id ∧
      output = octets (line id) ∧
      ((ingest sender file).result style input clock d t).2 =
        ((Submission.accept sender dl).eval Tables.server t).2 := by
  rw [result] at h ⊢
  rcases hdl : (ingest sender file).deliveryOnDisk input clock d with e | dl <;> rw [hdl] at h
  · exact absurd h (by simp)
  · dsimp only at h ⊢
    rw [onTables_ingest] at h ⊢
    rcases haccept : ((Submission.accept sender dl).eval Tables.server t).1 with e | id <;>
      rw [haccept] at h
    · exact absurd h (by simp [Except.mapError, Except.map])
    · exact ⟨dl, id, rfl, haccept, (Except.ok.inj h).symm, rfl⟩

/-- Where there are no tables nothing can be ingested. -/
theorem Task.exists_outcome_error (sender : String) (file : Option String) (n : Nat) :
    ∃ e, ((ingest sender file).outcome style input clock d ⟨n, none⟩).1 = .error e := by
  rw [outcome]
  rcases (ingest sender file).deliveryOnDisk input clock d with e | dl
  · exact ⟨e, rfl⟩
  · obtain ⟨e, he⟩ := Tables.exists_eval_accept_error sender dl n
    have hsubmit : Store.Action.eval Database.backend (ExceptT.mk (Submission.submit sender dl))
        ⟨n, none⟩ = (Submission.accept sender dl).eval Database.backend ⟨n, none⟩ :=
      Submission.eval_submit ..
    dsimp only
    rw [answer, depositDelivery, Store.Action.eval_bind, Store.Action.eval_adapt, hsubmit, he]
    exact ⟨.submission e, rfl⟩

theorem Task.eval_runOn (task : Task) (db : Database) :
    (task.runOn style db).eval (Disk.host input clock) d =
      (.ok (task.outcome style input clock d db), d) := by
  have hdelivery : Action.eval (Disk.host input clock)
      (ExceptT.lift task.delivery.run : HostAction _) d =
        (.ok (task.deliveryOnDisk input clock d), d) := by
    rw [Action.eval_lift_program, Action.eval_run, eval_delivery]
  rw [runOn, Action.eval_bind_ok hdelivery, outcome]
  rcases task.deliveryOnDisk input clock d with e | dl
  · rfl
  · dsimp only
    rw [Database.serve, Action.eval_bind_ok (Action.eval_records ..)]
    rfl

variable {d} {d' : Disk} {path : String} {p : Option Place} {db : Database}

/-- **A task on a database that can be opened** is run on it, and the database is written back. -/
theorem Task.eval_run (h : Opened path d p db d') (task : Task) :
    (task.run style path).eval (Disk.host input clock) d =
      ((task.outcome style input clock d' db).1,
        writtenBack d' p (task.outcome style input clock d' db).2) := by
  have hopen := Action.eval_adapt (Disk.host input clock) d (Database.openFile path) Error.store
  rw [h.eval_openFile] at hopen
  have hclose (db' : Database) : Action.eval (Disk.host input clock)
      (ExceptT.lift (ExceptT.adapt Error.store (Database.closeFile path db')).run : HostAction _)
        d' = (.ok (.ok ()), writtenBack d' p db') := by
    rw [Action.eval_lift_program, Action.eval_run, Action.eval_adapt, h.eval_closeFile]
    rfl
  rw [run, Action.eval_bind_ok hopen, Action.eval_bind_ok (eval_runOn ..),
    Action.eval_bind_ok (hclose _), Action.eval_lift]
  rcases (task.outcome style input clock d' db).1 with e | output <;> rfl

end Tasks

/-! ### Turns on a disk -/

/-- **The task ingests a file of the database in a file**, which is there as long as the database is
open. -/
def Task.FeedsOn (name : String) (d : Disk) : Task → Prop
  | .ingest _ (some file) => ∃ e ∈ Database.endings, ∃ q,
      d.resolve (name ++ e) = .ok q ∧ d.resolve file = .ok q
  | _ => False

namespace Turn

/-- **The turn opens a database**: the place at which it is kept, if it is, the database, and the
disk with it open. -/
def Opens (t : Turn) (i : Invocation) (d : Disk) (p : Option Place) (db : Database) (d' : Disk) :
    Prop :=
  ∃ s, i.settingsOnDisk t.environment (prepared t.environment d) = .ok s ∧
    Opened s.databasePath (prepared t.environment d) p db d'

/-- **The turn uses its database in an unusual way**: it asks for options of its own, or something
stands where the database keeps files of its own, or one of these files is to be ingested. -/
def Unusual (t : Turn) (i : Invocation) (d : Disk) : Prop :=
  ∃ task s, i.command = .onStore task ∧
    i.settingsOnDisk t.environment (prepared t.environment d) = .ok s ∧
    (Database.location s.databasePath = .ok .special ∨
      Database.Crowded s.databasePath (prepared t.environment d) ∨
      ∃ name made, Database.fileOf? s.databasePath = some name ∧
        Database.directoryMade (prepared t.environment d) s.databasePath = .ok made ∧
        task.FeedsOn name made)

variable {t : Turn} {i : Invocation} {d d' : Disk} {p : Option Place} {q : Place} {db : Database}
  {task : Task}

/-- Nothing stands in the way of the database of a turn that is not unusual. -/
theorem not_crowded (hordinary : ¬t.Unusual i d) (hi : i.command = .onStore task) {s : Settings}
    (hs : i.settingsOnDisk t.environment (prepared t.environment d) = .ok s) :
    ¬Database.Crowded s.databasePath (prepared t.environment d) :=
  fun h => hordinary ⟨task, s, hi, hs, .inr (.inl h)⟩

/-- A turn on a database in a file is not unusual if nothing stands where the database keeps files
of its own, and none of these is to be ingested. -/
theorem not_unusual {s : Settings} {name : String} {made : Disk}
    (hs : i.settingsOnDisk t.environment (prepared t.environment d) = .ok s)
    (hfile : Database.fileOf? s.databasePath = some name)
    (hmade : Database.directoryMade (prepared t.environment d) s.databasePath = .ok made)
    (hclear : ∀ e ∈ Database.endings, made.present (name ++ e) = false)
    (hfeeds : ∀ task, i.command = .onStore task → ¬task.FeedsOn name made) : ¬t.Unusual i d := by
  rintro ⟨task, s', hi, hs', hcase⟩
  obtain rfl := Except.ok.inj (hs.symm.trans hs')
  rcases hcase with hspecial | ⟨name', made', hfile', hmade', e, he, hpresent⟩ |
    ⟨name', made', hfile', hmade', hfeeds'⟩
  · rw [Database.fileOf?, hspecial] at hfile
    exact absurd hfile (by simp)
  · obtain rfl := Option.some.inj (hfile.symm.trans hfile')
    obtain rfl := Except.ok.inj (hmade.symm.trans hmade')
    exact absurd ((hclear e he).symm.trans hpresent) (by decide)
  · obtain rfl := Option.some.inj (hfile.symm.trans hfile')
    obtain rfl := Except.ok.inj (hmade.symm.trans hmade')
    exact hfeeds task hi hfeeds'

/-- A turn opens one database at most. -/
theorem Opens.unique (h : t.Opens i d p db d') {p' : Option Place} {db' : Database} {e : Disk}
    (h' : t.Opens i d p' db' e) : p = p' ∧ db = db' ∧ d' = e := by
  obtain ⟨s, hs, hopened⟩ := h
  obtain ⟨s', hs', hopened'⟩ := h'
  obtain rfl := Except.ok.inj (hs.symm.trans hs')
  exact hopened.unique hopened'

/-- **A turn on a database that can be opened** does there what its task does. -/
theorem play_of_opens (ht : t.Asks i) (hi : i.command = .onStore task) (h : t.Opens i d p db d') :
    t.play d = (.of (task.outcome t.style t.input t.clock d' db).1,
      writtenBack d' p (task.outcome t.style t.input t.clock d' db).2) := by
  obtain ⟨s, hs, hopened⟩ := h
  rw [t.play_of_parse ht, Invocation.eval_run, hs, hi]
  dsimp only
  rw [Task.eval_run _ _ _ hopened]

/-- **What becomes of a turn** with a task: its database is opened, or it fails. Then no file comes,
and directories are made at most if there is nothing unusual about it. -/
theorem play_cases (ht : t.Asks i) (hi : i.command = .onStore task) (d : Disk) :
    (∃ p db d', t.Opens i d p db d') ∨
      (∀ p db d', ¬t.Opens i d p db d') ∧ (t.play d).1 = { code := 1 } ∧
        d.BringsNoFile (t.play d).2 ∧ (¬t.Unusual i d → d.Extends (t.play d).2) := by
  have hprepared := prepared_extends t.environment d
  rcases hs : i.settingsOnDisk t.environment (prepared t.environment d) with e | s
  · refine .inr ⟨?_, ?_⟩
    · rintro p db d' ⟨s, hs', -⟩
      exact absurd (hs.symm.trans hs') (by simp)
    · rw [t.play_of_parse ht, Invocation.eval_run, hs]
      exact ⟨rfl, hprepared.bringsNoFile, fun _ => hprepared⟩
  rcases Database.openFile_cases t.input t.clock (prepared t.environment d) s.databasePath with
    ⟨p, db, d', hopened, -⟩ | ⟨f, d', hfiles, hextends, hopen⟩
  · exact .inl ⟨p, db, d', s, hs, hopened⟩
  · -- directories may have been made, and files removed, before opening the database has failed
    refine .inr ⟨?_, ?_⟩
    · rintro p db d'' ⟨s', hs', hopened⟩
      obtain rfl := Except.ok.inj (hs.symm.trans hs')
      have hopened' := hopened.eval_openFile t.input t.clock
      exact absurd (congrArg Prod.fst (hopen.symm.trans hopened')) (by simp)
    · have hadapt := Action.eval_adapt (Disk.host t.input t.clock) (prepared t.environment d)
        (Database.openFile s.databasePath) Error.store
      rw [hopen] at hadapt
      rw [t.play_of_parse ht, Invocation.eval_run, hs, hi]
      dsimp only
      rw [Task.run, Action.eval_bind_error hadapt]
      refine ⟨rfl, fun y content hy => ?_, fun hordinary => ?_⟩
      · exact hprepared.bringsNoFile y content (hfiles y content hy)
      · exact hprepared.trans (hextends (not_crowded hordinary hi hs))

/-- **A turn on a database with tables** reports what its task does to them, and leaves the rows of
other places alone, if there is nothing unusual about it. -/
theorem tables_of_opens {n : Nat} {tb : Tables} (ht : t.Asks i) (hi : i.command = .onStore task)
    (h : t.Opens i d p ⟨n, some tb⟩ d') :
    (t.play d).1 = .of (task.result t.style t.input t.clock d' tb).1 ∧
      (∀ q, p = some q → onDisk? d q = some ⟨n, some tb⟩ ∧
        onDisk? (t.play d).2 q =
          some ⟨n, some (task.result t.style t.input t.clock d' tb).2⟩) ∧
      (¬t.Unusual i d → ∀ q, some q ≠ p →
        Tables.onDisk (t.play d).2 q = Tables.onDisk d q) := by
  rw [play_of_opens ht hi h, Task.outcome_tables]
  obtain ⟨s, hs, hopened⟩ := h
  have hprepared := prepared_extends t.environment d
  refine ⟨rfl, ?_, fun hordinary q hq => ?_⟩
  · rintro q rfl
    have hschema : n ≤ Store.schemaVersion := Database.schema_le hopened.onDisk?_eq
    exact ⟨Database.onDisk?_of_extends hprepared hopened.onDisk?_eq,
      hopened.onDisk?_writtenBack hschema⟩
  · rw [hopened.tables_writtenBack (not_crowded hordinary hi hs) hq,
      Tables.onDisk_of_extends hprepared]

/-- The rows of all places after such a turn. -/
theorem rows_of_opens {n : Nat} {tb : Tables} (ht : t.Asks i) (hi : i.command = .onStore task)
    (hordinary : ¬t.Unusual i d) (h : t.Opens i d p ⟨n, some tb⟩ d') (q : Place) :
    (some q = p → Tables.onDisk d q = tb ∧
      Tables.onDisk (t.play d).2 q = (task.result t.style t.input t.clock d' tb).2) ∧
    (some q ≠ p → Tables.onDisk (t.play d).2 q = Tables.onDisk d q) := by
  obtain ⟨-, hhere, hothers⟩ := tables_of_opens ht hi h
  refine ⟨fun hq => ?_, hothers hordinary q⟩
  obtain ⟨hbefore, hafter⟩ := hhere q hq.symm
  exact ⟨Tables.onDisk_eq hbefore, Tables.onDisk_eq hafter⟩

/-- What a task leaves of the tables is left at all places. -/
theorem onDisk_of_result {α : Type} (f : Tables → α) {n : Nat} {tb : Tables} (ht : t.Asks i)
    (hi : i.command = .onStore task) (hordinary : ¬t.Unusual i d)
    (h : t.Opens i d p ⟨n, some tb⟩ d')
    (hsame : f (task.result t.style t.input t.clock d' tb).2 = f tb) (q : Place) :
    f (Tables.onDisk (t.play d).2 q) = f (Tables.onDisk d q) := by
  obtain ⟨hhere, hothers⟩ := rows_of_opens ht hi hordinary h q
  by_cases hq : some q = p
  · rw [(hhere hq).2, (hhere hq).1, hsame]
  · rw [hothers hq]

/-- A turn whose command line has not been understood makes directories at most. -/
theorem extends_of_stop {stop : Stop} (h : parse t.environment.config t.arguments = .error stop)
    (d : Disk) : d.Extends (t.play d).2 := by
  have hplay : t.play d = (stop.report t.environment, prepared t.environment d) := by
    rw [play, run, Program.eval_bind, eval_prepare, h]
    rfl
  rw [hplay]
  exact prepared_extends t.environment d

/-- **The turn saves its settings** at a place. -/
def SavesAt (t : Turn) (i : Invocation) (d : Disk) (q : Place) : Prop :=
  i.command = .settings true ∧ (t.play d).1.code = 0 ∧
    (t.play d).2.resolve (Settings.usualPath t.environment.settingsRoot) = .ok q

/-- **What becomes of a turn about settings**: it saves them, or directories are made at most. -/
theorem settings_cases (ht : t.Asks i) {write : Bool} (hi : i.command = .settings write)
    (d : Disk) :
    (∃ made q s, t.SavesAt i d q ∧ d.Extends made ∧
      (t.play d).2 = made.put q (.file (Utf8.encode (Settings.print s)))) ∨
    d.Extends (t.play d).2 ∧ ((t.play d).1.code = 0 ∨ (t.play d).1.code = 1) := by
  have hprepared := prepared_extends t.environment d
  have hplay := t.play_of_parse ht d
  rw [Invocation.eval_run, hi] at hplay
  rcases hs : i.settingsOnDisk t.environment (prepared t.environment d) with e | s <;>
    rw [hs] at hplay
  · rw [hplay]
    exact .inr ⟨hprepared, .inr rfl⟩
  rcases write with _ | _ <;> dsimp only at hplay
  · rw [eval_printSettings_false] at hplay
    rw [hplay]
    exact .inr ⟨hprepared, .inl rfl⟩
  rw [eval_printSettings_true] at hplay
  rcases Settings.save_cases t.input t.clock (prepared t.environment d) t.environment.settingsRoot s
    with ⟨made, q, hmade, hq, hfree, hsave⟩ | ⟨e, d', hextends, hsave⟩ <;> rw [hsave] at hplay
  · refine .inl ⟨made, q, s, ⟨hi, ?_, ?_⟩, hprepared.trans (Disk.makeDirectories_extends hmade),
      ?_⟩
    · rw [hplay]
      rfl
    · rw [hplay]
      exact (Disk.Grows.put hfree _).resolve hq
    · rw [hplay]
  · rw [hplay]
    exact .inr ⟨hprepared.trans hextends, .inr rfl⟩

/-- **What becomes of a disk in a turn**: a database is opened, or settings are saved, or no file
comes, and directories are made at most if there is nothing unusual about the turn. -/
theorem disk_cases (t : Turn) (d : Disk) :
    (d.BringsNoFile (t.play d).2 ∧
      ((∀ i, t.Asks i → ¬t.Unusual i d) → d.Extends (t.play d).2)) ∨
    (∃ i made q s, t.Asks i ∧ t.SavesAt i d q ∧ d.Extends made ∧
      (t.play d).2 = made.put q (.file (Utf8.encode (Settings.print s)))) ∨
    ∃ i task p db d', t.Asks i ∧ i.command = .onStore task ∧ t.Opens i d p db d' := by
  rcases ht : parse t.environment.config t.arguments with stop | i
  · have hextends := extends_of_stop ht d
    exact .inl ⟨hextends.bringsNoFile, fun _ => hextends⟩
  · rcases hi : i.command with task | write
    · rcases play_cases ht hi d with ⟨p, db, d', h⟩ | ⟨-, -, hfiles, hextends⟩
      · exact .inr (.inr ⟨i, task, p, db, d', ht, hi, h⟩)
      · exact .inl ⟨hfiles, fun hordinary => hextends (hordinary i ht)⟩
    · rcases settings_cases ht hi d with ⟨made, q, s, h⟩ | ⟨hextends, -⟩
      · exact .inr (.inl ⟨i, made, q, s, ht, h⟩)
      · exact .inl ⟨hextends.bringsNoFile, fun _ => hextends⟩

/-- **The disk grows** in every turn. -/
theorem grows_play (t : Turn) (d : Disk) : d.Grows (t.play d).2 :=
  Action.grows_eval t.input t.clock (run t.style t.environment t.arguments) d

end Turn

/-- **Plays turns** one after the other, and gives the disk that the last one leaves. -/
def playAll (ts : List Turn) (d : Disk) : Disk := ts.foldl (fun d t => (t.play d).2) d

theorem grows_playAll (ts : List Turn) (d : Disk) : d.Grows (playAll ts d) := by
  induction ts generalizing d with
  | nil => exact .refl d
  | cons t ts ih => exact (t.grows_play d).trans (ih _)

/-! ### Databases that have their tables -/

/-- **Every database on the disk has its tables.** -/
def Sound (d : Disk) : Prop := ∀ q db, onDisk? d q = some db → db.tables.isSome = true

/-- On an empty disk all databases are still to be made. -/
theorem sound_empty : Sound {} := by
  intro q db hdb
  rw [onDisk?] at hdb
  rcases hq : Disk.node? {} q with _ | _ | content <;> rw [hq] at hdb
  · obtain rfl := Option.some.inj hdb
    rfl
  · exact absurd hdb (by simp)
  · rw [Disk.node?] at hq
    split at hq
    · exact absurd hq (by simp)
    · exact absurd hq (by simp)

namespace Sound

variable {t : Turn} {i : Invocation} {d d' : Disk} {p : Option Place} {db : Database}

/-- Where no file comes, no database comes without its tables. -/
theorem of_bringsNoFile (h : Sound d) (hfiles : d.BringsNoFile d') : Sound d' := by
  intro q db hdb
  rcases Database.onDisk?_of_bringsNoFile hfiles hdb with hdb | rfl
  · exact h q db hdb
  · rfl

/-- A file that holds no database does no harm to any. -/
theorem put (h : Sound d) {content : Bytes} (hcontent : Store.DatabaseFile.ofOctets? content = none)
    (q : Place) : Sound (d.put q (.file content)) := by
  intro y db hdb
  by_cases hy : y = q
  · subst hy
    rw [onDisk?] at hdb
    by_cases hroot : y = []
    · rw [Disk.node?, if_pos hroot] at hdb
      exact absurd hdb (by simp)
    · rw [Disk.node?_put_self hroot] at hdb
      dsimp only at hdb
      rw [hcontent] at hdb
      exact absurd hdb (by simp)
  · rw [Database.onDisk?_put_of_ne hy] at hdb
    exact h y db hdb

/-- A database that is opened has its tables. -/
theorem exists_tables (h : Sound d) (ho : t.Opens i d p db d') : ∃ n tb, db = ⟨n, some tb⟩ := by
  have htables : db.tables.isSome = true := by
    obtain ⟨s, -, hopened⟩ := ho
    rcases p with _ | q
    · cases hopened
      rfl
    · have hfiles := (prepared_extends t.environment d).bringsNoFile
      exact h.of_bringsNoFile hfiles q db hopened.onDisk?_eq
  obtain ⟨n, _ | tb⟩ := db
  · exact absurd htables (by simp)
  · exact ⟨n, tb, rfl⟩

/-- **Turns leave databases with their tables.** -/
theorem play (h : Sound d) (t : Turn) : Sound (t.play d).2 := by
  have hprepared := h.of_bringsNoFile (prepared_extends t.environment d).bringsNoFile
  rcases t.disk_cases d with ⟨hfiles, -⟩ | ⟨i, made, q, s, -, -, hext, hdisk⟩ |
    ⟨i, task, p, db, d', ht, hi, ho⟩
  · exact h.of_bringsNoFile hfiles
  · rw [hdisk]
    refine (h.of_bringsNoFile hext.bringsNoFile).put ?_ q
    rw [Settings.print_eq]
    rfl
  · obtain ⟨n, tb, rfl⟩ := h.exists_tables ho
    rw [Turn.play_of_opens ht hi ho, Task.outcome_tables]
    obtain ⟨s, -, hopened⟩ := ho
    intro y db hdb
    by_cases hy : some y = p
    · subst hy
      have hschema : n ≤ Store.schemaVersion := Database.schema_le hopened.onDisk?_eq
      rw [hopened.onDisk?_writtenBack hschema] at hdb
      obtain rfl := Option.some.inj hdb
      rfl
    · rcases hopened.onDisk?_of_ne hy hdb with hdb | rfl
      · exact hprepared y db hdb
      · rfl

theorem playAll (h : Sound d) (ts : List Turn) : Sound (playAll ts d) := by
  induction ts generalizing d with
  | nil => exact h
  | cons t ts ih => exact ih (h.play t)

end Sound

end Maildrop.CommandLine
