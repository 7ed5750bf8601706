import Maildrop.Proofs.CommandLine.Storage
import Maildrop.Proofs.MessageId

/-!
# What is stored is given back

A turn ingests a message into a database in a file, and says its id. From then on, every turn that
comes to the same file is given the message back, octet by octet, whatever turns there have been in
between, as long as there has been nothing unusual about them and none of them has deleted the
message or has saved its settings in place of the database; and once the message has been deleted,
it is gone, until it is ingested again (`Maildrop.CommandLine.Turn.keeping`).

Both halves are an invariant of the file (`Maildrop.CommandLine.KeptAt`): the tables in it hold the
message, or they have no row with its id. A turn that does not open the file leaves it alone, and
one that does writes back what its task has made of the tables, so that it is enough to know what
one task does to them (`Maildrop.CommandLine.KeptAt.play`, `Maildrop.CommandLine.KeptAt.playAll`).

A database that is kept in memory ends with its turn, and gives nothing back; neither does one that
stands where another database keeps files of its own, once that has been opened, or one whose URI
has a detour through the file that it has brought (`Maildrop.CommandLine.Turn.not_keeping`).
-/

namespace Maildrop.CommandLine

open Host (Disk Place)
open Store (Database Tables)
open Store.Database (LeadsTo Passable closedFile onDisk?)

/-! ### Turns at a file -/

namespace Turn

/-- **The turn comes to the file at a place**: its settings can be had, the database that they name
is kept there, and there is nothing unusual about the turn. -/
def ComesTo (t : Turn) (i : Invocation) (d : Disk) (q : Place) : Prop :=
  ∃ s name made, i.settingsOnDisk t.environment (prepared t.environment d) = .ok s ∧
    LeadsTo s.databasePath (prepared t.environment d) made name q ∧ ¬t.Unusual i d

/-- **The turn deletes a message**, among others, in the database at a place. -/
def Deletes (t : Turn) (i : Invocation) (d : Disk) (q : Place) (id : String) : Prop :=
  ∃ ids db d', i.command = .onStore (.delete ids) ∧ id ∈ ids ∧ t.Opens i d (some q) db d' ∧
    (t.play d).1.code = 0

/-- **The turn stores a message** in the database at a place, and says its id. -/
def Stores (t : Turn) (i : Invocation) (d : Disk) (q : Place) (id : String) : Prop :=
  ∃ sender file db d', i.command = .onStore (.ingest sender file) ∧
    t.Opens i d (some q) db d' ∧ (t.play d).1 = { code := 0, output := octets (line id) }

/-- A turn that opens a database in a file comes to that, if there is nothing unusual about it. -/
theorem Opens.comesTo {t : Turn} {i : Invocation} {d d' : Disk} {q : Place} {db : Database}
    (h : t.Opens i d (some q) db d') (hordinary : ¬t.Unusual i d) : t.ComesTo i d q := by
  obtain ⟨s, hs, hopened⟩ := h
  cases hopened with
  | file hleads _ => exact ⟨s, _, _, hs, hleads, hordinary⟩

/-- **The path of a database leads to its file from then on**, whatever turns there are, as long as
it is passable if it is a URI. -/
theorem comesTo_of_opens {t u : Turn} {i j : Invocation} {d d' : Disk} {q : Place} {db : Database}
    {s s' : Settings} {task : Task} (ht : t.Asks i) (hi : i.command = .onStore task)
    (ho : t.Opens i d (some q) db d')
    (hs : i.settingsOnDisk t.environment (prepared t.environment d) = .ok s) (us : List Turn)
    (hs' : j.settingsOnDisk u.environment (prepared u.environment (playAll us (t.play d).2)) =
      .ok s')
    (hpath : s'.databasePath = s.databasePath)
    (hpassable : "file:".toList <+: s.databasePath.toList →
      Passable s.databasePath (prepared u.environment (playAll us (t.play d).2)))
    (hordinary : ¬u.Unusual j (playAll us (t.play d).2)) :
    u.ComesTo j (playAll us (t.play d).2) q := by
  have hplay := play_of_opens ht hi ho
  obtain ⟨s₀, hs₀, hopened⟩ := ho
  obtain rfl := Except.ok.inj (hs₀.symm.trans hs)
  have hgrows : d'.Grows (t.play d).2 := by
    rw [hplay]
    exact hopened.grows_writtenBack _
  have hlater := hgrows.trans ((grows_playAll us _).trans
    (prepared_extends u.environment (playAll us (t.play d).2)).grows)
  obtain ⟨name, hleads⟩ := hopened.leadsTo hlater hpassable
  exact ⟨s', name, _, hs', hpath ▸ hleads, hordinary⟩

end Turn

/-- **No turn does what is excluded.** -/
def Never (excluded : Turn → Invocation → Disk → Prop) : List Turn → Disk → Prop
  | [], _ => True
  | t :: ts, d => (∀ i, t.Asks i → ¬excluded t i d) ∧ Never excluded ts (t.play d).2

/-- **What is ingested** from a file on a disk, or from the input if no file is named. -/
def Fed (input : Bytes) (d : Disk) (file : Option String) (raw : Bytes) : Prop :=
  match file with
  | some path => d.read path = .ok raw
  | none => input = raw

section Fed

variable {input raw : Bytes} {clock : Instant} {d : Disk} {sender : String} {file : Option String}

theorem deliveryOnDisk_of_fed (h : Fed input d file raw) :
    (Task.ingest sender file).deliveryOnDisk input clock d =
      .ok { octets := raw, receivedAt := clock } := by
  rcases file with _ | path
  · rw [← show input = raw from h]
    rfl
  · have hread : d.read path = .ok raw := h
    rw [Task.deliveryOnDisk, hread]
    rfl

/-- A delivery whose data have come to their end is what has been there to be ingested. -/
theorem fed_of_deliveryOnDisk {dl : Delivery}
    (h : (Task.ingest sender file).deliveryOnDisk input clock d = .ok dl)
    (hfailure : dl.failure = none) : Fed input d file dl.octets := by
  rcases file with _ | path
  · obtain rfl := Except.ok.inj h
    rfl
  · rw [Task.deliveryOnDisk] at h
    rcases hread : d.read path with e | raw <;> rw [hread] at h
    · cases e with
      | isDirectory =>
        obtain rfl := Except.ok.inj h
        exact absurd hfailure (by simp)
      | _ => exact absurd h (by simp [deliveryOf])
    · obtain rfl := Except.ok.inj h
      exact hread

end Fed

/-! ### Files with databases -/

/-- **The file at a place holds a database** whose tables have a property. -/
def KeptAt (P : Tables → Prop) (q : Place) (d : Disk) : Prop :=
  ∃ n tb, d.node? q = some (closedFile ⟨n, some tb⟩) ∧ n ≤ Store.schemaVersion ∧ P tb

variable {t : Turn} {i : Invocation} {d d' : Disk} {q : Place} {task : Task} {n : Nat} {tb : Tables}

/-- A turn that opens a database in a file writes back what its task has made of the tables. -/
theorem keptAt_of_opens {P : Tables → Prop} (ht : t.Asks i) (hi : i.command = .onStore task)
    (ho : t.Opens i d (some q) ⟨n, some tb⟩ d')
    (h : P (task.result t.style t.input t.clock d' tb).2) : KeptAt P q (t.play d).2 := by
  have hopened := ho
  obtain ⟨s, -, hopened⟩ := hopened
  have hdb := hopened.onDisk?_eq
  refine ⟨n, _, ?_, Database.schema_le hdb, h⟩
  rw [Turn.play_of_opens ht hi ho, Task.outcome_tables]
  exact Disk.node?_put_self (Disk.ne_root (Database.ne_directory hdb)) _

namespace KeptAt

variable {P : Tables → Prop}

theorem of_extends (h : KeptAt P q d) (hext : d.Extends d') : KeptAt P q d' := by
  obtain ⟨n, tb, hnode, hrest⟩ := h
  exact ⟨n, tb, hext.kept q _ hnode, hrest⟩

/-- A turn that opens the database finds the tables. -/
theorem of_opens (h : KeptAt P q d) {db : Database} (ho : t.Opens i d (some q) db d') :
    ∃ n tb, db = ⟨n, some tb⟩ ∧ P tb := by
  obtain ⟨n, tb, hnode, hschema, hP⟩ := h.of_extends (prepared_extends t.environment d)
  obtain ⟨s, -, hopened⟩ := ho
  have hdb := hopened.onDisk?_eq
  rw [Database.onDisk?_of_node? hnode hschema] at hdb
  exact ⟨n, tb, (Option.some.inj hdb).symm, hP⟩

/-- **A turn that comes to the file opens the database.** -/
theorem exists_opens (h : KeptAt P q d) (hcomes : t.ComesTo i d q) :
    ∃ n tb d', t.Opens i d (some q) ⟨n, some tb⟩ d' ∧ P tb := by
  obtain ⟨s, name, made, hs, hleads, -⟩ := hcomes
  obtain ⟨n, tb, hnode, hschema, hP⟩ := (h.of_extends (prepared_extends t.environment d)).of_extends
    (Database.directoryMade_extends hleads.directory)
  have hdb := Database.onDisk?_of_node? hnode hschema
  exact ⟨n, tb, _, ⟨s, hs, .file hleads hdb⟩, hP⟩

/-- **A turn keeps what its task keeps**, unless there is something unusual about it, or it saves
its settings in place of the database. -/
theorem play (h : KeptAt P q d) (t : Turn) (hordinary : ∀ i, t.Asks i → ¬t.Unusual i d)
    (hsaves : ∀ i, t.Asks i → ¬t.SavesAt i d q)
    (htask : ∀ i task n tb d', t.Asks i → i.command = .onStore task →
      t.Opens i d (some q) ⟨n, some tb⟩ d' → P tb →
        P (task.result t.style t.input t.clock d' tb).2) : KeptAt P q (t.play d).2 := by
  rcases t.disk_cases d with ⟨-, hext⟩ | ⟨i, made, y, s, ht, hsave, hext, hdisk⟩ |
    ⟨i, task, p, db, d', ht, hi, ho⟩
  · exact h.of_extends (hext hordinary)
  · -- settings are saved, but in another file
    have hne : q ≠ y := by
      rintro rfl
      exact hsaves i ht hsave
    obtain ⟨n, tb, hnode, hrest⟩ := h.of_extends hext
    rw [hdisk]
    exact ⟨n, tb, by rwa [Disk.node?_put_of_ne hne], hrest⟩
  · by_cases hq : some q = p
    · subst hq
      obtain ⟨n, tb, rfl, hP⟩ := h.of_opens ho
      exact keptAt_of_opens ht hi ho (htask i task n tb d' ht hi ho hP)
    · -- another database is opened; it may have no tables, but its file is another one
      obtain ⟨n, tb, hnode, hrest⟩ := h.of_extends (prepared_extends t.environment d)
      rw [Turn.play_of_opens ht hi ho]
      obtain ⟨s, hs, hopened⟩ := ho
      have hclear := Turn.not_crowded (hordinary i ht) hi hs
      exact ⟨n, tb, hopened.node?_writtenBack hclear hq hnode _, hrest⟩

/-- **Turns keep what every task keeps** that is not excluded. -/
theorem playAll {excluded : Turn → Invocation → Disk → Prop} {ts : List Turn} (h : KeptAt P q d)
    (hnever : Never (fun t i d => t.Unusual i d ∨ excluded t i d ∨ t.SavesAt i d q) ts d)
    (htask : ∀ (t : Turn) i d task n tb d', t.Asks i → i.command = .onStore task →
      t.Opens i d (some q) ⟨n, some tb⟩ d' → ¬excluded t i d → P tb →
        P (task.result t.style t.input t.clock d' tb).2) : KeptAt P q (playAll ts d) := by
  induction ts generalizing d with
  | nil => exact h
  | cons t ts ih =>
    obtain ⟨hnot, hnever⟩ := hnever
    refine ih (h.play t ?_ ?_ ?_) hnever
    · exact fun i ht hunusual => hnot i ht (.inl hunusual)
    · exact fun i ht hsave => hnot i ht (.inr (.inr hsave))
    · intro i task n tb d' ht hi ho hP
      exact htask t i d task n tb d' ht hi ho (fun hex => hnot i ht (.inr (.inl hex))) hP

end KeptAt

/-! ### What a task keeps -/

section Tasks

variable {id : String} {raw : Bytes}

/-- **A task leaves a message that is held**, unless its turn deletes it. -/
theorem holds_result (ht : t.Asks i) (hi : i.command = .onStore task)
    (ho : t.Opens i d (some q) ⟨n, some tb⟩ d') (hspared : ¬t.Deletes i d q id)
    (h : tb.Holds id raw) : (task.result t.style t.input t.clock d' tb).2.Holds id raw := by
  rcases task.result_cases t.style t.input t.clock d' tb with hsame |
    ⟨sender, file, dl, rfl, -, hresult⟩ | ⟨ids, rfl, hresult⟩
  · rwa [hsame]
  · rw [hresult]
    exact h.accept sender dl
  · have hid : id ∉ ids := by
      intro hid
      refine hspared ⟨ids, _, d', hi, hid, ho, ?_⟩
      rw [(Turn.tables_of_opens ht hi ho).1, hresult]
      rfl
    rw [hresult]
    exact h.filter hid

/-- **A task brings no message of an id**, unless its turn stores one. -/
theorem free_result (ht : t.Asks i) (hi : i.command = .onStore task)
    (ho : t.Opens i d (some q) ⟨n, some tb⟩ d') (hspared : ¬t.Stores i d q id)
    (h : tb.row? id = none) : (task.result t.style t.input t.clock d' tb).2.row? id = none := by
  rw [Tables.row?_eq_none] at h ⊢
  rcases task.result_cases t.style t.input t.clock d' tb with hsame |
    ⟨sender, file, dl, rfl, -, hresult⟩ | ⟨ids, rfl, hresult⟩
  · rwa [hsame]
  · rcases Tables.accept_cases sender dl tb with ⟨e, -, haccept⟩ |
      ⟨x, -, tb', ⟨⟨r, hadded, hr, -⟩, haccept⟩ | ⟨e, -, hmessages, haccept⟩⟩ <;>
      rw [haccept] at hresult
    · rwa [hresult]
    · rw [hresult]
      intro r' hr'
      rw [show (_, tb').2.messages = _ from hadded, List.mem_append, List.mem_singleton] at hr'
      rcases hr' with hr' | rfl
      · exact h r' hr'
      · rintro rfl
        refine hspared ⟨sender, file, _, d', hi, ho, ?_⟩
        rw [(Turn.tables_of_opens ht hi ho).1, hresult, hr]
        rfl
    · rw [hresult]
      exact fun r hr => h r (hmessages ▸ hr)
  · rw [hresult]
    exact fun r hr => h r (List.mem_filter.mp hr).1

end Tasks

/-! ### What turns are given -/

/-- **Turns that come to a file are given a message** that is kept there. -/
structure GivenBack (q : Place) (id : String) (raw : Bytes) (d : Disk) : Prop where
  whole : ∀ (t : Turn) i, t.Asks i → t.ComesTo i d q → i.command = .onStore (.raw id) →
    (t.play d).1 = { code := 0, output := raw }
  headers : ∀ (t : Turn) i, t.Asks i → t.ComesTo i d q → i.command = .onStore (.headers id) →
    (t.play d).1 = { code := 0, output := (Mailbox.split raw).1 }
  body : ∀ (t : Turn) i, t.Asks i → t.ComesTo i d q → i.command = .onStore (.body id) →
    (t.play d).1 = { code := 0, output := (Mailbox.split raw).2 }
  inspect : ∀ (t : Turn) i json, t.Asks i → t.ComesTo i d q →
    i.command = .onStore (.inspect id json) → (t.play d).1.code = 0
  /-- The same octets are turned away, but not as a fault of their sender. -/
  again : ∀ (t : Turn) i sender file p db d', t.Asks i → t.ComesTo i d q →
    i.command = .onStore (.ingest sender file) → (Sender.parse? sender).isSome →
    t.Opens i d p db d' → Fed t.input d' file raw → (t.play d).1 = { code := 1 }

/-- **A message is not there** for turns that come to a file. -/
structure Gone (q : Place) (id : String) (raw : Bytes) (d : Disk) : Prop where
  unknown : ∀ (t : Turn) i task, t.Asks i → t.ComesTo i d q → i.command = .onStore task →
    task.named? = some id → (t.play d).1 = { code := 1 }
  /-- The same octets can be ingested, and have the same id. -/
  again : ∀ (t : Turn) i sender file p db d', t.Asks i → t.ComesTo i d q →
    i.command = .onStore (.ingest sender file) → (Sender.parse? sender).isSome →
    t.Opens i d p db d' → Fed t.input d' file raw →
    (t.play d).1 = { code := 0, output := octets (line id) }

section Given

variable {id : String} {raw : Bytes} {envelope : Envelope} {P : Tables → Prop}

/-- A turn that comes to a file, and only reads, reports what it finds in the tables. -/
theorem KeptAt.report_of_reads (h : KeptAt P q d) (ht : t.Asks i) (hcomes : t.ComesTo i d q)
    (hi : i.command = .onStore task) (htask : task.Reads) :
    ∃ tb, P tb ∧ (t.play d).1 = .of (task.onTables t.style { octets := [] } tb).1 := by
  obtain ⟨n, tb, d', ho, hP⟩ := h.exists_opens hcomes
  refine ⟨tb, hP, ?_⟩
  rw [(Turn.tables_of_opens ht hi ho).1, Task.result_of_reads _ _ _ _ htask]

/-- A turn that comes to a file with octets that are a message, from whoever is a sender, reports
what becomes of their submission to the tables. -/
theorem KeptAt.report_of_fed (h : KeptAt P q d) {sender : String} {file : Option String}
    {p : Option Place} {db : Database} (ht : t.Asks i) (hcomes : t.ComesTo i d q)
    (hi : i.command = .onStore (.ingest sender file)) (hsender : (Sender.parse? sender).isSome)
    (henvelope : Envelope.parse raw = .ok envelope) (ho : t.Opens i d p db d')
    (hfed : Fed t.input d' file raw) :
    ∃ tb, P tb ∧ (t.play d).1 = match tb.row? (MessageId.ofContent raw) with
      | none => { code := 0, output := octets (line (MessageId.ofContent raw)) }
      | some r => { code := (Error.submission (Tables.clash r raw)).exitCode } := by
  obtain ⟨n, tb, e, ho', hP⟩ := h.exists_opens hcomes
  obtain ⟨rfl, rfl, rfl⟩ := ho.unique ho'
  obtain ⟨claimed, hclaimed⟩ := Option.isSome_iff_exists.mp hsender
  refine ⟨tb, hP, ?_⟩
  have hreading : Submission.reading sender { octets := raw, receivedAt := t.clock } =
      .ok (claimed, envelope) := Submission.reading_eq_ok_iff.mpr ⟨hclaimed, rfl, henvelope⟩
  have haccept := tb.eval_accept sender { octets := raw, receivedAt := t.clock }
  rw [hreading] at haccept
  dsimp only at haccept
  rw [(Turn.tables_of_opens ht hi ho).1, Task.result, deliveryOnDisk_of_fed hfed]
  dsimp only
  rw [Task.onTables_ingest, haccept]
  rcases tb.row? (MessageId.ofContent raw) with _ | r <;> rfl

/-- **A message that a file holds is given back.** -/
theorem givenBack_of_holds (h : KeptAt (Tables.Holds (MessageId.ofContent raw) raw) q d)
    (henvelope : Envelope.parse raw = .ok envelope) :
    GivenBack q (MessageId.ofContent raw) raw d where
  whole := by
    intro t i ht hcomes hi
    obtain ⟨tb, hheld, hreport⟩ := h.report_of_reads ht hcomes hi trivial
    rw [hreport, Task.onTables_raw, hheld.raw_eq, handedOut_some (MessageId.isValid_ofContent raw)]
    rfl
  headers := by
    intro t i ht hcomes hi
    obtain ⟨tb, hheld, hreport⟩ := h.report_of_reads ht hcomes hi trivial
    rw [hreport, Task.onTables_headers, hheld.raw_eq]
    exact congrArg Report.of (handedOut_some (MessageId.isValid_ofContent raw) _)
  body := by
    intro t i ht hcomes hi
    obtain ⟨tb, hheld, hreport⟩ := h.report_of_reads ht hcomes hi trivial
    rw [hreport, Task.onTables_body, hheld.raw_eq]
    exact congrArg Report.of (handedOut_some (MessageId.isValid_ofContent raw) _)
  inspect := by
    intro t i json ht hcomes hi
    obtain ⟨tb, hheld, hreport⟩ := h.report_of_reads ht hcomes hi trivial
    obtain ⟨m, a, hm, -, -, ha⟩ := hheld.message_eq
    rw [hreport, Task.onTables_inspect, Tables.detail_of_message hm ha,
      handedOut_some (MessageId.isValid_ofContent raw)]
    rfl
  again := by
    intro t i sender file p db d' ht hcomes hi hsender ho hfed
    obtain ⟨tb, ⟨r, a, hr, hpayload, -⟩, hreport⟩ :=
      h.report_of_fed ht hcomes hi hsender henvelope ho hfed
    rw [hreport, hr]
    dsimp only
    rw [Tables.clash_of_packed hpayload]
    rfl

/-- **A message that a file does not hold is gone.** -/
theorem gone_of_free (h : KeptAt (fun tb => tb.row? (MessageId.ofContent raw) = none) q d)
    (henvelope : Envelope.parse raw = .ok envelope) : Gone q (MessageId.ofContent raw) raw d where
  unknown := by
    intro t i task ht hcomes hi hnamed
    obtain ⟨tb, hfree, hreport⟩ := h.report_of_reads ht hcomes hi (Task.reads_of_named hnamed)
    obtain ⟨e, he, hone⟩ :=
      Task.onTables_of_unknown t.style { octets := [] } tb hnamed (.inr hfree)
    rw [hreport, he, Report.of, hone]
  again := by
    intro t i sender file p db d' ht hcomes hi hsender ho hfed
    obtain ⟨tb, hfree, hreport⟩ := h.report_of_fed ht hcomes hi hsender henvelope ho hfed
    rw [hreport, hfree]

end Given

/-! ### Keeping -/

namespace Turn

variable {sender : String} {file : Option String}

/-- **A turn that ingests**, and succeeds, has been fed a message, says its id, and leaves it held
by the tables, if those are in a file. -/
theorem exists_of_ingest (ht : t.Asks i)
    (hi : i.command = .onStore (.ingest sender file)) (hcode : (t.play d).1.code = 0) :
    ∃ p db d' raw envelope, t.Opens i d p db d' ∧ Fed t.input d' file raw ∧
      Envelope.parse raw = .ok envelope ∧
      (t.play d).1 = { code := 0, output := octets (line (MessageId.ofContent raw)) } ∧
      ∀ q, p = some q → KeptAt (Tables.Holds (MessageId.ofContent raw) raw) q (t.play d).2 := by
  rcases play_cases ht hi d with ⟨p, db, d', ho⟩ | ⟨-, hreport, -⟩
  swap
  · exact absurd (hcode.symm.trans (congrArg Report.code hreport)) (by decide)
  obtain ⟨n, _ | tb⟩ := db
  · -- without tables the turn could not have succeeded
    obtain ⟨e, he⟩ := Task.exists_outcome_error t.style t.input t.clock d' sender file n
    rw [play_of_opens ht hi ho, he] at hcode
    exact absurd hcode e.exitCode_ne_zero
  have hreport := (tables_of_opens ht hi ho).1
  rw [hreport] at hcode
  obtain ⟨output, houtput⟩ := Report.exists_of_code_eq_zero hcode
  obtain ⟨dl, id, hdl, haccept, rfl, hafter⟩ := Task.exists_of_result_ok _ _ _ _ houtput
  obtain ⟨⟨⟨claimed, envelope⟩, hreading⟩, rfl, hheld⟩ := Tables.holds_of_accept haccept
  obtain ⟨-, hfailure, henvelope⟩ := Submission.reading_eq_ok_iff.mp hreading
  refine ⟨p, _, d', dl.octets, envelope, ho, fed_of_deliveryOnDisk hdl hfailure, henvelope, ?_, ?_⟩
  · rw [hreport, houtput]
    rfl
  · rintro q rfl
    exact keptAt_of_opens ht hi ho (hafter ▸ hheld)

/-- **A message that a turn deletes** is not in the file any more. -/
theorem keptAt_of_deletes {P : Tables → Prop} {id : String} (h : KeptAt P q d) (ht : t.Asks i)
    (hdeletes : t.Deletes i d q id) :
    KeptAt (fun tb => tb.row? id = none) q (t.play d).2 := by
  obtain ⟨ids, db, d', hi, hid, ho, hcode⟩ := hdeletes
  obtain ⟨n, tb, rfl, -⟩ := h.of_opens ho
  refine keptAt_of_opens ht hi ho (Tables.row?_eq_none.mpr ?_)
  rw [(tables_of_opens ht hi ho).1] at hcode
  have hresult : (Task.delete ids).result t.style t.input t.clock d' tb =
      (Task.delete ids).onTables t.style { octets := [] } tb := rfl
  rw [hresult, Task.onTables_delete] at hcode ⊢
  rcases hids : ids.find? fun text => !MessageId.isValid text with _ | text <;> rw [hids] at hcode
  · rintro r hr rfl
    exact of_decide_eq_true (List.mem_filter.mp hr).2 hid
  · exact absurd hcode (Error.exitCode_ne_zero (.malformedId text))

/-- **What is stored is given back.** A turn that ingests, and succeeds, says the id of the octets
that it has been fed. If its database is in a file, then turns whose settings name the database by
the same path come to the file later, if the path is no URI or is passable, and every turn that
comes to the file is given the octets back, unless a turn has deleted the message, or has saved its
settings in the file; and after a turn has deleted it, the message is gone, unless a turn has stored
it again, or has saved its settings in the file. There may be nothing unusual about any of these
turns. -/
theorem keeping (d : Disk) (ht : t.Asks i) (hi : i.command = .onStore (.ingest sender file))
    (hordinary : ¬t.Unusual i d) (hcode : (t.play d).1.code = 0) :
    ∃ p db d' raw, t.Opens i d p db d' ∧ Fed t.input d' file raw ∧
      let id := MessageId.ofContent raw
      MessageId.isValid id ∧ (t.play d).1 = { code := 0, output := octets (line id) } ∧
      ∀ q, p = some q → t.ComesTo i d q ∧ ∀ us : List Turn,
        (∀ s (u : Turn) j s', i.settingsOnDisk t.environment (prepared t.environment d) = .ok s →
          j.settingsOnDisk u.environment (prepared u.environment (playAll us (t.play d).2)) =
            .ok s' →
          s'.databasePath = s.databasePath →
          ("file:".toList <+: s.databasePath.toList →
            Passable s.databasePath (prepared u.environment (playAll us (t.play d).2))) →
          ¬u.Unusual j (playAll us (t.play d).2) → u.ComesTo j (playAll us (t.play d).2) q) ∧
        (Never (fun u j e => u.Unusual j e ∨ u.Deletes j e q id ∨ u.SavesAt j e q) us
            (t.play d).2 →
          GivenBack q id raw (playAll us (t.play d).2) ∧
          ∀ (v : Turn) j, v.Asks j → v.ComesTo j (playAll us (t.play d).2) q →
            v.Deletes j (playAll us (t.play d).2) q id → ∀ ws : List Turn,
              Never (fun w k e => w.Unusual k e ∨ w.Stores k e q id ∨ w.SavesAt k e q) ws
                (v.play (playAll us (t.play d).2)).2 →
              Gone q id raw (playAll ws (v.play (playAll us (t.play d).2)).2)) := by
  obtain ⟨p, db, d', raw, envelope, ho, hfed, henvelope, hreport, hkept⟩ :=
    exists_of_ingest ht hi hcode
  refine ⟨p, db, d', raw, ho, hfed, MessageId.isValid_ofContent raw, hreport, ?_⟩
  intro q hq
  subst hq
  refine ⟨ho.comesTo hordinary, fun us => ⟨fun s u j s' hs hs' hpath hpassable hordinary' =>
    comesTo_of_opens ht hi ho hs us hs' hpath hpassable hordinary', fun hus => ?_⟩⟩
  -- the file holds the message up to the deletion, and has no row with its id from then on
  have hheld := (hkept q rfl).playAll hus fun u j e task n tb e' hu hj ho hnot hheld =>
    holds_result hu hj ho hnot hheld
  refine ⟨givenBack_of_holds hheld henvelope, ?_⟩
  intro v j hv _ hdeletes ws hws
  have hfree := (keptAt_of_deletes hheld hv hdeletes).playAll hws
    fun w k e task n tb e' hw hk ho hnot hfree => free_result hw hk ho hnot hfree
  exact gone_of_free hfree henvelope

/-- A message is given back after the messages have been counted. -/
theorem keeping_counted :
    let t : Turn :=
      { style := .calendar, environment := ⟨"/c", none, {}⟩, input := octets "To: c\n\nd"
        arguments := ["--database", "m", "ingest", "--from", "a@b"] }
    let u : Turn := { t with arguments := ["--database", "m", "count"] }
    let v : Turn :=
      { t with arguments := ["--database", "m", "raw", MessageId.ofContent t.input] }
    GivenBack [['m']] (MessageId.ofContent t.input) t.input (u.play (t.play {}).2).2 ∧
      (v.play (u.play (t.play {}).2).2).1 = { code := 0, output := t.input } := by
  intro t u v
  have ht : t.Asks ⟨none, some "m", .onStore (.ingest "a@b" none)⟩ := by
    rw [Asks]
    decide +kernel
  have hu : u.Asks ⟨none, some "m", .onStore .count⟩ := by
    rw [Asks]
    decide +kernel
  have hv : v.Asks ⟨none, some "m", .onStore (.raw (MessageId.ofContent t.input))⟩ := by
    rw [Asks]
    decide +kernel
  have hnew : onDisk? (prepared t.environment {}) [['m']] = some Database.fresh := by
    have hnode : (prepared t.environment {}).node? [['m']] = none := by decide +kernel
    rw [onDisk?, hnode]
  have hopens : t.Opens ⟨none, some "m", .onStore (.ingest "a@b" none)⟩ {} (some [['m']])
      Database.fresh _ :=
    ⟨⟨"m", 3⟩, by decide +kernel, .file (Database.leadsTo_of_resolve (by decide) (by decide)
      (by decide) (by decide +kernel)) hnew⟩
  -- as long as nothing stands beside the database, there is nothing unusual about these turns
  have hordinary (arguments : List String) (task : Task)
      (hfeeds : ∀ name made, ¬task.FeedsOn name made) {d : Disk}
      (h : (⟨none, some "m", .onStore task⟩ : Invocation).settingsOnDisk t.environment
          (prepared t.environment d) = .ok ⟨"m", 3⟩ ∧
        ∀ e ∈ Database.endings, (prepared t.environment d).present ("m" ++ e) = false) :
      ¬({ t with arguments } : Turn).Unusual ⟨none, some "m", .onStore task⟩ d := by
    have hmade := Database.directoryMade_of_parent (by decide +kernel : Path.parent? "m" = _)
      (prepared t.environment d)
    refine not_unusual h.1 (by decide +kernel : _ = some "m") hmade h.2 fun task' htask' => ?_
    obtain rfl := Command.onStore.inj htask'
    exact hfeeds _ _
  obtain ⟨p, db, d', raw, ho, hfed, -, -, hgiven⟩ :=
    keeping {} ht rfl (hordinary t.arguments (.ingest _ none) (fun _ _ => id) (by decide +kernel))
      (by decide +kernel)
  obtain rfl : t.input = raw := hfed
  obtain ⟨hcomes, hkept⟩ := (hgiven _ (ho.unique hopens).1).2 [u]
  have hback := (hkept ⟨fun j hj => ?_, trivial⟩).1
  · refine ⟨hback, hback.whole v _ hv (hcomes ⟨"m", 3⟩ v _ ⟨"m", 3⟩ ?_ ?_ rfl ?_ ?_) rfl⟩
    · decide +kernel
    · decide +kernel
    · exact fun huri => absurd huri (by decide)
    · exact hordinary _ (.raw _) (fun _ _ => id) (by decide +kernel)
  · obtain rfl := Except.ok.inj (hu.symm.trans hj)
    rintro (hunusual | ⟨ids, db, e, hcommand, -⟩ | ⟨hcommand, -⟩)
    · exact hordinary _ .count (fun _ _ => id) (by decide +kernel) hunusual
    · exact absurd hcommand (by simp)
    · exact absurd hcommand (by simp)

/-- **Not everything that is stored is given back**: what is stored in memory is gone with its turn,
also where a URI says so; a URI that leads back through its own file does not lead there again; what
is stored in the file of the usual settings is gone when settings are saved; and what is stored
beside another database is gone when that is opened. No turn deletes anything here. -/
theorem not_keeping :
    let id := "5g5bFiiiliyrOsOr_5WrluaHbLfr3viw4s4E2cJEeK8"
    let turn (arguments : List String) : Turn :=
      { style := .calendar, environment := ⟨"/c", none, {}⟩, input := octets "To: c\n\nd"
        arguments := "--config" :: "c.json" :: arguments }
    let d : Disk := Disk.put {} ["c.json".toList] (.file (octets "\x7b\x7d"))
    let ingest (path : String) := turn ["--database", path, "ingest", "--from", "a@b"]
    let raw (path : String) := turn ["--database", path, "raw", id]
    let save := turn ["config", "--write"]
    let count := turn ["--database", "j", "count"]
    let path := "/c/mailsink/mailsink.json"
    (∀ p ∈ [":memory:", "file::memory:", "file:m/x/..", path, "j-journal"],
      (raw p).Asks ⟨some "c.json", some p, .onStore (.raw id)⟩ ∧
      ((ingest p).play d).1 = { code := 0, output := octets (line id) }) ∧
    save.Asks ⟨some "c.json", none, .settings true⟩ ∧
    count.Asks ⟨some "c.json", some "j", .onStore .count⟩ ∧
    (∀ p ∈ [":memory:", "file::memory:", "file:m/x/.."],
      ((raw p).play (playAll [ingest p] d)).1 = { code := 1 }) ∧
    (save.play (playAll [ingest path] d)).1.code = 0 ∧
      ((raw path).play (playAll [ingest path, save] d)).1 = { code := 1 } ∧
    (count.play (playAll [ingest "j-journal"] d)).1.code = 0 ∧
      ((raw "j-journal").play (playAll [ingest "j-journal", count] d)).1 = { code := 1 } := by
  simp only [Asks]
  refine ⟨?_, ?_, ?_, ?_, ?_, ?_, ?_, ?_⟩ <;> decide +kernel

end Turn

end Maildrop.CommandLine
