import Maildrop.Proofs.Host.Action
import Maildrop.Proofs.Host.Path
import Maildrop.Proofs.Store.Location
import Maildrop.Store.File

/-!
# Databases on a disk

A database in a file is opened, used and written back. Seen from the disk, there is at every place
a database that opening would find (`Maildrop.Store.Database.onDisk?`): a new one where nothing is,
and none where there is a directory or a file with something else. Opening a path either comes to
the database at the place to which the path leads, which it writes there for a start, or it fails
(`Maildrop.Store.Database.openFile_cases`). Once a database is open, writing it back cannot fail
(`Maildrop.Store.Database.Opened.eval_closeFile`).

None of the detours of a path may lead through a file (`Maildrop.Store.Database.Passable`). Where a
path has led it goes on to lead as long as that is so, which it is for good unless the path is a URI
(`Maildrop.Store.Database.LeadsTo.passable_again`): the directory that is made for a URI is not the
one in which its file is.

Beside the file of a database there are places for files of its own. If something stands at one of
them (`Maildrop.Store.Database.Crowded`), opening the database does away with it, even if it is
the file of another database. Otherwise opening makes directories at most before it writes the
database.

The rows at a place (`Maildrop.Store.Tables.onDisk`) are those of the tables at it; there are none
where there is no database. Opening a database and writing it back leaves the rows of all other
places alone, if nothing stands where its own files go
(`Maildrop.Store.Database.Opened.tables_writtenBack`).
-/

namespace Maildrop.Store

open Host (Disk Node Place)

/-! ### Databases at places -/

namespace Database

/-- A new database. -/
def fresh : Database := { schema := schemaVersion, tables := some {} }

/-- **The database at a place**, as opening it would find it. -/
def onDisk? (d : Disk) (q : Place) : Option Database :=
  match d.node? q with
  | none => some fresh
  | some .directory => none
  | some (.file content) =>
    (DatabaseFile.ofOctets? content).bind fun f =>
      match f.migrate with
      | .ok db => some db
      | .error _ => none

/-- The file of a database that nothing has open. -/
def closedFile (db : Database) : Node := .file (DatabaseFile.later db).octets

variable {d d' made : Disk} {q y : Place} {db db' : Database} {path : String}

/-- A database that can be opened is of no later version. -/
theorem schema_le (h : onDisk? d q = some db) : db.schema ≤ schemaVersion := by
  rw [onDisk?] at h
  split at h
  · obtain rfl := Option.some.inj h
    exact Nat.le_refl _
  · exact absurd h (by simp)
  · obtain ⟨f, -, hf⟩ := Option.bind_eq_some_iff.mp h
    rcases hmigrate : f.migrate with e | db' <;> rw [hmigrate] at hf
    · exact absurd hf (by simp)
    · obtain rfl := Option.some.inj hf
      rcases f with _ | t | db
      · obtain rfl := Except.ok.inj hmigrate
        exact Nat.le_refl _
      · obtain rfl := Except.ok.inj hmigrate
        exact Nat.le_refl _
      · rw [DatabaseFile.migrate] at hmigrate
        split at hmigrate
        · exact absurd hmigrate (by simp)
        · obtain rfl := Except.ok.inj hmigrate
          omega

/-- A database is found in the file that it has been closed with. -/
theorem onDisk?_of_node? (hq : d.node? q = some db.closedFile) (h : db.schema ≤ schemaVersion) :
    onDisk? d q = some db := by
  have hmigrate : (DatabaseFile.later db).migrate = .ok db := if_neg (by omega)
  rw [onDisk?, hq, closedFile]
  dsimp only
  rw [DatabaseFile.ofOctets?_octets, Option.bind_some, hmigrate]

theorem onDisk?_put_of_ne (h : y ≠ q) (n : Node) : onDisk? (d.put q n) y = onDisk? d y := by
  rw [onDisk?, onDisk?, Disk.node?_put_of_ne h]

/-- Where no file comes, a database that can be opened has been there, or is new. -/
theorem onDisk?_of_bringsNoFile (h : d.BringsNoFile d') (hdb : onDisk? d' q = some db) :
    onDisk? d q = some db ∨ db = fresh := by
  rw [onDisk?] at hdb
  rcases hq : d'.node? q with _ | _ | content <;> rw [hq] at hdb
  · exact .inr (Option.some.inj hdb).symm
  · exact absurd hdb (by simp)
  · refine .inl ?_
    rwa [onDisk?, h q content hq]

/-- Where directories come, a database that can still be opened is the one that was there. -/
theorem onDisk?_of_extends (h : d.Extends d') (hdb : onDisk? d' q = some db) :
    onDisk? d q = some db := by
  rw [onDisk?] at hdb ⊢
  rcases hq : d.node? q with _ | n
  · rcases h.added q hq with hn | hn <;> rw [hn] at hdb
    · exact hdb
    · exact absurd hdb (by simp)
  · rwa [h.kept q n hq] at hdb

end Database

/-- **The rows at a place** of a disk. -/
def Tables.onDisk (d : Disk) (q : Place) : Tables :=
  ((Database.onDisk? d q).bind Database.tables).getD {}

namespace Tables

variable {d d' : Disk} {q y : Place} {db : Database}

theorem onDisk_eq {n : Nat} {t : Tables} (h : Database.onDisk? d q = some ⟨n, some t⟩) :
    onDisk d q = t := by
  rw [onDisk, h]
  rfl

theorem onDisk_put_of_ne (h : y ≠ q) (n : Node) : onDisk (d.put q n) y = onDisk d y := by
  rw [onDisk, onDisk, Database.onDisk?_put_of_ne h]

/-- **Directories that come bring and take no rows.** -/
theorem onDisk_of_extends (h : d.Extends d') (q : Place) : onDisk d' q = onDisk d q := by
  rw [onDisk, onDisk, Database.onDisk?, Database.onDisk?]
  rcases hq : d.node? q with _ | n
  · rcases h.added q hq with hn | hn
    · rw [hn]
    · rw [hn]
      rfl
  · rw [h.kept q n hq]

end Tables

/-! ### Opening and closing -/

namespace Database

/-- The disk with the directory in which a database is kept. -/
def directoryMade (d : Disk) (path : String) : Except DiskError Disk :=
  match Path.parent? path with
  | some "" | none => .ok d
  | some directory =>
    if directory.toList.contains '\x00' then .error .embeddedNul else d.makeDirectories directory

/-- **A path is passable**: none of its detours leads through a file. -/
def Passable (path : String) (d : Disk) : Prop :=
  ∀ detour ∈ detours path, d.resolve detour ≠ .error .notDirectory

/-- **A path leads to a place**: the disk with its directory, the path of its file, and the place of
that. -/
structure LeadsTo (path : String) (d made : Disk) (name : String) (q : Place) : Prop where
  file : fileOf? path = some name
  directory : directoryMade d path = .ok made
  passable : Passable path made
  resolve : made.resolve name = .ok q

/-- **Something stands where a database keeps files of its own** as long as it is open. -/
def Crowded (path : String) (d : Disk) : Prop :=
  ∃ name made, fileOf? path = some name ∧ directoryMade d path = .ok made ∧
    ∃ e ∈ endings, made.present (name ++ e) = true

/-- The disk without the files whose names have one of the given endings behind a name. -/
def swept (name : String) : List String → Disk → Disk
  | [], d => d
  | e :: es, d => swept name es (d.changed (d.remove (name ++ e))).2

/-- **A path has been opened**: the place of its file, if it has one, the database, and the disk
afterwards. -/
inductive Opened (path : String) (d : Disk) : Option Place → Database → Disk → Prop where
  /-- A database that is kept nowhere is new. -/
  | inMemory {made : Disk} (hlocation : location path = .ok .memory)
    (hmade : directoryMade d path = .ok made) : Opened path d none fresh made
  /-- A database in a file is the one at the place to which the path leads. -/
  | file {made : Disk} {name : String} {q : Place} {db : Database}
    (hleads : LeadsTo path d made name q) (hdb : onDisk? made q = some db) :
    Opened path d (some q) db ((swept name endings made).put q db.closedFile)

/-- The disk with an open database written back, if it is kept at a place. -/
def writtenBack (d : Disk) (q : Option Place) (db : Database) : Disk :=
  match q with
  | some q => d.put q db.closedFile
  | none => d

variable {d d' made : Disk} {p : Option Place} {q y : Place} {db db' : Database}
  {path name : String}

/-- **The directory of a path is made**, if there is one and no NUL in its path. -/
theorem directoryMade_eq_ok_iff : directoryMade d path = .ok made ↔
    Path.parent? path = none ∧ made = d ∨ ∃ directory, Path.parent? path = some directory ∧
      '\x00' ∉ directory.toList ∧ d.makeDirectories directory = .ok made := by
  rw [directoryMade]
  split
  · next hempty =>
    have hmake : d.makeDirectories "" = .ok d := rfl
    simp [hempty, hmake]
  · next hnone => simp [hnone, eq_comm]
  · next hsome =>
    rw [hsome]
    split <;> simp_all

theorem directoryMade_extends (h : directoryMade d path = .ok made) : d.Extends made := by
  rcases directoryMade_eq_ok_iff.mp h with ⟨-, rfl⟩ | ⟨directory, -, -, hmake⟩
  · exact .refl made
  · exact Disk.makeDirectories_extends hmake

/-- No directory is made for a path in the working directory. -/
theorem directoryMade_of_parent (h : Path.parent? path = some "") (d : Disk) :
    directoryMade d path = .ok d :=
  directoryMade_eq_ok_iff.mpr (.inr ⟨"", h, by simp, rfl⟩)

/-- A directory that has been made need not be made again. -/
theorem directoryMade_again (h : directoryMade d path = .ok made) (hgrows : made.Grows d') :
    directoryMade d' path = .ok d' := by
  rw [directoryMade_eq_ok_iff] at h ⊢
  rcases h with ⟨hnone, -⟩ | ⟨directory, hparent, hnul, hmake⟩
  · exact .inl ⟨hnone, rfl⟩
  · exact .inr ⟨directory, hparent, hnul, Disk.makeDirectories_again hmake hgrows⟩

theorem LeadsTo.location_eq (h : LeadsTo path d made name q) :
    location path = .ok (.file name (detours path)) := by
  have hfile := h.file
  rw [fileOf?] at hfile
  split at hfile
  · next hlocation => rw [detours, hlocation, Option.some.inj hfile]
  · exact absurd hfile (by simp)

/-- A path leads to one place at most. -/
theorem LeadsTo.unique (h : LeadsTo path d made name q) {made' : Disk} {name' : String} {q' : Place}
    (h' : LeadsTo path d made' name' q') : made = made' ∧ name = name' ∧ q = q' := by
  obtain rfl := Except.ok.inj (h.directory.symm.trans h'.directory)
  obtain rfl := Option.some.inj (h.file.symm.trans h'.file)
  exact ⟨rfl, rfl, Except.ok.inj (h.resolve.symm.trans h'.resolve)⟩

/-- **Where a path has led, it goes on to lead**, as long as it is passable. -/
theorem LeadsTo.again (h : LeadsTo path d made name q) (hgrows : made.Grows d')
    (hpassable : Passable path d') : LeadsTo path d' d' name q :=
  ⟨h.file, directoryMade_again h.directory hgrows, hpassable, hgrows.resolve h.resolve⟩

/-- A path is passable if its detours lead somewhere. -/
theorem passable_of_resolve (h : ∀ detour ∈ detours path, ∃ y, d.resolve detour = .ok y) :
    Passable path d := by
  intro detour hdetour
  obtain ⟨y, hy⟩ := h detour hdetour
  rw [hy]
  simp

/-- What is not a URI is taken as it is. -/
theorem LeadsTo.of_plain (h : LeadsTo path d made name q)
    (hfile : ¬"file:".toList <+: path.toList) :
    name = Path.normal path ∧ detours path = Path.detours path := by
  have hlocation := h.location_eq
  have hnul : '\x00' ∉ path.toList := by
    intro hnul
    have hzero : (Utf8.encode path.toList).contains 0 = true := by
      simpa using Utf8.zero_mem_encode_iff.mpr hnul
    rw [location, if_pos hzero] at hlocation
    exact absurd hlocation (by simp)
  rw [location_of_plain hnul hfile, Location.ofName] at hlocation
  split at hlocation
  · exact absurd hlocation (by simp)
  · obtain ⟨rfl, hdetours⟩ := Location.file.inj (Except.ok.inj hlocation)
    exact ⟨rfl, hdetours.symm⟩

/-- **What is not a URI stays passable**, since its directory stays. -/
theorem LeadsTo.passable_again (h : LeadsTo path d made name q) (hgrows : made.Grows d')
    (hfile : ¬"file:".toList <+: path.toList) : Passable path d' := by
  obtain ⟨rfl, hdetours⟩ := h.of_plain hfile
  have hstart := Disk.start_directory_of_normal (hgrows.resolve h.resolve)
  have hmade := directoryMade_again h.directory hgrows
  refine passable_of_resolve fun detour hdetour => ?_
  rw [hdetours] at hdetour
  rcases directoryMade_eq_ok_iff.mp hmade with ⟨hnone, -⟩ | ⟨directory, hparent, -, hmake⟩
  · rw [Path.detours_of_parent_none hnone] at hdetour
    exact absurd hdetour List.not_mem_nil
  · exact Disk.resolve_of_mem_detours_of_parent hstart hparent hmake hdetour

/-- Where a database can be opened there is no directory. -/
theorem ne_directory (h : onDisk? d q = some db) : d.node? q ≠ some .directory := by
  intro hq
  rw [onDisk?, hq] at h
  exact absurd h (by simp)

/-! ### The files of an open database -/

/-- What is somewhere after a sweep has been there before. -/
theorem node?_swept (name : String) (es : List String) (d : Disk) (y : Place) :
    (swept name es d).node? y = d.node? y ∨ (swept name es d).node? y = none := by
  induction es generalizing d with
  | nil => exact .inl rfl
  | cons e es ih =>
    rcases ih (d.changed (d.remove (name ++ e))).2 with h | h
    · rw [swept, h]
      exact Disk.node?_changed_remove d y
    · exact .inr h

theorem bringsNoFile_swept (name : String) (es : List String) (d : Disk) :
    d.BringsNoFile (swept name es d) := by
  intro y content hy
  rcases node?_swept name es d y with h | h
  · exact h.symm.trans hy
  · exact absurd (hy.symm.trans h) (by simp)

theorem node?_swept_ne_directory (name : String) (es : List String)
    (h : d.node? q ≠ some .directory) : (swept name es d).node? q ≠ some .directory := by
  rcases node?_swept name es d q with hq | hq <;> rw [hq]
  · exact h
  · simp

theorem grows_swept (name : String) (es : List String) (d : Disk) :
    d.Grows (swept name es d) := by
  induction es generalizing d with
  | nil => exact .refl d
  | cons e es ih => exact (Disk.grows_step [] 0 (.remove (name ++ e)) d).trans (ih _)

/-- A sweep brings no directories. -/
theorem grows_of_swept (name : String) (es : List String) (d : Disk) :
    (swept name es d).Grows d where
  workingDirectory := (grows_swept name es d).workingDirectory.symm
  directory z hz := by
    rcases node?_swept name es d z with h | h
    · exact h.symm.trans hz
    · exact absurd (hz.symm.trans h) (by simp)

/-- Where nothing stands, nothing is swept away. -/
theorem swept_eq {es : List String} (h : ∀ e ∈ es, d.present (name ++ e) = false) :
    swept name es d = d := by
  induction es with
  | nil => rfl
  | cons e es ih =>
    rw [swept, Disk.changed_remove (h e List.mem_cons_self)]
    exact ih fun e he => h e (List.mem_cons_of_mem _ he)

/-- A database that nothing stands in the way of is opened without a sweep. -/
theorem swept_of_not_crowded (hfile : fileOf? path = some name)
    (hmade : directoryMade d path = .ok made) (hclear : ¬Crowded path d) :
    swept name endings made = made :=
  swept_eq fun e he => Bool.eq_false_iff.mpr fun hpresent =>
    hclear ⟨name, made, hfile, hmade, e, he, hpresent⟩

section Eval

variable (input : Bytes) (clock : Instant)

/-- The directory of a database is made if the disk lets it be made. -/
theorem eval_makeDirectory (d : Disk) (path : String) :
    ∃ onFailure : DiskError → Failure, (makeDirectory path).eval (Disk.host input clock) d =
      match directoryMade d path with
      | .ok made => (.ok (), made)
      | .error e => (.error (onFailure e), d) := by
  rw [makeDirectory, directoryMade]
  rcases Path.parent? path with _ | directory
  · exact ⟨fun e => ⟨.disk e, []⟩, rfl⟩
  by_cases hempty : directory = ""
  · subst hempty
    exact ⟨fun e => ⟨.disk e, []⟩, rfl⟩
  · refine ⟨fun e => ⟨.disk e, [.createDirectory directory]⟩, ?_⟩
    simp only
    split
    · rfl
    · rcases hd : d.makeDirectories directory with e | made
      · exact Host.Action.eval_makeDirectories_error input clock hd _
      · exact Host.Action.eval_makeDirectories_ok input clock hd _

theorem eval_sweep (name : String) (es : List String) (d : Disk) :
    (sweep name es).eval (Disk.host input clock) d = (.ok (), swept name es d) := by
  induction es generalizing d with
  | nil => rfl
  | cons e es ih =>
    rw [sweep, Host.Action.eval_bind_ok (Host.Action.eval_ask ..)]
    exact ih _

/-- A detour is gone, unless it leads through a file. -/
theorem passed_read (path : String) (d : Disk) (detour : String) :
    d.resolve detour ≠ .error .notDirectory ∧ passed path (d.read detour) = .ok () ∨
      d.resolve detour = .error .notDirectory ∧
        passed path (d.read detour) = .error (unopenable path) := by
  rw [Disk.read]
  rcases d.resolve detour with e | q
  · cases e with
    | notDirectory => exact .inr ⟨rfl, rfl⟩
    | _ => exact .inl ⟨by simp, rfl⟩
  · refine .inl ⟨by simp, ?_⟩
    dsimp only
    rcases d.node? q with _ | _ | content <;> rfl

/-- All detours are gone, or one of them leads through a file. -/
theorem eval_goAround (path : String) (ds : List String) (d : Disk) :
    (∀ detour ∈ ds, d.resolve detour ≠ .error .notDirectory) ∧
        (goAround path ds).eval (Disk.host input clock) d = (.ok (), d) ∨
      (¬∀ detour ∈ ds, d.resolve detour ≠ .error .notDirectory) ∧
        (goAround path ds).eval (Disk.host input clock) d = (.error (unopenable path), d) := by
  induction ds with
  | nil => exact .inl ⟨by simp, rfl⟩
  | cons detour ds ih =>
    rw [goAround, Host.Action.eval_bind_ok (Host.Action.eval_ask ..)]
    change _ ∧ (Host.Action.lift (passed path (d.read detour)) >>= fun _ =>
        goAround path ds).eval _ d = _ ∨
      _ ∧ (Host.Action.lift (passed path (d.read detour)) >>= fun _ =>
        goAround path ds).eval _ d = _
    simp only [List.forall_mem_cons]
    rcases passed_read path d detour with ⟨hdetour, hpassed⟩ | ⟨hdetour, hpassed⟩ <;> rw [hpassed]
    · rw [Host.Action.eval_bind_ok (Host.Action.eval_lift ..)]
      exact ih.imp (And.imp_left fun h => ⟨hdetour, h⟩) (And.imp_left fun h hall => h hall.2)
    · exact .inr ⟨fun hall => hall.1 hdetour, rfl⟩

/-- What is read from the file of a database, if its path is passable. -/
theorem eval_readFile {ds : List String} (h : location path = .ok (.file name ds)) (d : Disk) :
    Passable path d ∧ (readFile path).eval (Disk.host input clock) d =
        (match contentOf path (d.read name) with
        | .ok content => (ofOctets content, swept name endings d)
        | .error f => (.error f, d)) ∨
      ¬Passable path d ∧
        (readFile path).eval (Disk.host input clock) d = (.error (unopenable path), d) := by
  rw [readFile, Passable, Database.detours, h]
  refine (eval_goAround input clock path ds d).imp (And.imp_right fun hgone => ?_)
    (And.imp_right fun hblocked => Host.Action.eval_bind_error hblocked _)
  dsimp only
  rw [Host.Action.eval_bind_ok hgone, Host.Action.eval_bind_ok (Host.Action.eval_ask ..)]
  change (Host.Action.lift (contentOf path (d.read name)) >>= fun octets =>
    sweep name endings >>= fun _ => Host.Action.lift (ofOctets octets)).eval _ d = _
  rcases hcontent : contentOf path (d.read name) with f | content
  · rfl
  · rw [Host.Action.eval_bind_ok (Host.Action.eval_lift ..),
      Host.Action.eval_bind_ok (eval_sweep ..), Host.Action.eval_lift]

/-- The disk lets a database be written where its path leads, unless a directory is there. -/
theorem eval_writeFile (hfile : fileOf? path = some name) (hq : d.resolve name = .ok q)
    (hdirectory : d.node? q ≠ some .directory) (db : Database) :
    (writeFile path (.later db)).eval (Disk.host input clock) d =
      (.ok (), d.put q db.closedFile) := by
  have hslash := Disk.getLast?_ne_slash hq hdirectory
  rw [writeFile, hfile]
  exact Host.Action.eval_write_ok input clock
    (Disk.write_eq_ok_iff.mpr ⟨hslash, q, hq, hdirectory, rfl⟩) _

/-- What is read where a path leads is the database there, if there is one. -/
theorem contentOf_read (path : String) (hq : d.resolve name = .ok q) :
    ((contentOf path (d.read name)).bind ofOctets).bind DatabaseFile.migrate = .ok db ↔
      onDisk? d q = some db := by
  rw [Disk.read, hq, onDisk?]
  dsimp only
  rcases d.node? q with _ | _ | content
  · have hblank : ofOctets [] = .ok .blank := rfl
    constructor
    · exact fun h => congrArg some (Except.ok.inj h)
    · exact fun h => congrArg Except.ok (Option.some.inj h)
  · exact ⟨fun h => absurd h (by simp [contentOf, Except.bind]), fun h => absurd h (by simp)⟩
  · dsimp only
    change (ofOctets content).bind DatabaseFile.migrate = .ok db ↔ _
    rw [ofOctets]
    rcases DatabaseFile.ofOctets? content with _ | f
    · simp [Except.bind]
    · rw [Option.bind_some]
      change f.migrate = .ok db ↔ _
      rcases f.migrate with e | db' <;> simp

/-- **Opening a passable path of a file**, step by step: the file is read, its octets are a database
that can be migrated, and the database can be written. -/
theorem eval_openFile {ds : List String} (hlocation : location path = .ok (.file name ds))
    (hmade : directoryMade d path = .ok made) (hpassable : Passable path made) :
    (openFile path).eval (Disk.host input clock) d =
      match contentOf path (made.read name) with
      | .error f => (.error f, made)
      | .ok content =>
        match (ofOctets content).bind DatabaseFile.migrate with
        | .error f => (.error f, swept name endings made)
        | .ok db =>
          match (swept name endings made).write name (DatabaseFile.later db).octets with
          | .ok d' => (.ok db, d')
          | .error _ => (.error (unopenable path), swept name endings made) := by
  obtain ⟨onFailure, hdirectory⟩ := eval_makeDirectory input clock d path
  rw [hmade] at hdirectory
  have hread := ((eval_readFile input clock hlocation made).resolve_right
    fun hblocked => hblocked.1 hpassable).2
  rw [openFile, Host.Action.eval_bind_ok hdirectory]
  rcases hcontent : contentOf path (made.read name) with f | content <;> rw [hcontent] at hread
  · exact Host.Action.eval_bind_error hread _
  dsimp only at hread ⊢
  rcases hfile : ofOctets content with f | file <;> rw [hfile] at hread
  · exact Host.Action.eval_bind_error hread _
  rw [Host.Action.eval_bind_ok hread]
  have hopen : (Host.Action.lift (file.openAt path).1).eval (Disk.host input clock)
      (swept name endings made) = (file.migrate, swept name endings made) := by
    rw [Host.Action.eval_lift, DatabaseFile.openAt]
    rcases file.migrate with f | db <;> rfl
  have hbind : (Except.ok file : Except Failure _).bind DatabaseFile.migrate = file.migrate := rfl
  rw [hbind]
  rcases hmigrate : file.migrate with f | db <;> rw [hmigrate] at hopen
  · exact Host.Action.eval_bind_error hopen _
  have hfileOf : fileOf? path = some name := by rw [fileOf?, hlocation]
  rw [Host.Action.eval_bind_ok hopen, writeFile, hfileOf]
  dsimp only
  rcases hwrite : (swept name endings made).write name (DatabaseFile.later db).octets with e | d'
  · exact Host.Action.eval_bind_error (Host.Action.eval_write_error input clock hwrite _) _
  · rw [Host.Action.eval_bind_ok (Host.Action.eval_write_ok input clock hwrite _),
      Host.Action.eval_bind_ok (Host.Action.eval_records ..)]
    rfl

/-- **A path is opened** as its place says. -/
theorem Opened.eval_openFile (h : Opened path d p db d') :
    (openFile path).eval (Disk.host input clock) d = (.ok db, d') := by
  cases h with
  | inMemory hlocation hmade =>
    obtain ⟨onFailure, hdirectory⟩ := eval_makeDirectory input clock d path
    rw [hmade] at hdirectory
    have hread : (readFile path).eval (Disk.host input clock) d' = (.ok .blank, d') := by
      rw [readFile, hlocation]
      rfl
    have hopen : (Host.Action.lift (DatabaseFile.blank.openAt path).1).eval
        (Disk.host input clock) d' = (.ok fresh, d') := rfl
    have hwrite : (writeFile path (.later fresh)).eval (Disk.host input clock) d' =
        (.ok (), d') := by
      rw [writeFile, fileOf?, hlocation]
      rfl
    rw [openFile, Host.Action.eval_bind_ok hdirectory, Host.Action.eval_bind_ok hread,
      Host.Action.eval_bind_ok hopen, Host.Action.eval_bind_ok hwrite]
    rfl
  | @file made name q _ hleads hdb =>
    rw [Database.eval_openFile input clock hleads.location_eq hleads.directory hleads.passable]
    have hfound := (contentOf_read path hleads.resolve).mpr hdb
    rcases hcontent : contentOf path (made.read name) with f | content <;> rw [hcontent] at hfound
    · exact absurd hfound (by simp [Except.bind])
    · have hq := (grows_swept name endings made).resolve hleads.resolve
      have hdirectory := node?_swept_ne_directory name endings (ne_directory hdb)
      dsimp only
      rw [show (ofOctets content).bind DatabaseFile.migrate = .ok db from hfound]
      dsimp only
      rw [Disk.write_eq_ok_iff.mpr ⟨Disk.getLast?_ne_slash hq hdirectory, q, hq, hdirectory, rfl⟩]
      rfl

/-- **What becomes of opening a path**: it is opened, or it fails. Then no file comes, and if
nothing stands in the way of the database, directories are made at most. -/
theorem openFile_cases (d : Disk) (path : String) :
    (∃ p db d', Opened path d p db d' ∧
      (openFile path).eval (Disk.host input clock) d = (.ok db, d')) ∨
    ∃ f d', d.BringsNoFile d' ∧ (¬Crowded path d → d.Extends d') ∧
      (openFile path).eval (Disk.host input clock) d = (.error f, d') := by
  obtain ⟨onFailure, hdirectory⟩ := eval_makeDirectory input clock d path
  rcases hmade : directoryMade d path with e | made <;> rw [hmade] at hdirectory
  · exact .inr ⟨_, d, (Disk.Extends.refl d).bringsNoFile, fun _ => .refl d,
      Host.Action.eval_bind_error hdirectory _⟩
  have hextends := directoryMade_extends hmade
  have hfails {f : Failure} (hread : (readFile path).eval (Disk.host input clock) made =
      (.error f, made)) : ∃ f d', d.BringsNoFile d' ∧ (¬Crowded path d → d.Extends d') ∧
      (openFile path).eval (Disk.host input clock) d = (.error f, d') := by
    refine ⟨f, made, hextends.bringsNoFile, fun _ => hextends, ?_⟩
    rw [openFile, Host.Action.eval_bind_ok hdirectory, Host.Action.eval_bind_error hread]
  rcases hlocation : location path with cause | _ | ⟨name, ds⟩ | _
  · exact .inr (hfails (by rw [readFile, hlocation]; rfl))
  · have hopened : Opened path d none fresh made := .inMemory hlocation hmade
    exact .inl ⟨_, _, _, hopened, hopened.eval_openFile input clock⟩
  · rcases (eval_readFile input clock hlocation made).symm with ⟨-, hblocked⟩ | ⟨hpassable, -⟩
    · exact .inr (hfails hblocked)
    have heval := eval_openFile input clock hlocation hmade hpassable
    have hfileOf : fileOf? path = some name := by rw [fileOf?, hlocation]
    have hfails' {f : Failure} (h : (openFile path).eval (Disk.host input clock) d =
        (.error f, swept name endings made)) :
        ∃ f d', d.BringsNoFile d' ∧ (¬Crowded path d → d.Extends d') ∧
          (openFile path).eval (Disk.host input clock) d = (.error f, d') := by
      refine ⟨f, _, fun y content hy => ?_, fun hclear => ?_, h⟩
      · exact hextends.bringsNoFile y content (bringsNoFile_swept name endings made y content hy)
      · rwa [swept_of_not_crowded hfileOf hmade hclear]
    rcases hcontent : contentOf path (made.read name) with f | content <;> rw [hcontent] at heval
    · exact .inr ⟨f, made, hextends.bringsNoFile, fun _ => hextends, heval⟩
    dsimp only at heval
    rcases hdb : (ofOctets content).bind DatabaseFile.migrate with f | db <;> rw [hdb] at heval
    · exact .inr (hfails' heval)
    dsimp only at heval
    rcases hwrite : (swept name endings made).write name (DatabaseFile.later db).octets with
      e | d' <;> rw [hwrite] at heval
    · exact .inr (hfails' heval)
    · obtain ⟨-, q, hq, -, rfl⟩ := Disk.write_eq_ok_iff.mp hwrite
      have hresolve := (grows_of_swept name endings made).resolve hq
      have hfound := (contentOf_read path hresolve).mp (by rw [hcontent]; exact hdb)
      exact .inl ⟨some q, db, _, .file ⟨hfileOf, hmade, hpassable, hresolve⟩ hfound, heval⟩
  · exact .inr (hfails (by rw [readFile, hlocation]; rfl))

/-- **A database that is open can be closed.** -/
theorem Opened.eval_closeFile (h : Opened path d p db d') (db' : Database) :
    (closeFile path db').eval (Disk.host input clock) d' = (.ok (), writtenBack d' p db') := by
  cases h with
  | inMemory hlocation hmade =>
    rw [closeFile, Database.close, writeFile, fileOf?, hlocation]
    rfl
  | @file made name q _ hleads hdb =>
    have hswept := node?_swept_ne_directory name endings (ne_directory hdb)
    have hgrows : made.Grows ((swept name endings made).put q db.closedFile) :=
      (grows_swept name endings made).trans (.put hswept _)
    have hfile : ((swept name endings made).put q db.closedFile).node? q ≠ some .directory := by
      rw [Disk.node?_put_self (Disk.ne_root hswept)]
      exact fun h => absurd (Option.some.inj h) (by simp [closedFile])
    rw [closeFile, Database.close, Host.Action.eval_bind_ok
      (eval_writeFile input clock hleads.file (hgrows.resolve hleads.resolve) hfile db')]
    rfl

end Eval

/-- **A path that does not look like a URI leads as a database where it leads as a path**, and no
directory has to be made for it. -/
theorem leadsTo_of_resolve (hnul : '\x00' ∉ path.toList) (hfile : ¬"file:".toList <+: path.toList)
    (hmemory : path ≠ ":memory:") (hq : d.resolve path = .ok q) :
    LeadsTo path d d (Path.normal path) q := by
  have hempty : path ≠ "" := by
    rintro rfl
    exact absurd hq (by simp [Disk.resolve])
  have hplain : location path = .ok (.file (Path.normal path) (Path.detours path)) := by
    rw [location_of_plain hnul hfile, Location.ofName, if_neg (by simp [hempty, hmemory])]
  have hpassable : Passable path d := by
    refine passable_of_resolve ?_
    rw [detours, hplain]
    exact fun detour => Disk.resolve_of_mem_detours hq
  have hmade : directoryMade d path = .ok d := by
    rw [directoryMade_eq_ok_iff]
    rcases hparent : Path.parent? path with _ | directory
    · exact .inl ⟨rfl, rfl⟩
    · have hnul' : '\x00' ∉ directory.toList :=
        fun h => hnul (Path.mem_of_parent hparent (by decide) h)
      exact .inr ⟨directory, rfl, hnul', Disk.makeDirectories_parent hq hparent⟩
  exact ⟨by rw [fileOf?, hplain], hmade, hpassable, Disk.resolve_normal hq⟩

/-! ### What opening and closing do to the disk -/

namespace Opened

/-- A path opens one database at most. -/
theorem unique (h : Opened path d p db d') {p' : Option Place} {e : Disk}
    (h' : Opened path d p' db' e) : p = p' ∧ db = db' ∧ d' = e := by
  cases h with
  | inMemory hlocation hmade =>
    cases h' with
    | inMemory _ hmade' => exact ⟨rfl, rfl, Except.ok.inj (hmade.symm.trans hmade')⟩
    | file hleads => exact absurd (hlocation.symm.trans hleads.location_eq) (by simp)
  | file hleads hdb =>
    cases h' with
    | inMemory hlocation => exact absurd (hlocation.symm.trans hleads.location_eq) (by simp)
    | file hleads' hdb' =>
      obtain ⟨rfl, rfl, rfl⟩ := hleads.unique hleads'
      obtain rfl := Option.some.inj (hdb.symm.trans hdb')
      exact ⟨rfl, rfl, rfl⟩

/-- The disk only grows while a database is written back. -/
theorem grows_writtenBack (h : Opened path d p db d') (db' : Database) :
    d'.Grows (writtenBack d' p db') := by
  have hclose := h.eval_closeFile [] 0 db'
  have hgrows := Host.Action.grows_eval [] 0 (closeFile path db').run d'
  rwa [Host.Action.eval_run, hclose] at hgrows

/-- **Once a path is open it leads to the place of its file**, from then on, as long as it is
passable if it is a URI. -/
theorem leadsTo (h : Opened path d (some q) db d') {e : Disk} (hgrows : d'.Grows e)
    (hpassable : "file:".toList <+: path.toList → Passable path e) :
    ∃ name, LeadsTo path e e name q := by
  cases h with
  | @file made name _ _ hleads hdb =>
    have hswept := node?_swept_ne_directory name endings (ne_directory hdb)
    have hopened : made.Grows ((swept name endings made).put q db.closedFile) :=
      (grows_swept name endings made).trans (.put hswept _)
    have hlater := hopened.trans hgrows
    refine ⟨name, hleads.again hlater ?_⟩
    by_cases hfile : "file:".toList <+: path.toList
    · exact hpassable hfile
    · exact hleads.passable_again hlater hfile

/-- The database that is opened is the one that is found at its place. -/
theorem onDisk?_eq (h : Opened path d (some q) db d') : onDisk? d q = some db := by
  cases h with
  | file hleads hdb => exact onDisk?_of_extends (directoryMade_extends hleads.directory) hdb

/-- What an open database is closed with is found at its place. -/
theorem onDisk?_writtenBack (h : Opened path d (some q) db d') {db' : Database}
    (hdb' : db'.schema ≤ schemaVersion) : onDisk? (writtenBack d' (some q) db') q = some db' := by
  have hroot := Disk.ne_root (ne_directory h.onDisk?_eq)
  exact onDisk?_of_node? (Disk.node?_put_self hroot _) hdb'

/-- A database that is found at another place has been there before, or is new. -/
theorem onDisk?_of_ne (h : Opened path d p db d') (hy : some y ≠ p) {db' db'' : Database}
    (hfound : onDisk? (writtenBack d' p db') y = some db'') :
    onDisk? d y = some db'' ∨ db'' = fresh := by
  cases h with
  | inMemory _ hmade =>
    exact onDisk?_of_bringsNoFile (directoryMade_extends hmade).bringsNoFile hfound
  | @file made name q _ hleads _ =>
    have hyq : y ≠ q := fun h => hy (congrArg some h)
    rw [writtenBack, onDisk?_put_of_ne hyq, onDisk?_put_of_ne hyq] at hfound
    rcases onDisk?_of_bringsNoFile (bringsNoFile_swept name endings made) hfound with h | h
    · exact .inl (onDisk?_of_extends (directoryMade_extends hleads.directory) h)
    · exact .inr h

/-- What is at another place stays there, if nothing stands in the way of the database. -/
theorem node?_writtenBack (h : Opened path d p db d') (hclear : ¬Crowded path d) (hy : some y ≠ p)
    {n : Node} (hn : d.node? y = some n) (db' : Database) :
    (writtenBack d' p db').node? y = some n := by
  cases h with
  | inMemory _ hmade => exact (directoryMade_extends hmade).kept y n hn
  | @file made name q _ hleads _ =>
    have hyq : y ≠ q := fun h => hy (congrArg some h)
    rw [writtenBack, Disk.node?_put_of_ne hyq, Disk.node?_put_of_ne hyq,
      swept_of_not_crowded hleads.file hleads.directory hclear]
    exact (directoryMade_extends hleads.directory).kept y n hn

/-- **The rows of other places** stay what they are, if nothing stands in the way of the
database. -/
theorem tables_writtenBack (h : Opened path d p db d') (hclear : ¬Crowded path d)
    (hy : some y ≠ p) (db' : Database) :
    Tables.onDisk (writtenBack d' p db') y = Tables.onDisk d y := by
  cases h with
  | inMemory _ hmade => exact Tables.onDisk_of_extends (directoryMade_extends hmade) y
  | @file made name q _ hleads _ =>
    have hyq : y ≠ q := fun h => hy (congrArg some h)
    rw [writtenBack, Tables.onDisk_put_of_ne hyq, Tables.onDisk_put_of_ne hyq,
      swept_of_not_crowded hleads.file hleads.directory hclear,
      Tables.onDisk_of_extends (directoryMade_extends hleads.directory)]

end Opened

end Database

end Maildrop.Store
