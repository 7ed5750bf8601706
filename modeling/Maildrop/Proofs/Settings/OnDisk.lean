import Maildrop.Proofs.Host.Action
import Maildrop.Proofs.Settings.RoundTrip
import Maildrop.Proofs.Text.Utf8
import Maildrop.Settings.File

/-!
# Settings on a disk

Settings are read without a change to the disk (`Maildrop.Settings.eval_ofFile`,
`Maildrop.Settings.eval_load`), so what is read is a function of the disk. Saving them makes the
directory for settings and writes one file (`Maildrop.Settings.save_cases`), and from then on
the disk has them: the usual settings are those, and so are the settings of the file
(`Maildrop.Settings.Saved.usualOnDisk_eq`, `Maildrop.Settings.Saved.eval_ofFile_eq`).
-/

namespace Maildrop.Settings

open Host (Action Disk)

variable {d d' : Disk} {root path : String} {s : Settings}

/-! ### Reading -/

/-- **The settings in a file of a disk**, unchecked. -/
def onDisk (d : Disk) (path : String) : Except Error Settings :=
  ((d.read path).mapError (.unreadable path)).bind fun content =>
    match Utf8.decode? content with
    | some text => (parse text).mapError (.malformedFile path)
    | none => .error (.unreadable path .notText)

/-- **The usual settings of a disk**, as the environment overrides them. -/
def usualOnDisk (d : Disk) (root : String) (o : Overrides) : Except Error Settings :=
  (if d.present (usualPath root) then onDisk d (usualPath root) else .ok {}).bind (·.override o)

variable (input : Bytes) (clock : Instant)

theorem eval_read (d : Disk) (path : String) :
    (read path).eval (Disk.host input clock) d = (onDisk d path, d) := by
  rw [read, Action.eval_bind, Action.eval_readText, onDisk]
  rcases d.read path with e | content
  · rfl
  · simp only [Except.mapError, Except.bind]
    rcases Utf8.decode? content with _ | text <;> rfl

theorem eval_ofFile (d : Disk) (path : String) :
    (ofFile path).eval (Disk.host input clock) d = ((onDisk d path).bind validate, d) := by
  rw [ofFile, Action.eval_bind, eval_read]
  rcases onDisk d path with e | s <;> rfl

theorem eval_load (d : Disk) (root : String) (o : Overrides) :
    (load root o).eval (Disk.host input clock) d = (usualOnDisk d root o, d) := by
  have hpresent : (isPresent root usualName).eval (Disk.host input clock) d =
      (.ok (d.present (usualPath root)), d) := rfl
  rw [load, Action.eval_bind_ok hpresent, usualOnDisk]
  rcases d.present (usualPath root) with _ | _
  · rfl
  · change (read (usualPath root) >>= fun base => Action.lift (base.override o)).eval
      (Disk.host input clock) d = ((onDisk d (usualPath root)).bind (·.override o), d)
    rw [Action.eval_bind, eval_read]
    rcases onDisk d (usualPath root) with e | s <;> rfl

/-- What has been checked is in range. -/
theorem inRange_of_bind_validate {r : Except Error Settings} (h : r.bind validate = .ok s) :
    s.InRange := by
  rcases r with e | u
  · exact absurd h (by simp [Except.bind])
  · obtain ⟨hu, rfl⟩ := validate_eq_ok_iff.mp h
    exact hu

/-- The usual settings have been checked. -/
theorem inRange_of_usualOnDisk {o : Overrides} (h : usualOnDisk d root o = .ok s) : s.InRange := by
  rw [usualOnDisk] at h
  rcases hbase : (if d.present (usualPath root) then onDisk d (usualPath root) else .ok {}) with
    e | base <;> rw [hbase] at h
  · exact absurd h (by simp [Except.bind])
  · exact inRange_of_bind_validate h

/-! ### Saving -/

/-- **Settings have been saved**: the directory for settings is there, and in it the file with
their written form. -/
structure Saved (root : String) (s : Settings) (d : Disk) : Prop where
  directory : d.makeDirectories (directory root) = .ok d
  content : d.read (usualPath root) = .ok (Utf8.encode s.print)

/-- **What becomes of saving settings**: the directory for them is made and their file written, or
directories are made at most. -/
theorem save_cases (d : Disk) (root : String) (s : Settings) :
    (∃ made q, d.makeDirectories (directory root) = .ok made ∧
      made.resolve (usualPath root) = .ok q ∧ made.node? q ≠ some .directory ∧
      (save root s).eval (Disk.host input clock) d =
        (.ok (usualPath root), made.put q (.file (Utf8.encode s.print)))) ∨
    ∃ e d', d.Extends d' ∧ (save root s).eval (Disk.host input clock) d = (.error e, d') := by
  rw [save, writeText]
  rcases hmade : d.makeDirectories (directory root) with e | made
  · have hmake : (makeDirectory root).eval (Disk.host input clock) d =
        (.error (.noDirectory (directory root) e), d) := by
      rw [makeDirectory, Action.eval_bind_error (Action.eval_makeDirectories_error _ _ hmade _)]
    exact .inr ⟨_, d, .refl d, Action.eval_bind_error hmake _⟩
  · have hmake : (makeDirectory root).eval (Disk.host input clock) d =
        (.ok (directory root), made) := by
      rw [makeDirectory, Action.eval_bind_ok (Action.eval_makeDirectories_ok _ _ hmade _)]
      rfl
    rw [Action.eval_bind_ok hmake]
    rcases hwrite : made.write (pathOf root usualName) (Utf8.encode s.print) with e | d'
    · have hfail := Action.eval_write_error input clock hwrite
        (Error.unwritable (pathOf root usualName))
      exact .inr ⟨_, made, Disk.makeDirectories_extends hmade, Action.eval_bind_error hfail _⟩
    · obtain ⟨-, q, hq, hfree, rfl⟩ := Disk.write_eq_ok_iff.mp hwrite
      refine .inl ⟨made, q, rfl, hq, hfree, ?_⟩
      rw [Action.eval_bind_ok (Action.eval_write_ok _ _ hwrite _)]
      rfl

/-- **What has been saved is there.** -/
theorem saved_of_eval_save (h : (save root s).eval (Disk.host input clock) d = (.ok path, d')) :
    path = usualPath root ∧ Saved root s d' := by
  rcases save_cases input clock d root s with
    ⟨made, q, hmade, hq, hfree, heval⟩ | ⟨e, d'', -, heval⟩
  · obtain ⟨hpath, rfl⟩ := Prod.mk.inj (heval.symm.trans h)
    have hgrows : made.Grows (made.put q (.file (Utf8.encode s.print))) := .put hfree _
    refine ⟨(Except.ok.inj hpath).symm, Disk.makeDirectories_again hmade hgrows, ?_⟩
    exact Disk.read_eq_ok_iff.mpr
      ⟨q, hgrows.resolve hq, Disk.node?_put_self (Disk.ne_root hfree) _⟩
  · exact absurd (congrArg Prod.fst (heval.symm.trans h)) (by simp)

namespace Saved

variable (h : Saved root s d) (hs : s.InRange)
include h hs

theorem onDisk_eq : onDisk d (usualPath root) = .ok s := by
  rw [onDisk, h.content]
  change (match Utf8.decode? (Utf8.encode s.print) with
    | some text => (parse text).mapError (Error.malformedFile (usualPath root))
    | none => .error (Error.unreadable (usualPath root) .notText)) = _
  rw [Utf8.decode?_encode]
  dsimp only
  rw [parse_print hs]
  rfl

/-- **The settings of the file** are those that have been saved. -/
theorem eval_ofFile_eq :
    (ofFile (usualPath root)).eval (Disk.host input clock) d = (.ok s, d) := by
  rw [eval_ofFile, h.onDisk_eq hs]
  exact congrArg (·, d) (validate_eq_ok_iff.mpr ⟨hs, rfl⟩)

/-- **The usual settings** are those that have been saved, unless the environment overrides
them. -/
theorem usualOnDisk_eq : usualOnDisk d root {} = .ok s := by
  rw [usualOnDisk, if_pos (Disk.present_of_read h.content), h.onDisk_eq hs]
  exact validate_eq_ok_iff.mpr ⟨hs, rfl⟩

end Saved

end Maildrop.Settings
