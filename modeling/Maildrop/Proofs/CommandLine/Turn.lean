import Maildrop.CommandLine.Run
import Maildrop.Proofs.Settings.OnDisk

/-!
# Turns

A command line is run on a disk as one *turn* (`Maildrop.CommandLine.Turn`): it finds a disk,
reports, and leaves a disk to the next turn. What a turn does is told by its parts: the directory
for settings is made if that can be done, the settings are read, which changes nothing, and then
the command is run, and its error is turned into an exit code
(`Maildrop.CommandLine.Turn.play_of_parse`, `Maildrop.CommandLine.Invocation.eval_run`).
-/

namespace Maildrop.CommandLine

open Host (Action Disk)

/-- **A turn**: a command line with its environment, the data that are fed to it, and the
time. -/
structure Turn where
  style : TimeStyle
  environment : Environment
  arguments : List String
  input : Bytes := []
  clock : Instant := 0

/-- **Plays a turn** on a disk: what it reports, and the disk that it leaves. -/
def Turn.play (t : Turn) (d : Disk) : Report × Disk :=
  (run t.style t.environment t.arguments).eval (Disk.host t.input t.clock) d

/-- What a turn asks for, if its command line has been understood. -/
def Turn.Asks (t : Turn) (i : Invocation) : Prop :=
  parse t.environment.config t.arguments = .ok i

/-! ### Before the command -/

/-- The disk with the directory for settings, if that can be made. -/
def prepared (environment : Environment) (d : Disk) : Disk :=
  (d.changed (d.makeDirectories (Settings.directory environment.settingsRoot))).2

theorem prepared_extends (environment : Environment) (d : Disk) :
    d.Extends (prepared environment d) := by
  rw [prepared]
  rcases hmade : d.makeDirectories (Settings.directory environment.settingsRoot) with e | made
  · exact .refl d
  · exact Disk.makeDirectories_extends hmade

/-- The settings with the database that an invocation names, if it names one. -/
def Invocation.onDatabase (i : Invocation) (s : Settings) : Settings :=
  match i.database with
  | some path => { s with databasePath := path }
  | none => s

/-- **The settings of an invocation** on a disk. -/
def Invocation.settingsOnDisk (environment : Environment) (i : Invocation) (d : Disk) :
    Except Settings.Error Settings :=
  match i.config with
  | some path => ((Settings.onDisk d path).bind Settings.validate).map i.onDatabase
  | none =>
    (Settings.usualOnDisk d environment.settingsRoot environment.overrides).map i.onDatabase

/-- The settings of an invocation have been checked. -/
theorem Invocation.inRange_of_settingsOnDisk {environment : Environment} {i : Invocation} {d : Disk}
    {s : Settings} (h : i.settingsOnDisk environment d = .ok s) : s.InRange := by
  -- another database leaves the level alone
  have hkept : ∀ {r : Except Settings.Error Settings}, (∀ u, r = .ok u → u.InRange) →
      r.map i.onDatabase = .ok s → s.InRange := by
    rintro (e | u) hu hs
    · exact absurd hs (by simp [Except.map])
    · obtain rfl := Except.ok.inj hs
      have hlevel : (i.onDatabase u).compressionLevel = u.compressionLevel := by
        rw [onDatabase]
        split <;> rfl
      rw [Settings.InRange, hlevel]
      exact hu u rfl
  rw [settingsOnDisk] at h
  split at h
  · exact hkept (fun u hu => Settings.inRange_of_bind_validate hu) h
  · exact hkept (fun u hu => Settings.inRange_of_usualOnDisk hu) h

section Parts

variable (input : Bytes) (clock : Instant) (environment : Environment) (d : Disk)

theorem eval_prepare :
    (prepare environment).eval (Disk.host input clock) d = ((), prepared environment d) := by
  rw [prepare, Program.eval_bind, Action.eval_run, prepared, Settings.makeDirectory]
  rcases hmade : d.makeDirectories (Settings.directory environment.settingsRoot) with e | made
  · rw [Action.eval_bind_error (Action.eval_makeDirectories_error input clock hmade _)]
    rfl
  · rw [Action.eval_bind_ok (Action.eval_makeDirectories_ok input clock hmade _)]
    rfl

/-- **Settings are read without a change to the disk.** -/
theorem Invocation.eval_settings (i : Invocation) :
    (i.settings environment).eval (Disk.host input clock) d =
      (i.settingsOnDisk environment d, d) := by
  rw [settings, settingsOnDisk]
  rcases i.config with _ | path <;> dsimp only
  · rw [Action.eval_bind, Settings.eval_load]
    rcases Settings.usualOnDisk d environment.settingsRoot environment.overrides with e | s <;> rfl
  · rw [Action.eval_bind, Settings.eval_ofFile]
    rcases (Settings.onDisk d path).bind Settings.validate with e | s <;> rfl

/-! ### The command -/

/-- Settings that are only printed leave the disk alone. -/
theorem eval_printSettings_false (s : Settings) :
    (printSettings environment false s).eval (Disk.host input clock) d =
      (.ok (octets s.toJson.lines), d) := rfl

/-- Settings that are saved as well are printed if they have been saved. -/
theorem eval_printSettings_true (s : Settings) :
    (printSettings environment true s).eval (Disk.host input clock) d =
      let r := (Settings.save environment.settingsRoot s).eval (Disk.host input clock) d
      (r.1.map fun _ => octets s.toJson.lines, r.2) := by
  change (Settings.save environment.settingsRoot s >>= fun path =>
    Action.records [.info ("Wrote configuration to " ++ path)] >>= fun _ =>
      pure (octets s.toJson.lines)).eval _ d = _
  rw [Action.eval_bind]
  rcases (Settings.save environment.settingsRoot s).eval (Disk.host input clock) d with
    ⟨e | path, d'⟩
  · rfl
  · dsimp only
    rw [Action.eval_bind_ok (Action.eval_records ..)]
    rfl

/-- **An invocation** reads its settings, and then does what it is asked to with them. -/
theorem Invocation.eval_run (style : TimeStyle) (i : Invocation) :
    (i.run style environment).eval (Disk.host input clock) d =
      match i.settingsOnDisk environment d, i.command with
      | .error e, _ => (.error (.settings e), d)
      | .ok s, .settings write =>
        let r := (printSettings environment write s).eval (Disk.host input clock) d
        (r.1.mapError .settings, r.2)
      | .ok s, .onStore task => (task.run style s.databasePath).eval (Disk.host input clock) d := by
  have hsettings := Action.eval_adapt (Disk.host input clock) d (i.settings environment)
    Error.settings
  rw [eval_settings] at hsettings
  rw [run]
  rcases hs : i.settingsOnDisk environment d with e | s <;> rw [hs] at hsettings
  · exact Action.eval_bind_error hsettings _
  · rw [Action.eval_bind_ok hsettings]
    rcases i.command with task | write
    · rfl
    · exact Action.eval_adapt ..

end Parts

/-- **What is reported of a command** by what has become of it. -/
def Report.of : Except Error Bytes → Report
  | .ok output => { code := 0, output }
  | .error e => { code := e.exitCode }

theorem Error.exitCode_ne_zero (e : Error) : e.exitCode ≠ 0 := by
  cases e with
  | submission e =>
    rw [exitCode]
    cases e.fault <;> decide
  | _ => exact Nat.one_ne_zero

/-- The exit code is zero for what has succeeded only. -/
theorem Report.exists_of_code_eq_zero {r : Except Error Bytes} (h : (Report.of r).code = 0) :
    ∃ output, r = .ok output := by
  rcases r with e | output
  · exact absurd h e.exitCode_ne_zero
  · exact ⟨output, rfl⟩

/-- **A turn prepares the disk, runs its command and reports.** -/
theorem Turn.play_of_parse {t : Turn} {i : Invocation} (h : t.Asks i) (d : Disk) :
    t.play d =
      let r := (i.run t.style t.environment).eval (Disk.host t.input t.clock)
        (prepared t.environment d)
      (.of r.1, r.2) := by
  rw [play, run, Program.eval_bind, eval_prepare, h]
  dsimp only
  rw [Program.eval_bind, Action.eval_run]
  rcases (i.run t.style t.environment).eval (Disk.host t.input t.clock)
    (prepared t.environment d) with ⟨e | output, d'⟩ <;> rfl

end Maildrop.CommandLine
