import Maildrop.Proofs.CommandLine.Turn

/-!
# Saved settings return

Settings that have been saved are the settings that are loaded
(`Maildrop.CommandLine.saved_settings_return`): by their path, as the usual ones, and from the
text that has been written. So after a turn that saves its settings, the same settings are found
and printed by a turn that says nothing about them, for whatever settings the first turn has had,
from a file, from the environment or from its own command line.
-/

namespace Maildrop.CommandLine

open Host (Action Disk)

variable {d : Disk} {s : Settings}

/-- **A turn that saves its settings**, and succeeds, has printed them, and they are on the
disk. -/
theorem Turn.saved_of_play {t : Turn} {i : Invocation} (ht : t.Asks i)
    (hi : i.command = .settings true) (hcode : (t.play d).1.code = 0) :
    ∃ s, i.settingsOnDisk t.environment (prepared t.environment d) = .ok s ∧
      (t.play d).1 = { code := 0, output := octets s.toJson.lines } ∧
      Settings.Saved t.environment.settingsRoot s (t.play d).2 := by
  rw [t.play_of_parse ht] at hcode ⊢
  dsimp only at hcode ⊢
  rw [Invocation.eval_run, hi] at hcode ⊢
  rcases hs : i.settingsOnDisk t.environment (prepared t.environment d) with e | s <;>
    rw [hs] at hcode
  · exact absurd hcode (by simp [Report.of, Error.exitCode])
  · dsimp only at hcode ⊢
    rw [eval_printSettings_true] at hcode ⊢
    rcases hsave : (Settings.save t.environment.settingsRoot s).eval (Disk.host t.input t.clock)
      (prepared t.environment d) with ⟨e | path, d'⟩ <;> rw [hsave] at hcode
    · exact absurd hcode (by simp [Report.of, Error.exitCode, Except.mapError, Except.map])
    · exact ⟨s, rfl, rfl, (Settings.saved_of_eval_save _ _ hsave).2⟩

/-- **A turn that says nothing about settings** finds those that have been saved, prints them, and
changes nothing. -/
theorem Turn.play_of_saved {t : Turn} {i : Invocation} (ht : t.Asks i)
    (hi : i = ⟨none, none, .settings false⟩) (hoverrides : t.environment.overrides = {})
    (hs : s.InRange) (hsaved : Settings.Saved t.environment.settingsRoot s d) :
    t.play d = ({ code := 0, output := octets s.toJson.lines }, d) := by
  have hprepared : prepared t.environment d = d := by
    rw [prepared, hsaved.directory]
    rfl
  have hsettings : i.settingsOnDisk t.environment d = .ok s := by
    rw [hi, Invocation.settingsOnDisk, hoverrides, hsaved.usualOnDisk_eq hs]
    rfl
  rw [t.play_of_parse ht, hprepared]
  dsimp only
  rw [Invocation.eval_run, hsettings, hi]
  rfl

/-- **Saved settings return.** When settings with a level in range have been saved, the file at
the path that is returned holds a text that is read as those settings; the usual settings are
those, unless overridden, and so are the settings of the file. And if a turn has saved the settings
that it has found, whatever they are, then the next turn, if it is only asked to print the settings
and none are named or overridden, prints the same. -/
theorem saved_settings_return :
    (∀ (s : Settings) (root path : String) (input : Bytes) (clock : Instant) (d d' : Disk),
      s.InRange → (Settings.save root s).eval (Disk.host input clock) d = (.ok path, d') →
        d'.read path = .ok (Utf8.encode s.print) ∧ Settings.ofText s.print = .ok s ∧
        ∀ input clock,
          (Settings.load root {}).eval (Disk.host input clock) d' = (.ok s, d') ∧
          (Settings.ofFile path).eval (Disk.host input clock) d' = (.ok s, d')) ∧
    ∀ (t u : Turn) (i : Invocation) (d : Disk),
      t.Asks i → i.command = .settings true → (t.play d).1.code = 0 →
      u.Asks ⟨none, none, .settings false⟩ → u.environment.overrides = {} →
      u.environment.settingsRoot = t.environment.settingsRoot →
        ∃ s, i.settingsOnDisk t.environment (prepared t.environment d) = .ok s ∧
          (t.play d).1 = { code := 0, output := octets s.toJson.lines } ∧
          u.play (t.play d).2 = t.play d := by
  constructor
  · intro s root path input clock d d' hs hsave
    obtain ⟨rfl, hsaved⟩ := Settings.saved_of_eval_save input clock hsave
    refine ⟨hsaved.content, Settings.ofText_print hs, fun input clock => ⟨?_, ?_⟩⟩
    · rw [Settings.eval_load, hsaved.usualOnDisk_eq hs]
    · exact hsaved.eval_ofFile_eq input clock hs
  · intro t u i d ht hi hcode hu hoverrides hroot
    obtain ⟨s, hs, hreport, hsaved⟩ := Turn.saved_of_play ht hi hcode
    refine ⟨s, hs, hreport, ?_⟩
    rw [Turn.play_of_saved hu rfl hoverrides (Invocation.inRange_of_settingsOnDisk hs)
      (hroot ▸ hsaved)]
    exact Prod.ext hreport.symm rfl

/-- A path with a quote, a backslash, a line break, a control character and a letter beyond ASCII
is saved with the least level, by a program and by a turn that names it. -/
theorem saved_settings_return_any_path :
    let s : Settings := ⟨"\"\\\n\x01/é", -131072⟩
    let saved := ((Settings.save "/c" s).eval (Disk.host [] 0) {}).2
    let t : Turn :=
      { style := .calendar, environment := ⟨"/c", none, ⟨none, some "22"⟩⟩,
        arguments := ["--database", s.databasePath, "config", "--write"] }
    let u : Turn := { style := .calendar, environment := ⟨"/c", none, {}⟩, arguments := ["config"] }
    (Settings.load "/c" {}).eval (Disk.host [] 0) saved = (.ok s, saved) ∧
      u.play (t.play {}).2 = t.play {} := by
  intro s saved t u
  have hsave : (Settings.save "/c" s).eval (Disk.host [] 0) {} =
      (.ok "/c/mailsink/mailsink.json", saved) :=
    Prod.ext (by decide +kernel) rfl
  refine ⟨((saved_settings_return.1 s "/c" _ [] 0 {} saved (by decide) hsave).2.2 [] 0).1, ?_⟩
  have ht : t.Asks ⟨none, some s.databasePath, .settings true⟩ := by
    rw [Turn.Asks]
    decide +kernel
  have hu : u.Asks ⟨none, none, .settings false⟩ := by
    rw [Turn.Asks]
    decide +kernel
  obtain ⟨-, -, -, hreturn⟩ :=
    saved_settings_return.2 t u _ {} ht rfl (by decide +kernel) hu rfl rfl
  exact hreturn

end Maildrop.CommandLine
