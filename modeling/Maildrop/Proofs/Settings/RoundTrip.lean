import Maildrop.Proofs.Json.ReadBack
import Maildrop.Proofs.Settings.Members

/-!
# Settings are read back from their written form

The written form of settings is read back as the settings, whatever characters the path of the
database has (`Maildrop.Settings.parse_print`). It is the form of an object with a member for each
of the two, with nothing but white space around them (`Maildrop.Settings.exists_members_print`).
-/

namespace Maildrop.Settings

open Json (Blank Member Source exists_quoted membersTail newline printString)

/-- The layout of the written form: an object with a line for each member. -/
theorem print_eq (s : Settings) :
    s.print = '\x7b' :: (newline 1 ++ (printString "database_path" ++ ':' :: ' ' ::
      (printString s.databasePath ++ ',' :: (newline 1 ++ (printString "compression_level" ++
        ':' :: ' ' :: ((toString s.compressionLevel).toList ++ (newline 0 ++ ['\x7d']))))))) := by
  simp [print, toJson, Json.Value.print, Json.Value.printAt, Json.printMembers, Json.Value.integer,
    Json.Number.print]

/-- **The written form is that of an object** from whose members the settings are known. -/
theorem exists_members_print {s : Settings} (hs : s.InRange) :
    ∃ members : List (Member Source), (Source.object .empty members).text = s.print ∧
      members.foldlM Draft.take? {} = some ⟨some s.databasePath, some s.compressionLevel⟩ := by
  obtain ⟨first, hfirst, hdatabase⟩ := exists_quoted "database_path"
  obtain ⟨second, hsecond, hlevel⟩ := exists_quoted "compression_level"
  obtain ⟨path, hpath, hdecode⟩ := exists_quoted s.databasePath
  have hfits : Text.IsSigned32 s.compressionLevel := by
    obtain ⟨hleast, hgreatest⟩ := hs
    rw [leastLevel] at hleast
    rw [greatestLevel] at hgreatest
    exact ⟨by omega, by omega⟩
  let space : Blank := ⟨[' '], by simp [Json.isSpace]⟩
  refine ⟨[⟨⟨.newline 1, first, .empty⟩, ⟨space, .atom (.string path), .empty⟩⟩,
    ⟨⟨.newline 1, second, .empty⟩,
      ⟨space, .atom (.number (.ofInt s.compressionLevel)), .newline 0⟩⟩], ?_, ?_⟩
  · rw [print_eq, Source.text, hfirst, Source.text, Json.Atom.text, hpath, membersTail, hsecond,
      Source.text, Json.Atom.text, Json.Spelling.text_ofInt, membersTail]
    rfl
  · have hvalue : path? (.atom (.string path)) = some s.databasePath :=
      path?_eq_some_iff.mpr ⟨path, rfl, hdecode⟩
    have hinteger : level? (.atom (.number (.ofInt s.compressionLevel))) =
        some s.compressionLevel :=
      level?_eq_some_iff.mpr ⟨⟨_, rfl, Json.Spelling.integer?_ofInt _⟩, hfits⟩
    simp only [List.foldlM_cons, Draft.take?, Member.name?, hdatabase, hlevel, fill?, hvalue,
      hinteger, Option.map_some, String.ofList_toList]
    rfl

/-- **The written form of settings is read back**, if the level is in range. -/
theorem parse_print {s : Settings} (hs : s.InRange) : parse s.print = .ok s := by
  obtain ⟨members, htext, hdraft⟩ := exists_members_print hs
  have hread := toOption_readDraft_object .empty .empty members Blank.empty.text
  rw [hdraft, htext] at hread
  have hparse := toOption_parse hread
  rw [Blank.empty, List.nil_append, List.append_nil] at hparse
  rcases hresult : parse s.print with e | s' <;> rw [hresult] at hparse
  · cases hparse
  · exact congrArg Except.ok (Option.some.inj hparse)

/-- The written form is not refused when it is checked. -/
theorem ofText_print {s : Settings} (hs : s.InRange) : ofText s.print = .ok s := by
  rw [ofText, parse_print hs]
  exact validate_eq_ok_iff.mpr ⟨hs, rfl⟩

end Maildrop.Settings
