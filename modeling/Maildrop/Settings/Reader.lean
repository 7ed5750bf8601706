import Maildrop.Json.Reader
import Maildrop.Settings.Basic

/-!
# Reading settings

Settings are written as an object with a member for each, or as an array of both in
order; what is missing has its default. Other members are passed over, whatever they
hold. A member may not be given twice.

The text is read from left to right, and the first fault ends the reading.
-/

namespace Maildrop.Settings

open Json (Stop stop stopAt skipSpace)

/-- **Settings of which not all may have been read.** -/
structure Draft where
  databasePath : Option String := none
  compressionLevel : Option Int := none

/-- The settings, with the default for what is missing. -/
def Draft.settings (d : Draft) : Settings where
  databasePath := d.databasePath.getD ({} : Settings).databasePath
  compressionLevel := d.compressionLevel.getD ({} : Settings).compressionLevel

/-! ### The two settings -/

/-- Reads a value without parts. The beginning of a container does not fit. -/
def readSimple (s : Text) : Except Stop (Json.Value × Text) :=
  match skipSpace s with
  | [] => stopAt .endBeforeValue []
  | c :: rest =>
    if c = '[' ∨ c = '\x7b' then stopAt .wrongType (c :: rest)
    else Json.readScalar .full (c :: rest)

/-- Reads the path of the database. -/
def readPath (s : Text) : Except Stop (String × Text) :=
  match readSimple s with
  | .error e => .error e
  | .ok (.string path, rest) => .ok (path, rest)
  | .ok (_, rest) => stop .wrongType rest

/-- Reads the compression level, an integer of 32 bits. -/
def readLevel (s : Text) : Except Stop (Int × Text) :=
  match readSimple s with
  | .error e => .error e
  | .ok (.number (.integer n), rest) =>
    if -0x80000000 ≤ n ∧ n < 0x80000000 then .ok (n, rest) else stop .outOfRange rest
  | .ok (_, rest) => stop .wrongType rest

/-! ### An object -/

/-- Reads a value behind a colon. -/
def readBehindColon {α : Type} (read : Text → Except Stop (α × Text)) (s : Text) :
    Except Stop (α × Text) :=
  match Json.readColon s with
  | .error e => .error e
  | .ok rest => read rest

/-- Passes over a value that is no setting. -/
def skipOther (s : Text) : Except Stop (Unit × Text) :=
  (Json.skipValue s).map fun rest => ((), rest)

/-- Reads a member of the given name. -/
def readNamed (d : Draft) (name : String) (s : Text) : Except Stop (Draft × Text) :=
  if name = "database_path" then
    if d.databasePath.isSome then stop (.duplicateField name) s
    else (readBehindColon readPath s).map fun r => ({ d with databasePath := some r.1 }, r.2)
  else if name = "compression_level" then
    if d.compressionLevel.isSome then stop (.duplicateField name) s
    else (readBehindColon readLevel s).map fun r => ({ d with compressionLevel := some r.1 }, r.2)
  else (readBehindColon skipOther s).map fun r => (d, r.2)

/-- Reads a member. -/
def readMember (d : Draft) (s : Text) : Except Stop (Draft × Text) :=
  match Json.readName .full s with
  | .error e => .error e
  | .ok (name, rest) => readNamed d name rest

/-! ### Every setting takes a character -/

theorem length_lt_of_readSimple {s rest : Text} {v : Json.Value}
    (h : readSimple s = .ok (v, rest)) : rest.length < s.length := by
  unfold readSimple at h
  split at h
  · exact absurd h (by simp [stopAt])
  · next c more heq =>
    have hmore : (c :: more).length ≤ s.length := Json.length_lt_of_skipSpace heq
    split at h
    · exact absurd h (by simp [stopAt])
    · exact Nat.lt_of_lt_of_le (Json.length_lt_of_readScalar h) hmore

theorem length_lt_of_readPath {s rest : Text} {path : String}
    (h : readPath s = .ok (path, rest)) : rest.length < s.length := by
  unfold readPath stop at h
  split at h
  · exact absurd h (by simp)
  · next hs =>
    obtain ⟨-, rfl⟩ := Prod.mk.inj (Except.ok.inj h)
    exact length_lt_of_readSimple hs
  · exact absurd h (by simp)

theorem length_lt_of_readLevel {s rest : Text} {level : Int}
    (h : readLevel s = .ok (level, rest)) : rest.length < s.length := by
  unfold readLevel stop at h
  split at h
  · exact absurd h (by simp)
  · next hs =>
    split at h
    · obtain ⟨-, rfl⟩ := Prod.mk.inj (Except.ok.inj h)
      exact length_lt_of_readSimple hs
    · exact absurd h (by simp)
  · exact absurd h (by simp)

theorem length_lt_of_skipOther {s rest : Text} {u : Unit}
    (h : skipOther s = .ok (u, rest)) : rest.length < s.length := by
  obtain ⟨r, hr, he⟩ := Json.map_eq_ok h
  obtain ⟨-, rfl⟩ := Prod.mk.inj he
  exact Json.length_lt_of_skipValue hr

theorem length_lt_of_readBehindColon {α : Type} {read : Text → Except Stop (α × Text)}
    (hread : ∀ {t u : Text} {a : α}, read t = .ok (a, u) → u.length < t.length)
    {s rest : Text} {a : α} (h : readBehindColon read s = .ok (a, rest)) :
    rest.length < s.length := by
  unfold readBehindColon at h
  split at h
  · simp at h
  · next hc => exact Nat.lt_trans (hread h) (Json.length_lt_of_readColon hc)

theorem length_lt_of_readNamed {d d' : Draft} {name : String} {s rest : Text}
    (h : readNamed d name s = .ok (d', rest)) : rest.length < s.length := by
  unfold readNamed at h
  repeat' split at h
  · simp [stop] at h
  · obtain ⟨r, hr, he⟩ := Json.map_eq_ok h
    obtain ⟨-, rfl⟩ := Prod.mk.inj he
    exact length_lt_of_readBehindColon length_lt_of_readPath hr
  · simp [stop] at h
  · obtain ⟨r, hr, he⟩ := Json.map_eq_ok h
    obtain ⟨-, rfl⟩ := Prod.mk.inj he
    exact length_lt_of_readBehindColon length_lt_of_readLevel hr
  · obtain ⟨r, hr, he⟩ := Json.map_eq_ok h
    obtain ⟨-, rfl⟩ := Prod.mk.inj he
    exact length_lt_of_readBehindColon length_lt_of_skipOther hr

theorem length_lt_of_readMember {d d' : Draft} {s rest : Text}
    (h : readMember d s = .ok (d', rest)) : rest.length < s.length := by
  unfold readMember at h
  split at h
  · simp at h
  · next hn => exact Nat.lt_trans (length_lt_of_readNamed h) (Json.length_lt_of_readName hn)

/-- Reads members up to the end of the object. -/
def readMembers (d : Draft) (s : Text) : Except Stop (Draft × Text) :=
  match h : readMember d s with
  | .error e => .error e
  | .ok (next, rest) =>
    match hs : skipSpace rest with
    | [] => stopAt .endInObject []
    | c :: more =>
      if c = '\x7d' then .ok (next, more)
      else if c = ',' then
        have := length_lt_of_readMember h
        have := Json.length_skipSpace_le rest
        have : more.length < (skipSpace rest).length := by simp [hs]
        readMembers next more
      else stopAt .expectedObjectEnd (c :: more)
termination_by s.length

/-- Reads an object whose opening brace has been read. -/
def readObject (s : Text) : Except Stop (Draft × Text) :=
  match skipSpace s with
  | [] => stopAt .endInObject []
  | c :: rest =>
    if c = '\x7d' then .ok ({}, rest)
    else if c = '\"' then readMembers {} (c :: rest)
    else stopAt .keyNotString (c :: rest)

/-! ### An array -/

/-- Reads the end of an array. -/
def readArrayEnd (s : Text) : Except Stop Text :=
  match skipSpace s with
  | [] => stopAt .endInArray []
  | c :: rest =>
    if c = ']' then .ok rest
    else if c = ',' ∧ (skipSpace rest).head? = some ']' then stopAt .trailingComma (skipSpace rest)
    else stopAt .trailingText (c :: rest)

/-- Reads what follows the first item. -/
def readSecond (path : String) (s : Text) : Except Stop (Draft × Text) :=
  match skipSpace s with
  | [] => stopAt .endInArray []
  | c :: rest =>
    if c = ']' then .ok ({ databasePath := some path }, rest)
    else if c = ',' then
      if (skipSpace rest).head? = some ']' then stopAt .trailingComma (skipSpace rest)
      else
        match readLevel rest with
        | .error e => .error e
        | .ok (level, rest) => (readArrayEnd rest).map fun rest => (⟨some path, some level⟩, rest)
    else stopAt .expectedArrayEnd (c :: rest)

/-- Reads an array whose opening bracket has been read. -/
def readArray (s : Text) : Except Stop (Draft × Text) :=
  match skipSpace s with
  | [] => stopAt .endInArray []
  | c :: rest =>
    if c = ']' then .ok ({}, rest)
    else
      match readPath (c :: rest) with
      | .error e => .error e
      | .ok (path, rest) => readSecond path rest

/-! ### Whole texts -/

/-- Reads settings. -/
def readDraft (s : Text) : Except Stop (Draft × Text) :=
  match skipSpace s with
  | '[' :: rest => readArray rest
  | '\x7b' :: rest => readObject rest
  | rest =>
    match Json.readScalar .full rest with
    | .error e => .error e
    | .ok (_, rest) => stop .wrongType rest

/-- **The settings that a text holds**, unchecked. -/
def parse (s : Text) : Except Json.Error Settings :=
  ((readDraft s).bind fun r => (Json.readEnd r.2).map fun _ => r.1.settings).mapError
    (Stop.locate s)

/-- **The settings that a text holds**, checked. -/
def ofText (s : Text) : Except Error Settings := ((parse s).mapError .malformed).bind validate

end Maildrop.Settings
