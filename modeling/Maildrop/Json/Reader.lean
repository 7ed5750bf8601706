import Maildrop.Json.Scalar

/-!
# Reading JSON

A text is read from left to right by a machine that holds the containers still open, so
that no depth of nesting is too great for it: a limit holds only for a value that is
kept. Each step takes at least one character.
-/

namespace Maildrop.Json

/-- **An open container.** Its complete parts are listed last one first. -/
inductive Frame where
  | array (items : List Value)
  /-- A member of the given name is still to come. -/
  | object (members : List (String × Value)) (name : String)

/-- **A reader between two steps**: containers open, the innermost one first. -/
inductive State where
  /-- A value comes next. -/
  | expecting (frames : List Frame)
  /-- A value is complete. -/
  | holding (frames : List Frame) (v : Value)

/-- How many containers may be open around one that is kept. -/
def depthLimit : Nat := 127

/-- Reads the name of a member. -/
def readName (care : Care) (s : Text) : Except Stop (String × Text) :=
  match skipSpace s with
  | [] => stopAt .endBeforeValue []
  | c :: rest =>
    if c = '\"' then (readString care [] rest).map fun r => (String.ofList r.1, r.2)
    else if c = '\x7d' then stopAt .trailingComma (c :: rest)
    else stopAt .keyNotString (c :: rest)

/-- Reads the colon behind a name. -/
def readColon (s : Text) : Except Stop Text :=
  match skipSpace s with
  | [] => stopAt .endInObject []
  | c :: rest => if c = ':' then .ok rest else stopAt .expectedColon (c :: rest)

/-- Reads the name of a member and the colon behind it. -/
def readLabel (care : Care) (s : Text) : Except Stop (String × Text) :=
  match readName care s with
  | .error e => .error e
  | .ok (name, rest) => (readColon rest).map fun rest => (name, rest)

/-- The step behind an opening bracket: the array is empty, or an item comes next. -/
def enterArray (frames : List Frame) (s : Text) : Except Stop (State × Text) :=
  match skipSpace s with
  | [] => stopAt .endInArray []
  | c :: rest =>
    if c = ']' then .ok (.holding frames (.array []), rest)
    else .ok (.expecting (.array [] :: frames), c :: rest)

/-- The step behind an opening brace: the object is empty, or a member comes next. -/
def enterObject (care : Care) (frames : List Frame) (s : Text) : Except Stop (State × Text) :=
  match skipSpace s with
  | [] => stopAt .endInObject []
  | c :: rest =>
    if c = '\x7d' then .ok (.holding frames (.object []), rest)
    else if c = '\"' then
      (readLabel care (c :: rest)).map fun r => (.expecting (.object [] r.1 :: frames), r.2)
    else stopAt .keyNotString (c :: rest)

/-- The step where a value comes next: it is read, or a container is opened. -/
def start (care : Care) (frames : List Frame) (s : Text) : Except Stop (State × Text) :=
  match skipSpace s with
  | [] => stopAt .endBeforeValue []
  | c :: rest =>
    if c = '[' ∨ c = '\x7b' then
      if care = .full ∧ depthLimit ≤ frames.length then stopAt .tooDeep (c :: rest)
      else if c = '[' then enterArray frames rest
      else enterObject care frames rest
    else (readScalar care (c :: rest)).map fun r => (.holding frames r.1, r.2)

/-- The step behind an item of an array: another one comes next, or the array ends. -/
def continueArray (items : List Value) (frames : List Frame) (s : Text) :
    Except Stop (State × Text) :=
  match skipSpace s with
  | [] => stopAt .endInArray []
  | c :: rest =>
    if c = ']' then .ok (.holding frames (.array items.reverse), rest)
    else if c = ',' then
      if (skipSpace rest).head? = some ']' then stopAt .trailingComma (skipSpace rest)
      else .ok (.expecting (.array items :: frames), rest)
    else stopAt .expectedArrayEnd (c :: rest)

/-- The step behind a member of an object: another one comes next, or the object ends. -/
def continueObject (care : Care) (members : List (String × Value)) (frames : List Frame)
    (s : Text) : Except Stop (State × Text) :=
  match skipSpace s with
  | [] => stopAt .endInObject []
  | c :: rest =>
    if c = '\x7d' then .ok (.holding frames (.ofMembers members.reverse), rest)
    else if c = ',' then
      (readLabel care rest).map fun r => (.expecting (.object members r.1 :: frames), r.2)
    else stopAt .expectedObjectEnd (c :: rest)

/-- The step behind a value in an open container. -/
def Frame.extend (care : Care) (frames : List Frame) (v : Value) (s : Text) :
    Frame → Except Stop (State × Text)
  | .array items => continueArray (v :: items) frames s
  | .object members name => continueObject care ((name, v) :: members) frames s

/-! ### Every step takes a character -/

theorem length_skipSpace_le (s : Text) : (skipSpace s).length ≤ s.length :=
  (List.dropWhile_suffix isSpace).length_le

/-- A character behind white space has less behind it than the white space has. -/
theorem length_lt_of_skipSpace {s rest : Text} {c : Char} (h : skipSpace s = c :: rest) :
    rest.length < s.length := by
  have hs := length_skipSpace_le s
  rw [h] at hs
  exact hs

theorem length_lt_of_readName {care : Care} {s rest : Text} {name : String}
    (h : readName care s = .ok (name, rest)) : rest.length < s.length := by
  unfold readName at h
  split at h
  · exact absurd h (by simp [stopAt])
  · next c more heq =>
    split at h
    · obtain ⟨r, hr, he⟩ := map_eq_ok h
      obtain ⟨-, rfl⟩ := Prod.mk.inj he
      exact Nat.lt_trans (length_lt_of_readString hr) (length_lt_of_skipSpace heq)
    · split at h <;> exact absurd h (by simp [stopAt])

theorem length_lt_of_readColon {s rest : Text} (h : readColon s = .ok rest) :
    rest.length < s.length := by
  unfold readColon at h
  split at h
  · exact absurd h (by simp [stopAt])
  · next c more heq =>
    split at h
    · obtain rfl := Except.ok.inj h
      exact length_lt_of_skipSpace heq
    · exact absurd h (by simp [stopAt])

theorem length_lt_of_readLabel {care : Care} {s rest : Text} {name : String}
    (h : readLabel care s = .ok (name, rest)) : rest.length < s.length := by
  unfold readLabel at h
  split at h
  · simp at h
  · next hn =>
    obtain ⟨r, hr, he⟩ := map_eq_ok h
    obtain ⟨-, rfl⟩ := Prod.mk.inj he
    exact Nat.lt_trans (length_lt_of_readColon hr) (length_lt_of_readName hn)

/-- An array that is entered has nothing taken from it if an item comes next. -/
theorem length_le_of_enterArray {frames : List Frame} {s rest : Text} {st : State}
    (h : enterArray frames s = .ok (st, rest)) : rest.length ≤ s.length := by
  unfold enterArray at h
  split at h
  · exact absurd h (by simp [stopAt])
  · next c more heq =>
    split at h
    · obtain ⟨-, rfl⟩ := Prod.mk.inj (Except.ok.inj h)
      exact Nat.le_of_lt (length_lt_of_skipSpace heq)
    · obtain ⟨-, rfl⟩ := Prod.mk.inj (Except.ok.inj h)
      exact length_lt_of_skipSpace heq

theorem length_le_of_enterObject {care : Care} {frames : List Frame} {s rest : Text} {st : State}
    (h : enterObject care frames s = .ok (st, rest)) : rest.length ≤ s.length := by
  unfold enterObject at h
  split at h
  · exact absurd h (by simp [stopAt])
  · next c more heq =>
    have hmore : (c :: more).length ≤ s.length := length_lt_of_skipSpace heq
    split at h
    · obtain ⟨-, rfl⟩ := Prod.mk.inj (Except.ok.inj h)
      exact Nat.le_of_succ_le hmore
    · split at h
      · obtain ⟨r, hr, he⟩ := map_eq_ok h
        obtain ⟨-, rfl⟩ := Prod.mk.inj he
        exact Nat.le_of_lt (Nat.lt_of_lt_of_le (length_lt_of_readLabel hr) hmore)
      · exact absurd h (by simp [stopAt])

theorem length_lt_of_start {care : Care} {frames : List Frame} {s rest : Text} {st : State}
    (h : start care frames s = .ok (st, rest)) : rest.length < s.length := by
  unfold start at h
  split at h
  · exact absurd h (by simp [stopAt])
  · next c more heq =>
    have hmore : more.length < s.length := length_lt_of_skipSpace heq
    split at h
    · split at h
      · exact absurd h (by simp [stopAt])
      · split at h
        · exact Nat.lt_of_le_of_lt (length_le_of_enterArray h) hmore
        · exact Nat.lt_of_le_of_lt (length_le_of_enterObject h) hmore
    · obtain ⟨r, hr, he⟩ := map_eq_ok h
      obtain ⟨-, rfl⟩ := Prod.mk.inj he
      exact Nat.lt_of_lt_of_le (length_lt_of_readScalar hr) hmore

theorem length_lt_of_continueArray {items : List Value} {frames : List Frame} {s rest : Text}
    {st : State} (h : continueArray items frames s = .ok (st, rest)) :
    rest.length < s.length := by
  unfold continueArray at h
  split at h
  · exact absurd h (by simp [stopAt])
  · next c more heq =>
    have hmore : more.length < s.length := length_lt_of_skipSpace heq
    split at h
    · obtain ⟨-, rfl⟩ := Prod.mk.inj (Except.ok.inj h)
      exact hmore
    · split at h
      · split at h
        · exact absurd h (by simp [stopAt])
        · obtain ⟨-, rfl⟩ := Prod.mk.inj (Except.ok.inj h)
          exact hmore
      · exact absurd h (by simp [stopAt])

theorem length_lt_of_continueObject {care : Care} {members : List (String × Value)}
    {frames : List Frame} {s rest : Text} {st : State}
    (h : continueObject care members frames s = .ok (st, rest)) : rest.length < s.length := by
  unfold continueObject at h
  split at h
  · exact absurd h (by simp [stopAt])
  · next c more heq =>
    have hmore : more.length < s.length := length_lt_of_skipSpace heq
    split at h
    · obtain ⟨-, rfl⟩ := Prod.mk.inj (Except.ok.inj h)
      exact hmore
    · split at h
      · obtain ⟨r, hr, he⟩ := map_eq_ok h
        obtain ⟨-, rfl⟩ := Prod.mk.inj he
        exact Nat.lt_trans (length_lt_of_readLabel hr) hmore
      · exact absurd h (by simp [stopAt])

theorem length_lt_of_extend {care : Care} {frames : List Frame} {v : Value} {s rest : Text}
    {frame : Frame} {st : State} (h : frame.extend care frames v s = .ok (st, rest)) :
    rest.length < s.length := by
  cases frame with
  | array items => exact length_lt_of_continueArray h
  | object members name => exact length_lt_of_continueObject h

/-! ### Whole values -/

/-- Reads until the outermost value is complete. -/
def State.run (care : Care) (st : State) (s : Text) : Except Stop (Value × Text) :=
  match st with
  | .holding [] v => .ok (v, s)
  | .holding (frame :: frames) v =>
    match h : frame.extend care frames v s with
    | .error e => .error e
    | .ok (next, rest) =>
      have := length_lt_of_extend h
      next.run care rest
  | .expecting frames =>
    match h : start care frames s with
    | .error e => .error e
    | .ok (next, rest) =>
      have := length_lt_of_start h
      next.run care rest
termination_by s.length

/-- Reads a value that is kept. -/
def readValue (s : Text) : Except Stop (Value × Text) := (State.expecting []).run .full s

/-- Passes over a value. -/
def skipValue (s : Text) : Except Stop Text := ((State.expecting []).run .skim s).map (·.2)

/-- Checks that nothing but white space is left. -/
def readEnd (s : Text) : Except Stop Unit :=
  match skipSpace s with
  | [] => .ok ()
  | rest => stopAt .trailingText rest

/-- The value of a text; anything behind it is a fault. -/
def parse (s : Text) : Except Error Value :=
  ((readValue s).bind fun r => (readEnd r.2).map fun _ => r.1).mapError (Stop.locate s)

theorem length_le_of_run {care : Care} {st : State} {s rest : Text} {v : Value}
    (h : st.run care s = .ok (v, rest)) : rest.length ≤ s.length := by
  fun_induction State.run care st s with
  | case1 =>
    obtain ⟨-, rfl⟩ := Prod.mk.inj (Except.ok.inj h)
    exact Nat.le_refl _
  | case2 => exact absurd h (by simp)
  | case3 s frame frames v next more hnext hlt ih =>
    exact Nat.le_trans (ih h) (Nat.le_of_lt hlt)
  | case4 => exact absurd h (by simp)
  | case5 s frames next more hnext hlt ih => exact Nat.le_trans (ih h) (Nat.le_of_lt hlt)

theorem length_lt_of_skipValue {s rest : Text} (h : skipValue s = .ok rest) :
    rest.length < s.length := by
  obtain ⟨r, hr, rfl⟩ := map_eq_ok h
  unfold State.run at hr
  split at hr
  · simp at hr
  · next hs => exact Nat.lt_of_le_of_lt (length_le_of_run hr) (length_lt_of_start hs)

end Maildrop.Json
