import Maildrop.Json.Reader
import Maildrop.Proofs.Json.Numbers
import Maildrop.Proofs.Json.Strings

/-!
# Values as they are written

Every JSON text has a tree of what it is written with (`Maildrop.Json.Source`): white space wherever
it may stand, strings piece by piece, and numbers with all their digits. Values may be nested to
any depth, and an object may have a name twice.

A value that is passed over is passed over to its end and no further, whatever it is
(`Maildrop.Json.skipValue_text`). The reader is a machine with a stack, so this is shown for any
stack: where a value comes next, the machine comes to hold one, with the same containers open
around it (`Maildrop.Json.exists_run_text`).
-/

namespace Maildrop.Json

/-- **White space.** -/
structure Blank where
  text : Text
  allSpace : ∀ c ∈ text, isSpace c = true

/-- No white space at all. -/
def Blank.empty : Blank := ⟨[], by simp⟩

/-- **Something with white space around it.** -/
structure Padded (α : Type) where
  before : Blank
  core : α
  behind : Blank

/-- **A member** of an object, with a value of some kind. -/
structure Member (α : Type) where
  name : Padded (List Piece)
  value : Padded α

/-- **A value without parts** as it is written. -/
inductive Atom where
  | null
  | bool (b : Bool)
  | number (n : Spelling)
  | string (ps : List Piece)

/-- **A value** as it is written. -/
inductive Source where
  | atom (a : Atom)
  /-- An array; the white space inside counts if there are no items. -/
  | array (inner : Blank) (items : List (Padded Source))
  /-- An object; the white space inside counts if there are no members. -/
  | object (inner : Blank) (members : List (Member Source))

/-- A value without parts as it is written. -/
def Atom.text : Atom → Text
  | .null => ['n', 'u', 'l', 'l']
  | .bool true => ['t', 'r', 'u', 'e']
  | .bool false => ['f', 'a', 'l', 's', 'e']
  | .number n => n.text
  | .string ps => quoted ps

mutual

/-- A value as it is written. -/
def Source.text : Source → Text
  | .atom a => a.text
  | .array inner [] => '[' :: (inner.text ++ [']'])
  | .array _ (⟨w, v, w'⟩ :: items) => '[' :: (w.text ++ (v.text ++ (w'.text ++ itemsTail items)))
  | .object inner [] => '\x7b' :: (inner.text ++ ['\x7d'])
  | .object _ (⟨⟨w, name, w'⟩, ⟨u, v, u'⟩⟩ :: members) =>
    '\x7b' :: (w.text ++ (quoted name ++ (w'.text ++ ':' :: (u.text ++ (v.text ++
      (u'.text ++ membersTail members))))))

/-- The items behind the first one, and the end of the array. -/
def itemsTail : List (Padded Source) → Text
  | [] => [']']
  | ⟨w, v, w'⟩ :: items => ',' :: (w.text ++ (v.text ++ (w'.text ++ itemsTail items)))

/-- The members behind the first one, and the end of the object. -/
def membersTail : List (Member Source) → Text
  | [] => ['\x7d']
  | ⟨⟨w, name, w'⟩, ⟨u, v, u'⟩⟩ :: members =>
    ',' :: (w.text ++ (quoted name ++ (w'.text ++ ':' :: (u.text ++ (v.text ++
      (u'.text ++ membersTail members))))))

end

/-- A member as it is written, with what stands behind it. -/
def Member.followedBy (m : Member Source) (rest : Text) : Text :=
  m.name.before.text ++ (quoted m.name.core ++ (m.name.behind.text ++ ':' ::
    (m.value.before.text ++ (m.value.core.text ++ (m.value.behind.text ++ rest)))))

theorem Source.text_object_cons (inner : Blank) (m : Member Source) (members : List (Member Source))
    (rest : Text) :
    (Source.object inner (m :: members)).text ++ rest =
      '\x7b' :: m.followedBy (membersTail members ++ rest) := by
  simp [text, Member.followedBy]

theorem membersTail_cons (m : Member Source) (members : List (Member Source)) (rest : Text) :
    membersTail (m :: members) ++ rest = ',' :: m.followedBy (membersTail members ++ rest) := by
  simp [membersTail, Member.followedBy]

/-- The name of a member, if it has a text. -/
def Member.name? {α : Type} (m : Member α) : Option String :=
  (decode? m.name.core).map String.ofList

/-- **The values of a name** among members. -/
def valuesOf (name : String) (members : List (Member Source)) : List Source :=
  (members.filter fun m => m.name? = some name).map (·.value.core)

theorem valuesOf_cons (name : String) (m : Member Source) (members : List (Member Source)) :
    valuesOf name (m :: members) =
      if m.name? = some name then m.value.core :: valuesOf name members
      else valuesOf name members := by
  rw [valuesOf, List.filter_cons]
  by_cases h : m.name? = some name <;> simp [h, valuesOf]

/-! ### What values start with -/

variable {care : Care} {frames : List Frame} {s rest : Text}

theorem Blank.skipSpace_append (w : Blank) (s : Text) : skipSpace (w.text ++ s) = skipSpace s :=
  List.dropWhile_append_of_pos w.allSpace

theorem skipSpace_cons {c : Char} (h : isSpace c = false) : skipSpace (c :: s) = c :: s :=
  List.dropWhile_cons_of_neg (by simp [h])

/-- A value without parts starts with none of what stands around values. -/
theorem Atom.text_starts (a : Atom) :
    ∃ c s, a.text = c :: s ∧ isSpace c = false ∧ c ≠ '[' ∧ c ≠ '\x7b' ∧ c ≠ ']' := by
  cases a with
  | null => exact ⟨'n', _, rfl, by decide⟩
  | bool b => cases b <;> exact ⟨_, _, rfl, by decide⟩
  | string ps => exact ⟨'\"', _, rfl, by decide⟩
  | number n =>
    obtain ⟨c, s, hs, hc⟩ := n.text_starts
    have hne : ∀ d, (d = '-' || Text.isDigitAscii d) = false → c ≠ d := by
      rintro d hd rfl
      exact absurd (hc.symm.trans hd) (by decide)
    have hspace : isSpace c = false := by
      simp [isSpace, hne ' ' (by decide), hne '\t' (by decide), hne '\n' (by decide),
        hne '\r' (by decide)]
    exact ⟨c, s, hs, hspace, hne '[' (by decide), hne '\x7b' (by decide), hne ']' (by decide)⟩

/-- A value starts neither with white space nor with the end of an array. -/
theorem Source.text_starts (v : Source) :
    ∃ c s, v.text = c :: s ∧ isSpace c = false ∧ c ≠ ']' := by
  cases v with
  | atom a =>
    obtain ⟨c, s, hs, hspace, -, -, hend⟩ := a.text_starts
    exact ⟨c, s, hs, hspace, hend⟩
  | array inner items => cases items <;> exact ⟨'[', _, rfl, by decide⟩
  | object inner members => cases members <;> exact ⟨'\x7b', _, rfl, by decide⟩

theorem Source.skipSpace_text (v : Source) (s : Text) : skipSpace (v.text ++ s) = v.text ++ s := by
  obtain ⟨c, t, ht, hspace, -⟩ := v.text_starts
  rw [ht]
  exact skipSpace_cons hspace

theorem Source.head?_skipSpace (w : Blank) (v : Source) (s : Text) :
    (skipSpace (w.text ++ (v.text ++ s))).head? ≠ some ']' := by
  obtain ⟨c, t, ht, -, hne⟩ := v.text_starts
  rw [w.skipSpace_append, v.skipSpace_text, ht]
  simpa using hne

/-- A number may end where white space, a comma or the end of a container follows. -/
theorem Blank.endsNumber (w : Blank) {c : Char} (hc : c = ',' ∨ c = ']' ∨ c = '\x7d') (s : Text) :
    EndsNumber (w.text ++ c :: s) := by
  intro d hd
  rcases ht : w.text with _ | ⟨e, t⟩ <;> rw [ht] at hd
  · obtain rfl := Option.some.inj hd
    rcases hc with rfl | rfl | rfl <;> decide
  · obtain rfl := Option.some.inj hd
    have hspace : isSpace e = true := w.allSpace e (by simp [ht])
    simp only [isSpace, Bool.or_eq_true, beq_iff_eq] at hspace
    rcases hspace with ((rfl | rfl) | rfl) | rfl <;> decide

/-! ### Values without parts -/

/-- **A value without parts that is passed over is read to its end.** -/
theorem exists_readScalar_skim (a : Atom) (hrest : EndsNumber rest) :
    ∃ x, readScalar .skim (a.text ++ rest) = .ok (x, rest) := by
  cases a with
  | null => exact ⟨.null, rfl⟩
  | bool b => cases b <;> exact ⟨.bool _, rfl⟩
  | number n =>
    refine ⟨.number n.numeral.number, ?_⟩
    rw [Atom.text, readScalar_number, readNumber_text n hrest, if_neg (by simp)]
    rfl
  | string ps =>
    obtain ⟨t, ht⟩ := exists_readString_skim ps [] rest
    refine ⟨.string (String.ofList t), ?_⟩
    rw [Atom.text, quoted, List.cons_append]
    change ((readString .skim [] (quotedTail ps ++ rest)).map _) = _
    rw [ht]
    rfl

/-- The text of a value that is a string. -/
def Value.string? : Value → Option String
  | .string s => some s
  | _ => none

/-- The number of a value that is an integer. -/
def Value.integer? : Value → Option Int
  | .number (.integer n) => some n
  | _ => none

/-- **The value that is read where one without parts is kept**, if it can be. -/
def Atom.value? : Atom → Option Value
  | .null => some .null
  | .bool b => some (.bool b)
  | .number n =>
    if n.numeral.integer?.isNone && n.numeral.overflows then none
    else some (.number n.numeral.number)
  | .string ps => (decode? ps).map fun t => .string (String.ofList t)

theorem toOption_readScalar (a : Atom) (hrest : EndsNumber rest) :
    (readScalar .full (a.text ++ rest)).toOption = a.value?.map fun x => (x, rest) := by
  cases a with
  | null => rfl
  | bool b => cases b <;> rfl
  | number n =>
    rw [Atom.text, readScalar_number, readNumber_text n hrest, Atom.value?, decide_eq_true rfl,
      Bool.true_and]
    split <;> rfl
  | string ps =>
    change ((readString .full [] (quotedTail ps ++ rest)).map _).toOption = _
    rw [toOption_map, toOption_readString, Atom.value?, Option.map_map, Option.map_map]
    rfl

/-! ### The machine -/

theorem run_expecting {st : State} (h : start care frames s = .ok (st, rest)) :
    (State.expecting frames).run care s = st.run care rest := by
  rw [State.run]
  split
  · next he => exact absurd (h.symm.trans he) (by simp)
  · next he =>
    obtain ⟨rfl, rfl⟩ := Prod.mk.inj (Except.ok.inj (h.symm.trans he))
    rfl

theorem run_holding {frame : Frame} {x : Value} {st : State}
    (h : frame.extend care frames x s = .ok (st, rest)) :
    (State.holding (frame :: frames) x).run care s = st.run care rest := by
  rw [State.run]
  split
  · next he => exact absurd (h.symm.trans he) (by simp)
  · next he =>
    obtain ⟨rfl, rfl⟩ := Prod.mk.inj (Except.ok.inj (h.symm.trans he))
    rfl

/-- Where a value without parts comes next, it is held at once. -/
theorem exists_start_atom (frames : List Frame) (w : Blank) (a : Atom) (hrest : EndsNumber rest) :
    ∃ x, start .skim frames (w.text ++ (a.text ++ rest)) = .ok (.holding frames x, rest) := by
  obtain ⟨x, hx⟩ := exists_readScalar_skim a hrest
  obtain ⟨c, s, hs, hspace, hbracket, hbrace, -⟩ := a.text_starts
  refine ⟨x, ?_⟩
  rw [start, w.skipSpace_append]
  rw [hs, List.cons_append] at hx ⊢
  rw [skipSpace_cons hspace]
  dsimp only
  rw [if_neg (not_or.mpr ⟨hbracket, hbrace⟩), hx]
  rfl

theorem readColon_colon (w : Blank) (s : Text) : readColon (w.text ++ ':' :: s) = .ok s := by
  rw [readColon, w.skipSpace_append, skipSpace_cons (by decide)]
  exact if_pos rfl

/-- A name and the colon behind it are passed over. -/
theorem exists_readLabel_skim (w : Blank) (ps : List Piece) (w' : Blank) (rest : Text) :
    ∃ name, readLabel .skim (w.text ++ (quoted ps ++ (w'.text ++ ':' :: rest))) =
      .ok (name, rest) := by
  obtain ⟨t, ht⟩ := exists_readString_skim ps [] (w'.text ++ ':' :: rest)
  have hname : readName .skim (w.text ++ (quoted ps ++ (w'.text ++ ':' :: rest))) =
      .ok (String.ofList t, w'.text ++ ':' :: rest) := by
    rw [readName, w.skipSpace_append, quoted, List.cons_append, skipSpace_cons (by decide)]
    dsimp only
    rw [if_pos rfl, ht]
    rfl
  refine ⟨String.ofList t, ?_⟩
  rw [readLabel, hname]
  dsimp only
  rw [readColon_colon]
  rfl

/-- An opening bracket or brace opens a container. -/
theorem start_array (w : Blank) (s : Text) :
    start .skim frames (w.text ++ '[' :: s) = enterArray frames s := by
  rw [start, w.skipSpace_append, skipSpace_cons (by decide)]
  rfl

theorem start_object (w : Blank) (s : Text) :
    start .skim frames (w.text ++ '\x7b' :: s) = enterObject .skim frames s := by
  rw [start, w.skipSpace_append, skipSpace_cons (by decide)]
  rfl

theorem enterArray_item (w : Blank) (v : Source) (s : Text) :
    enterArray frames (w.text ++ (v.text ++ s)) =
      .ok (.expecting (.array [] :: frames), v.text ++ s) := by
  obtain ⟨c, t, ht, hspace, hend⟩ := v.text_starts
  rw [enterArray, w.skipSpace_append, ht, List.cons_append, skipSpace_cons hspace]
  exact if_neg hend

theorem exists_enterObject_member (frames : List Frame) (w : Blank) (ps : List Piece) (w' : Blank)
    (rest : Text) :
    ∃ name, enterObject .skim frames (w.text ++ (quoted ps ++ (w'.text ++ ':' :: rest))) =
      .ok (.expecting (.object [] name :: frames), rest) := by
  obtain ⟨name, hname⟩ := exists_readLabel_skim .empty ps w' rest
  refine ⟨name, ?_⟩
  rw [enterObject, w.skipSpace_append, quoted, List.cons_append, skipSpace_cons (by decide)]
  change (readLabel .skim (quoted ps ++ (w'.text ++ ':' :: rest))).map _ = _
  rw [show readLabel .skim (quoted ps ++ (w'.text ++ ':' :: rest)) = _ from hname]
  rfl

theorem continueArray_item (done : List Value) (w w' : Blank) (v : Source) (s : Text) :
    continueArray done frames (w.text ++ ',' :: (w'.text ++ (v.text ++ s))) =
      .ok (.expecting (.array done :: frames), w'.text ++ (v.text ++ s)) := by
  rw [continueArray, w.skipSpace_append, skipSpace_cons (by decide)]
  exact if_neg (v.head?_skipSpace w' s)

theorem exists_continueObject_member (done : List (String × Value)) (frames : List Frame)
    (w u : Blank) (ps : List Piece) (u' : Blank) (rest : Text) :
    ∃ name, continueObject .skim done frames
        (w.text ++ ',' :: (u.text ++ (quoted ps ++ (u'.text ++ ':' :: rest)))) =
      .ok (.expecting (.object done name :: frames), rest) := by
  obtain ⟨name, hname⟩ := exists_readLabel_skim u ps u' rest
  refine ⟨name, ?_⟩
  rw [continueObject, w.skipSpace_append, skipSpace_cons (by decide)]
  change (readLabel .skim (u.text ++ (quoted ps ++ (u'.text ++ ':' :: rest)))).map _ = _
  rw [hname]
  rfl

/-- What follows an item or a member does not go on with a number. -/
theorem endsNumber_itemsTail (w : Blank) (items : List (Padded Source)) (rest : Text) :
    EndsNumber (w.text ++ (itemsTail items ++ rest)) := by
  rcases items with _ | ⟨_, items⟩
  · exact w.endsNumber (.inr (.inl rfl)) _
  · exact w.endsNumber (.inl rfl) _

theorem endsNumber_membersTail (w : Blank) (members : List (Member Source)) (rest : Text) :
    EndsNumber (w.text ++ (membersTail members ++ rest)) := by
  rcases members with _ | ⟨_, members⟩
  · exact w.endsNumber (.inr (.inr rfl)) _
  · exact w.endsNumber (.inl rfl) _

mutual

/-- **Where a value comes next, it is held**, and the same containers are open as before. -/
theorem exists_run_text : ∀ (v : Source) (frames : List Frame) (w : Blank) (rest : Text),
    EndsNumber rest → ∃ x,
      (State.expecting frames).run .skim (w.text ++ (v.text ++ rest)) =
        (State.holding frames x).run .skim rest
  | .atom a, frames, w, rest, hrest => by
    obtain ⟨x, hx⟩ := exists_start_atom frames w a hrest
    exact ⟨x, run_expecting hx⟩
  | .array inner [], frames, w, rest, _ => by
    simp only [Source.text, List.cons_append, List.append_assoc, List.nil_append]
    refine ⟨.array [], run_expecting ((start_array w _).trans ?_)⟩
    rw [enterArray, inner.skipSpace_append]
    exact if_pos rfl
  | .array _ (⟨w₁, v, w₂⟩ :: items), frames, w, rest, _ => by
    obtain ⟨x, hx⟩ := exists_run_text v (.array [] :: frames) .empty _
      (endsNumber_itemsTail w₂ items rest)
    obtain ⟨y, hy⟩ := exists_run_items items frames w₂ [] x rest
    simp only [Source.text, List.cons_append, List.append_assoc]
    exact ⟨y, (run_expecting ((start_array w _).trans (enterArray_item w₁ v _))).trans
      (hx.trans hy)⟩
  | .object inner [], frames, w, rest, _ => by
    simp only [Source.text, List.cons_append, List.append_assoc, List.nil_append]
    refine ⟨.object [], run_expecting ((start_object w _).trans ?_)⟩
    rw [enterObject, inner.skipSpace_append]
    exact if_pos rfl
  | .object _ (⟨⟨w₁, ps, w₂⟩, ⟨u₁, v, u₂⟩⟩ :: members), frames, w, rest, _ => by
    obtain ⟨name, hname⟩ := exists_enterObject_member frames w₁ ps w₂
      (u₁.text ++ (v.text ++ (u₂.text ++ (membersTail members ++ rest))))
    obtain ⟨x, hx⟩ := exists_run_text v (.object [] name :: frames) u₁ _
      (endsNumber_membersTail u₂ members rest)
    obtain ⟨y, hy⟩ := exists_run_members members frames u₂ [] name x rest
    simp only [Source.text, List.cons_append, List.append_assoc]
    exact ⟨y, (run_expecting ((start_object w _).trans hname)).trans (hx.trans hy)⟩

/-- Behind an item, the rest of the array is passed over. -/
theorem exists_run_items : ∀ (items : List (Padded Source)) (frames : List Frame) (w : Blank)
    (done : List Value) (x : Value) (rest : Text), ∃ y,
      (State.holding (.array done :: frames) x).run .skim (w.text ++ (itemsTail items ++ rest)) =
        (State.holding frames y).run .skim rest
  | [], frames, w, done, x, rest => by
    refine ⟨.array (x :: done).reverse, run_holding ?_⟩
    rw [Frame.extend, continueArray, w.skipSpace_append]
    exact if_pos rfl
  | ⟨w₁, v, w₂⟩ :: items, frames, w, done, x, rest => by
    obtain ⟨y, hy⟩ := exists_run_text v (.array (x :: done) :: frames) w₁ _
      (endsNumber_itemsTail w₂ items rest)
    obtain ⟨z, hz⟩ := exists_run_items items frames w₂ (x :: done) y rest
    simp only [itemsTail, List.cons_append, List.append_assoc]
    refine ⟨z, (run_holding ?_).trans (hy.trans hz)⟩
    exact continueArray_item (x :: done) w w₁ v _

/-- Behind a member, the rest of the object is passed over. -/
theorem exists_run_members : ∀ (members : List (Member Source)) (frames : List Frame) (w : Blank)
    (done : List (String × Value)) (name : String) (x : Value) (rest : Text), ∃ y,
      (State.holding (.object done name :: frames) x).run .skim
          (w.text ++ (membersTail members ++ rest)) =
        (State.holding frames y).run .skim rest
  | [], frames, w, done, name, x, rest => by
    refine ⟨.ofMembers ((name, x) :: done).reverse, run_holding ?_⟩
    rw [Frame.extend, continueObject, w.skipSpace_append]
    exact if_pos rfl
  | ⟨⟨w₁, ps, w₂⟩, ⟨u₁, v, u₂⟩⟩ :: members, frames, w, done, name, x, rest => by
    obtain ⟨next, hnext⟩ := exists_continueObject_member ((name, x) :: done) frames w w₁ ps w₂
      (u₁.text ++ (v.text ++ (u₂.text ++ (membersTail members ++ rest))))
    obtain ⟨y, hy⟩ := exists_run_text v (.object ((name, x) :: done) next :: frames) u₁ _
      (endsNumber_membersTail u₂ members rest)
    obtain ⟨z, hz⟩ := exists_run_members members frames u₂ ((name, x) :: done) next y rest
    simp only [membersTail, List.cons_append, List.append_assoc]
    refine ⟨z, (run_holding ?_).trans (hy.trans hz)⟩
    exact hnext

end

/-- **A value is passed over to its end**, and no further. -/
theorem skipValue_text (w : Blank) (v : Source) (hrest : EndsNumber rest) :
    skipValue (w.text ++ (v.text ++ rest)) = .ok rest := by
  obtain ⟨x, hx⟩ := exists_run_text v [] w rest hrest
  rw [skipValue, hx, State.run]
  rfl

end Maildrop.Json
