import Maildrop.Proofs.Json.Written
import Maildrop.Settings.Reader

/-!
# Settings from the members of an object

Settings are read from an object of any members, or from an array of two values. Of the members
only those of two names count: the reader fills a draft, and each member of these names fills one
place in it, which must not be filled yet (`Maildrop.Settings.Draft.take?`). Since the two places
do not touch each other, the order of the members does not matter
(`Maildrop.Settings.foldlM_take?`), and since another value is passed over to its end, whatever it
is, others may stand anywhere (`Maildrop.Settings.toOption_readMember`).

Names are read before it is known whose they are, so each of them has to have a text, although the
strings in a value that is passed over need not.

Which fault is found first does depend on the order. It shows in what lies behind an error, and not
in its wording, so errors are compared by their wording here, and on the way there not at all.
-/

namespace Maildrop.Settings

open Json (Atom Blank EndsNumber Member Padded Source decode? itemsTail membersTail quoted
  skipSpace skipSpace_cons valuesOf valuesOf_cons)

/-! ### The range of levels -/

/-- The compression level is in range. -/
def InRange (s : Settings) : Prop :=
  leastLevel ≤ s.compressionLevel ∧ s.compressionLevel ≤ greatestLevel

instance (s : Settings) : Decidable s.InRange := inferInstanceAs (Decidable (_ ∧ _))

theorem validate_eq_ok_iff {s s' : Settings} : s.validate = .ok s' ↔ s.InRange ∧ s = s' := by
  rw [validate]
  split
  · next h => exact ⟨fun hs => ⟨h, Except.ok.inj hs⟩, fun hs => congrArg Except.ok hs.2⟩
  · next h => exact ⟨fun hs => absurd hs (by simp), fun hs => absurd hs.1 h⟩

/-! ### What values give -/

/-- **The path that a value gives**: a string has to have a text. -/
def path? : Source → Option String
  | .atom (.string ps) => (decode? ps).map String.ofList
  | _ => none

/-- **The level that a value gives**: a number has to be an integer of 32 bits. -/
def level? : Source → Option Int
  | .atom (.number n) => n.integer?.filter fun v => decide (Text.IsSigned32 v)
  | _ => none

/-- What a value gives, or the default where there is none. -/
def given? {α : Type} (read : Source → Option α) (default : α) : Option Source → Option α
  | some v => read v
  | none => some default

/-- What becomes of settings, or of none: the settings if their level is in range, or the wording of
the error. -/
def outcome : Option Settings → Except String Settings
  | some s => s.validate.mapError Error.message
  | none => .error "Failed to parse config JSON"

/-- **What two values give**, or none, for the path and for the level. -/
def settled (path level : Option Source) : Except String Settings :=
  outcome ((given? path? ({} : Settings).databasePath path).bind fun path =>
    (given? level? ({} : Settings).compressionLevel level).map fun level => ⟨path, level⟩)

/-! ### Reading the two values -/

variable {rest : Text}

/-- A value without parts is read, and no other fits. -/
theorem toOption_readSimple (w : Blank) (v : Source) (hrest : EndsNumber rest) :
    (readSimple (w.text ++ (v.text ++ rest))).toOption =
      match v with
      | .atom a => a.value?.map fun x => (x, rest)
      | _ => none := by
  rw [readSimple, w.skipSpace_append, v.skipSpace_text]
  cases v with
  | atom a =>
    obtain ⟨c, s, hs, -, hbracket, hbrace, -⟩ := a.text_starts
    have hread := Json.toOption_readScalar a hrest
    rw [hs, List.cons_append] at hread
    rw [Source.text, hs, List.cons_append]
    dsimp only
    rw [if_neg (not_or.mpr ⟨hbracket, hbrace⟩), hread]
  | array inner items => cases items <;> rfl
  | object inner members => cases members <;> rfl

theorem toOption_readPath (w : Blank) (v : Source) (hrest : EndsNumber rest) :
    (readPath (w.text ++ (v.text ++ rest))).toOption = (path? v).map fun path => (path, rest) := by
  have hpath : ∀ s, (readPath s).toOption =
      (readSimple s).toOption.bind fun r => r.1.string?.map fun path => (path, r.2) := by
    intro s
    rw [readPath]
    rcases readSimple s with e | ⟨_ | _ | _ | _ | _ | _, rest⟩ <;> rfl
  rw [hpath, toOption_readSimple w v hrest]
  cases v with
  | array | object => rfl
  | atom a =>
    cases a with
    | null | bool => rfl
    | number n =>
      dsimp only [Atom.value?]
      split <;> rfl
    | string ps =>
      dsimp only [Atom.value?, path?]
      rcases decode? ps with _ | t <;> rfl

/-- A number that the reader knows for an integer is one of 32 bits or not. -/
theorem toOption_readLevel (w : Blank) (v : Source) (hrest : EndsNumber rest) :
    (readLevel (w.text ++ (v.text ++ rest))).toOption =
      (level? v).map fun level => (level, rest) := by
  have hlevel : ∀ s, (readLevel s).toOption = (readSimple s).toOption.bind fun r =>
      (r.1.integer?.filter fun v => decide (Text.IsSigned32 v)).map fun level => (level, r.2) := by
    intro s
    rw [readLevel]
    rcases readSimple s with e | ⟨_ | _ | (n | _) | _ | _ | _, rest⟩ <;> try rfl
    by_cases hn : Text.IsSigned32 n
    · refine (congrArg Except.toOption (if_pos hn)).trans ?_
      simp [Except.toOption, Json.Value.integer?, hn]
    · refine (congrArg Except.toOption (if_neg hn)).trans ?_
      simp [Except.toOption, Json.stop, Json.Value.integer?, hn]
  rw [hlevel, toOption_readSimple w v hrest]
  cases v with
  | array | object => rfl
  | atom a =>
    cases a with
    | null | bool => rfl
    | string ps =>
      dsimp only [Atom.value?]
      rcases decode? ps with _ | t <;> rfl
    | number n =>
      rw [level?, ← n.filter_integer?]
      dsimp only [Atom.value?, Json.Numeral.number]
      rcases n.numeral.integer? with _ | v
      · split <;> rfl
      · rfl

/-! ### Reading members -/

/-- One more value for a setting: it must be the first one. -/
def fill? {α : Type} (read : Source → Option α) (known : Option α) (v : Source) :
    Option (Option α) :=
  if known.isSome then none else (read v).map some

/-- **What is known after one more member**: its name must have a text, and what it gives must not
have been given before. -/
def Draft.take? (d : Draft) (m : Member Source) : Option Draft :=
  m.name?.bind fun name =>
    if name = "database_path" then
      (fill? path? d.databasePath m.value.core).map fun path => { d with databasePath := path }
    else if name = "compression_level" then
      (fill? level? d.compressionLevel m.value.core).map fun level =>
        { d with compressionLevel := level }
    else some d

theorem toOption_readName (w : Blank) (ps : List Json.Piece) (rest : Text) :
    (Json.readName .full (w.text ++ (quoted ps ++ rest))).toOption =
      (decode? ps).map fun t => (String.ofList t, rest) := by
  rw [Json.readName, w.skipSpace_append, quoted, List.cons_append, skipSpace_cons (by decide)]
  dsimp only
  rw [if_pos rfl, Json.toOption_map, Json.toOption_readString, Option.map_map]
  rfl

theorem readBehindColon_colon {α : Type} (read : Text → Except Json.Stop (α × Text)) (w : Blank)
    (s : Text) : readBehindColon read (w.text ++ ':' :: s) = read s := by
  rw [readBehindColon, Json.readColon_colon]

/-- **A member is read** to the white space behind its value. -/
theorem toOption_readMember (d : Draft) (m : Member Source)
    (hrest : EndsNumber (m.value.behind.text ++ rest)) :
    (readMember d (m.followedBy rest)).toOption =
      (d.take? m).map fun d' => (d', m.value.behind.text ++ rest) := by
  obtain ⟨⟨w, ps, w'⟩, ⟨u, v, u'⟩⟩ := m
  have hname := toOption_readName w ps (w'.text ++ ':' :: (u.text ++ (v.text ++ (u'.text ++ rest))))
  have hmember : ∀ s, (readMember d s).toOption =
      (Json.readName .full s).toOption.bind fun r => (readNamed d r.1 r.2).toOption := by
    intro s
    rw [readMember]
    rcases Json.readName .full s with e | r <;> rfl
  rw [Member.followedBy, hmember, hname, Draft.take?, Member.name?]
  dsimp only
  rcases decode? ps with _ | t
  · rfl
  · simp only [Option.map_some, Option.bind_some, readNamed, fill?]
    split
    · split
      · rfl
      · rw [Json.toOption_map, readBehindColon_colon, toOption_readPath u v hrest]
        simp only [Option.map_map]
        rfl
    · split
      · split
        · rfl
        · rw [Json.toOption_map, readBehindColon_colon, toOption_readLevel u v hrest]
          simp only [Option.map_map]
          rfl
      · rw [readBehindColon_colon, skipOther, Json.skipValue_text u v hrest]
        rfl

/-- Behind a member another one comes next, or the object ends. -/
theorem readMembers_eq (d : Draft) (s : Text) :
    readMembers d s = (readMember d s).bind fun r =>
      match Json.skipSpace r.2 with
      | [] => Json.stopAt .endInObject []
      | c :: more =>
        if c = '\x7d' then .ok (r.1, more)
        else if c = ',' then readMembers r.1 more
        else Json.stopAt .expectedObjectEnd (c :: more) := by
  rw [readMembers]
  split
  · next he =>
    rw [he]
    rfl
  · next he =>
    refine Eq.trans ?_ (congrArg (Except.bind · _) he).symm
    dsimp only [Except.bind]
    split <;> next hs => simp only [hs]

theorem readMembers_comma {d next : Draft} {s rest more : Text}
    (h : readMember d s = .ok (next, rest)) (hrest : Json.skipSpace rest = ',' :: more) :
    readMembers d s = readMembers next more := by
  rw [readMembers_eq, h]
  dsimp only [Except.bind]
  rw [hrest]
  rfl

theorem readMembers_last {d next : Draft} {s rest more : Text}
    (h : readMember d s = .ok (next, rest)) (hrest : Json.skipSpace rest = '\x7d' :: more) :
    readMembers d s = .ok (next, more) := by
  rw [readMembers_eq, h]
  dsimp only [Except.bind]
  rw [hrest]
  rfl

/-- **Members are read one after the other**, up to the end of the object. -/
theorem toOption_readMembers (members : List (Member Source)) (d : Draft) (m : Member Source)
    (rest : Text) :
    (readMembers d (m.followedBy (membersTail members ++ rest))).toOption =
      ((m :: members).foldlM Draft.take? d).map fun d' => (d', rest) := by
  induction members generalizing d m with
  | nil =>
    rw [List.foldlM_cons]
    rcases Json.cases_of_toOption_eq_map (toOption_readMember d m
        (Json.endsNumber_membersTail m.value.behind [] rest)) with
      ⟨d', hread, htake⟩ | ⟨e, hread, htake⟩ <;> rw [htake]
    · rw [readMembers_last hread
        ((m.value.behind.skipSpace_append _).trans (skipSpace_cons (by decide)))]
      rfl
    · rw [readMembers_eq, hread]
      rfl
  | cons n members ih =>
    rw [List.foldlM_cons]
    rcases Json.cases_of_toOption_eq_map (toOption_readMember d m
        (Json.endsNumber_membersTail m.value.behind (n :: members) rest)) with
      ⟨d', hread, htake⟩ | ⟨e, hread, htake⟩ <;> rw [htake]
    · have hcomma : skipSpace (m.value.behind.text ++ (membersTail (n :: members) ++ rest)) =
          ',' :: n.followedBy (membersTail members ++ rest) := by
        rw [m.value.behind.skipSpace_append, Json.membersTail_cons]
        exact skipSpace_cons (by decide)
      rw [readMembers_comma hread hcomma, ih]
      rfl
    · rw [readMembers_eq, hread]
      rfl

/-- **An object is read** as what is known after all its members. -/
theorem toOption_readDraft_object (before inner : Blank) (members : List (Member Source))
    (rest : Text) :
    (readDraft (before.text ++ ((Source.object inner members).text ++ rest))).toOption =
      (members.foldlM Draft.take? {}).map fun d => (d, rest) := by
  have hobject : ∀ s, readDraft (before.text ++ '\x7b' :: s) = readObject s := by
    intro s
    rw [readDraft, before.skipSpace_append, skipSpace_cons (by decide)]
    rfl
  rcases members with _ | ⟨m, members⟩
  · have hempty : readObject (inner.text ++ '\x7d' :: rest) = .ok ({}, rest) := by
      rw [readObject, inner.skipSpace_append, skipSpace_cons (by decide)]
      exact if_pos rfl
    simp only [Source.text, List.cons_append, List.append_assoc, List.nil_append]
    rw [hobject, hempty]
    rfl
  · -- the white space before the first name has been passed over when it is read
    obtain ⟨⟨w, ps, w'⟩, value⟩ := m
    have hread := toOption_readMembers members {} ⟨⟨.empty, ps, w'⟩, value⟩ rest
    rw [Json.Source.text_object_cons, hobject, readObject, Member.followedBy, w.skipSpace_append]
    exact hread

/-! ### What is known after all members -/

/-- A name without a text is an error wherever it stands. -/
theorem foldlM_take?_eq_none {members : List (Member Source)} {m : Member Source}
    (hm : m ∈ members) (hname : m.name? = none) (d : Draft) :
    members.foldlM Draft.take? d = none := by
  induction members generalizing d with
  | nil => exact absurd hm (by simp)
  | cons m' members ih =>
    rw [List.foldlM_cons]
    rcases List.mem_cons.mp hm with rfl | hm
    · rw [Draft.take?, hname]
      rfl
    · rcases d.take? m' with _ | d'
      · rfl
      · exact ih hm d'

/-- **Both settings are known independently** of each other and of other members. -/
theorem foldlM_take? {members : List (Member Source)}
    (hnames : ∀ m ∈ members, m.name?.isSome = true) (d : Draft) :
    members.foldlM Draft.take? d =
      ((valuesOf "database_path" members).foldlM (fill? path?) d.databasePath).bind fun path =>
        ((valuesOf "compression_level" members).foldlM (fill? level?)
          d.compressionLevel).map fun level => ⟨path, level⟩ := by
  induction members generalizing d with
  | nil => rfl
  | cons m members ih =>
    obtain ⟨hname, hnames⟩ := List.forall_mem_cons.mp hnames
    obtain ⟨name, hname⟩ := Option.isSome_iff_exists.mp hname
    rw [List.foldlM_cons, Draft.take?, valuesOf_cons, valuesOf_cons, hname, Option.bind_some]
    simp only [Option.some.injEq]
    by_cases hpath : name = "database_path"
    · have hlevel : name ≠ "compression_level" := by
        rw [hpath]
        decide
      rw [if_pos hpath, if_pos hpath, if_neg hlevel, List.foldlM_cons]
      rcases fill? path? d.databasePath m.value.core with _ | path
      · rfl
      · exact ih hnames _
    · rw [if_neg hpath, if_neg hpath]
      by_cases hlevel : name = "compression_level"
      · rw [if_pos hlevel, if_pos hlevel, List.foldlM_cons]
        rcases fill? level? d.compressionLevel m.value.core with _ | level
        · -- the path does not matter any more
          rcases (valuesOf "database_path" members).foldlM (fill? path?) d.databasePath with
            _ | path <;> rfl
        · exact ih hnames _
      · rw [if_neg hlevel, if_neg hlevel]
        exact ih hnames d

/-- **One value at most** may be given for a setting. -/
theorem foldlM_fill? {α : Type} (read : Source → Option α) (vs : List Source) (default : α) :
    (vs.foldlM (fill? read) none).map (·.getD default) =
      if vs.length ≤ 1 then given? read default vs.head? else none := by
  rcases vs with _ | ⟨v, _ | ⟨w, vs⟩⟩
  · rfl
  · rw [List.foldlM_cons]
    change (((read v).map some).bind _).map _ = _
    rcases h : read v with _ | a <;> simp [given?, h]
  · rw [if_neg (by simp), List.foldlM_cons]
    change (((read v).map some).bind _).map _ = _
    rcases read v with _ | a <;> rfl

/-! ### Whole texts -/

theorem mapError_ofText (s : Text) :
    (ofText s).mapError Error.message = outcome (parse s).toOption := by
  rw [ofText]
  rcases parse s with e | settings <;> rfl

/-- A text of settings has nothing but white space behind them. -/
theorem toOption_parse {s : Text} {behind : Blank} {draft : Option Draft}
    (h : (readDraft s).toOption = draft.map fun d => (d, behind.text)) :
    (parse s).toOption = draft.map Draft.settings := by
  have hend : Json.readEnd behind.text = .ok () := by
    have hskip := behind.skipSpace_append []
    rw [List.append_nil] at hskip
    rw [Json.readEnd, hskip]
    rfl
  rw [parse, Json.toOption_mapError, Json.toOption_bind, h]
  rcases draft with _ | d
  · rfl
  · rw [Option.map_some, Option.bind_some, hend]
    rfl

/-- **What an object gives**: its names must have texts, and no setting may be given twice. -/
theorem mapError_ofText_object (before inner behind : Blank) (members : List (Member Source)) :
    (ofText (before.text ++ ((Source.object inner members).text ++ behind.text))).mapError
        Error.message =
      if (∀ m ∈ members, m.name?.isSome = true) ∧
          (valuesOf "database_path" members).length ≤ 1 ∧
          (valuesOf "compression_level" members).length ≤ 1 then
        settled (valuesOf "database_path" members).head?
          (valuesOf "compression_level" members).head?
      else .error "Failed to parse config JSON" := by
  rw [mapError_ofText, toOption_parse (toOption_readDraft_object before inner members behind.text)]
  by_cases hnames : ∀ m ∈ members, m.name?.isSome = true
  · -- what is missing has its default, for each of the two alone
    have hdefaults : ∀ (path : Option (Option String)) (level : Option (Option Int)),
        (path.bind fun path => level.map fun level => Draft.mk path level).map Draft.settings =
          (path.map (·.getD ({} : Settings).databasePath)).bind fun path =>
            (level.map (·.getD ({} : Settings).compressionLevel)).map fun level =>
              ⟨path, level⟩ := by
      intro path level
      rcases path with _ | path <;> rcases level with _ | level <;> rfl
    rw [foldlM_take? hnames, hdefaults, foldlM_fill?, foldlM_fill?]
    by_cases hpath : (valuesOf "database_path" members).length ≤ 1
    · by_cases hlevel : (valuesOf "compression_level" members).length ≤ 1
      · rw [if_pos hpath, if_pos hlevel, if_pos ⟨hnames, hpath, hlevel⟩, settled]
      · rw [if_pos hpath, if_neg hlevel, if_neg fun h => hlevel h.2.2]
        rcases given? path? _ (valuesOf "database_path" members).head? with _ | path <;> rfl
    · rw [if_neg hpath]
      exact (if_neg fun h => hpath h.2.1).symm
  · obtain ⟨m, hm, hname⟩ : ∃ m ∈ members, m.name? = none := by simpa using hnames
    rw [if_neg fun h => hnames h.1, foldlM_take?_eq_none hm hname]
    rfl

/-! ### Arrays -/

theorem readArrayEnd_bracket (w : Blank) (rest : Text) :
    readArrayEnd (w.text ++ ']' :: rest) = .ok rest := by
  rw [readArrayEnd, w.skipSpace_append, skipSpace_cons (by decide)]
  exact if_pos rfl

/-- The level is read behind a comma. -/
theorem toOption_readSecond (path : String) (w : Blank) (level : Padded Source) (rest : Text) :
    (readSecond path (w.text ++ ',' :: (level.before.text ++ (level.core.text ++
        (level.behind.text ++ ']' :: rest))))).toOption =
      (level? level.core).map fun level => (⟨some path, some level⟩, rest) := by
  obtain ⟨u, v, u'⟩ := level
  have hread := toOption_readLevel u v (u'.endsNumber (.inr (.inl rfl)) rest)
  rw [readSecond, w.skipSpace_append, skipSpace_cons (by decide)]
  dsimp only
  rw [if_neg (by decide), if_pos rfl, if_neg (v.head?_skipSpace u _)]
  rcases Json.cases_of_toOption_eq_map hread with ⟨level, hlevel, hv⟩ | ⟨e, hlevel, hv⟩ <;>
    rw [hlevel, hv]
  · dsimp only
    rw [readArrayEnd_bracket]
    rfl
  · rfl

/-- **An array of two is read** as the path and the level. -/
theorem toOption_readDraft_array (before inner : Blank) (path level : Padded Source)
    (rest : Text) :
    (readDraft (before.text ++ ((Source.array inner [path, level]).text ++ rest))).toOption =
      ((path? path.core).bind fun path =>
        (level? level.core).map fun level => Draft.mk (some path) (some level)).map fun d =>
          (d, rest) := by
  obtain ⟨w, v, w'⟩ := path
  obtain ⟨c, t, ht, -, hne⟩ := v.text_starts
  have harray : ∀ s, readDraft (before.text ++ '[' :: (w.text ++ (v.text ++ s))) =
      (readPath (v.text ++ s)).bind fun r => readSecond r.1 r.2 := by
    intro s
    rw [readDraft, before.skipSpace_append, skipSpace_cons (by decide)]
    change readArray (w.text ++ (v.text ++ s)) = _
    rw [readArray, w.skipSpace_append, v.skipSpace_text, ht, List.cons_append]
    dsimp only
    rw [if_neg hne]
    rcases readPath (c :: (t ++ s)) with e | r <;> rfl
  have hread := toOption_readPath .empty v (w'.endsNumber (.inl rfl) (level.before.text ++
    (level.core.text ++ (level.behind.text ++ ']' :: rest))))
  simp only [Source.text, itemsTail, List.cons_append, List.append_assoc, List.nil_append]
  rw [harray, Json.toOption_bind]
  refine (congrArg (Option.bind · _) hread).trans ?_
  rcases path? v with _ | path
  · rfl
  · refine (toOption_readSecond path w' level rest).trans ?_
    rw [Option.bind_some, Option.map_map]
    rfl

theorem mapError_ofText_array (before inner behind : Blank) (path level : Padded Source) :
    (ofText (before.text ++ ((Source.array inner [path, level]).text ++ behind.text))).mapError
        Error.message =
      settled (some path.core) (some level.core) := by
  rw [mapError_ofText, toOption_parse (toOption_readDraft_array before inner path level _), settled]
  rw [given?, given?]
  rcases path? path.core with _ | path <;> rcases level? level.core with _ | level <;> rfl

/-! ### Success -/

theorem path?_eq_some_iff {v : Source} {path : String} :
    path? v = some path ↔ ∃ ps, v = .atom (.string ps) ∧ decode? ps = some path.toList := by
  constructor
  · intro h
    match v with
    | .atom (.string ps) =>
      obtain ⟨t, ht, rfl⟩ := Option.map_eq_some_iff.mp h
      exact ⟨ps, rfl, by rw [ht, String.toList_ofList]⟩
  · rintro ⟨ps, rfl, h⟩
    rw [path?, h, Option.map_some, String.ofList_toList]

theorem level?_eq_some_iff {v : Source} {level : Int} :
    level? v = some level ↔
      (∃ n, v = .atom (.number n) ∧ n.integer? = some level) ∧ Text.IsSigned32 level := by
  constructor
  · intro h
    match v with
    | .atom (.number n) =>
      obtain ⟨hn, hfits⟩ := Option.filter_eq_some_iff.mp h
      exact ⟨⟨n, rfl, hn⟩, of_decide_eq_true hfits⟩
  · rintro ⟨⟨n, rfl, hn⟩, hfits⟩
    exact Option.filter_eq_some_iff.mpr ⟨hn, decide_eq_true hfits⟩

theorem settled_eq_ok_iff {path level : Option Source} {s : Settings} :
    settled path level = .ok s ↔
      given? path? ({} : Settings).databasePath path = some s.databasePath ∧
        given? level? ({} : Settings).compressionLevel level = some s.compressionLevel ∧
        s.InRange := by
  rw [settled]
  rcases given? path? _ path with _ | p <;> rcases given? level? _ level with _ | n
  · exact iff_of_false (by simp [outcome]) (by simp)
  · exact iff_of_false (by simp [outcome]) (by simp)
  · exact iff_of_false (by simp [outcome]) (by simp)
  · change (validate ⟨p, n⟩).mapError Error.message = .ok s ↔ _
    have hok : ∀ r : Except Error Settings, r.mapError Error.message = .ok s ↔ r = .ok s := by
      rintro (e | r) <;> simp [Except.mapError]
    rw [hok, validate_eq_ok_iff]
    obtain ⟨path, level⟩ := s
    simp only [Settings.mk.injEq, Option.some.injEq]
    constructor
    · rintro ⟨hrange, rfl, rfl⟩
      exact ⟨rfl, rfl, hrange⟩
    · rintro ⟨rfl, rfl, hrange⟩
      exact ⟨hrange, rfl, rfl⟩

theorem exists_given?_path_iff {default : String} {path : Option Source} :
    (∃ p, given? path? default path = some p) ↔
      ∀ v, path = some v → ∃ ps, v = .atom (.string ps) ∧ (decode? ps).isSome = true := by
  rcases path with _ | v
  · simp [given?]
  · simp only [given?, path?_eq_some_iff, Option.some.injEq, forall_eq']
    constructor
    · rintro ⟨p, ps, hv, h⟩
      exact ⟨ps, hv, by rw [h, Option.isSome_some]⟩
    · rintro ⟨ps, hv, h⟩
      obtain ⟨t, ht⟩ := Option.isSome_iff_exists.mp h
      exact ⟨String.ofList t, ps, hv, by rw [ht, String.toList_ofList]⟩

/-- A level in range has 32 bits. -/
theorem exists_given?_level_iff {default : Int} (hdefault : -131072 ≤ default ∧ default ≤ 22)
    {level : Option Source} :
    (∃ k, given? level? default level = some k ∧ -131072 ≤ k ∧ k ≤ 22) ↔
      ∀ v, level = some v → ∃ n k, v = .atom (.number n) ∧ n.integer? = some k ∧
        -131072 ≤ k ∧ k ≤ 22 := by
  rcases level with _ | v
  · simpa [given?] using hdefault
  · simp only [given?, level?_eq_some_iff, Option.some.injEq, forall_eq']
    constructor
    · rintro ⟨k, ⟨⟨n, hv, hn⟩, -⟩, hrange⟩
      exact ⟨n, k, hv, hn, hrange⟩
    · rintro ⟨n, k, hv, hn, hrange⟩
      have hfits : Text.IsSigned32 k := ⟨by omega, by omega⟩
      exact ⟨k, ⟨⟨n, hv, hn⟩, hfits⟩, hrange⟩

/-- **When settings are had**: each of the two values, if there is one, has to be of its kind, and
the level in range. -/
theorem exists_settled_iff {path level : Option Source} :
    (∃ s, settled path level = .ok s) ↔
      (∀ v, path = some v → ∃ ps, v = .atom (.string ps) ∧ (decode? ps).isSome = true) ∧
      ∀ v, level = some v → ∃ n k, v = .atom (.number n) ∧ n.integer? = some k ∧
        -131072 ≤ k ∧ k ≤ 22 := by
  have hdefault : -131072 ≤ ({} : Settings).compressionLevel ∧
      ({} : Settings).compressionLevel ≤ 22 := by decide
  rw [← exists_given?_path_iff, ← exists_given?_level_iff hdefault]
  simp only [settled_eq_ok_iff]
  constructor
  · rintro ⟨s, hpath, hlevel, hrange⟩
    exact ⟨⟨s.databasePath, hpath⟩, s.compressionLevel, hlevel, hrange⟩
  · rintro ⟨⟨path, hpath⟩, level, hlevel, hrange⟩
    exact ⟨⟨path, level⟩, hpath, hlevel, hrange⟩

/-- **The settings of a text depend on the values of two members only.** An object gives what its
values for the two settings give, wherever the members stand, whatever else there is and
whatever white space; so does an array of the two values. A name that has no text is an error, and
so is a setting that is given twice. A path has to be a string with a text, a level an integer in
range, and what is missing has its default. -/
theorem settings_of_members :
    (∀ (before inner behind : Blank) (members : List (Member Source)),
      (ofText (before.text ++ ((Source.object inner members).text ++ behind.text))).mapError
          Error.message =
        if (∀ m ∈ members, m.name?.isSome = true) ∧
            (valuesOf "database_path" members).length ≤ 1 ∧
            (valuesOf "compression_level" members).length ≤ 1 then
          settled (valuesOf "database_path" members).head?
            (valuesOf "compression_level" members).head?
        else .error "Failed to parse config JSON") ∧
    (∀ (before inner behind : Blank) (path level : Padded Source),
      (ofText (before.text ++ ((Source.array inner [path, level]).text ++ behind.text))).mapError
          Error.message =
        settled (some path.core) (some level.core)) ∧
    ∀ path level : Option Source,
      ((∃ s, settled path level = .ok s) ↔
        (∀ v, path = some v → ∃ ps, v = .atom (.string ps) ∧ (decode? ps).isSome = true) ∧
        ∀ v, level = some v → ∃ n k, v = .atom (.number n) ∧ n.integer? = some k ∧
          -131072 ≤ k ∧ k ≤ 22) ∧
      ∀ s, settled path level = .ok s →
        (match path with
          | some v => ∃ ps, v = .atom (.string ps) ∧ decode? ps = some s.databasePath.toList
          | none => s.databasePath = "./mailsink/mailsink.sqlite") ∧
        match level with
        | some v => ∃ n, v = .atom (.number n) ∧ n.integer? = some s.compressionLevel
        | none => s.compressionLevel = 3 := by
  refine ⟨mapError_ofText_object, mapError_ofText_array,
    fun path level => ⟨exists_settled_iff, fun s hs => ?_⟩⟩
  obtain ⟨hpath, hlevel, -⟩ := settled_eq_ok_iff.mp hs
  constructor
  · rcases path with _ | v
    · exact (Option.some.inj hpath).symm
    · exact path?_eq_some_iff.mp hpath
  · rcases level with _ | v
    · exact (Option.some.inj hlevel).symm
    · exact (level?_eq_some_iff.mp hlevel).1

/-- **A name without a text is an error** even if it is none of the two: it is read before it is
known to be another. -/
theorem settings_of_members_not_any_name :
    let half : List Json.Piece := [.code ⟨⟨'d', 13, by decide⟩, ⟨'8', 8, by decide⟩,
      ⟨'0', 0, by decide⟩, ⟨'0', 0, by decide⟩⟩]
    let members : List (Member Source) :=
      [⟨⟨.empty, half, .empty⟩, ⟨.empty, .atom .null, .empty⟩⟩]
    (Source.object .empty members).text = "\x7b\"\\ud800\":null\x7d".toList ∧
      valuesOf "database_path" members = [] ∧ valuesOf "compression_level" members = [] ∧
      (ofText "\x7b\"\\ud800\":null\x7d".toList).mapError Error.message =
        .error "Failed to parse config JSON" ∧
      settled none none = .ok ⟨"./mailsink/mailsink.sqlite", 3⟩ := by
  intro half members
  refine ⟨?_, rfl, rfl, ?_, rfl⟩
  · decide +kernel
  · decide +kernel

/-- White space and nested values are passed over, halves of characters included, and a name may be
written with escapes. -/
example :
    ofText "\x7b \"x\":[\x7b\"\\ud800\":[]\x7d,-0e1],\n\"\\u0064atabase_path\" :\"é\"\x7d ".toList =
      .ok ⟨"é", 3⟩ := by
  decide +kernel

end Maildrop.Settings
