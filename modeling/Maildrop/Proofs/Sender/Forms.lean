import Maildrop.Proofs.Sender

/-!
# The forms of a sender's text

A sender's text is read if, without the blanks around it, it has one of four forms: a quoted
name before an email in angle brackets, such an email alone, an unquoted name before it, and a
bare email. Here a form is what a text is made of (`Maildrop.Sender.Form`), with the text that
the parts make up (`Maildrop.Sender.Form.text`) and what such a text claims
(`Maildrop.Sender.Form.claim`).

Nothing about the reading of senders is ambiguous. Of which kind a form is shows in its text
(`Maildrop.Sender.Form.kind_eq_kindOf`), and the delimiters show where the parts are, so a text
is made up in one way only (`Maildrop.Sender.Form.text_inj`). A sender is therefore read if and
only if its text has a form, claims what that form says, and may be tried for the four kinds
in any order (`Maildrop.Sender.parse?_forms`).
-/

namespace Maildrop

namespace Text

/-- Two texts cut at their first delimiters agree before and behind them. -/
theorem delimited_inj {d : Char} {t t' s s' : Text} (h : d ∉ t) (h' : d ∉ t')
    (heq : t ++ d :: s = t' ++ d :: s') : t = t' ∧ s = s' := by
  obtain ⟨htake, hdrop⟩ := span_delimiter h s
  obtain ⟨htake', hdrop'⟩ := span_delimiter h' s'
  rw [heq] at htake hdrop
  exact ⟨htake.symm.trans htake', (List.cons.inj (hdrop.symm.trans hdrop')).2⟩

/-- A text with no blank at its end is what is left when blanks behind it are dropped. -/
theorem trimEnd_append {t blanks : Text} (ht : ∀ c ∈ t.getLast?, ¬isBlank c)
    (hblanks : ∀ c ∈ blanks, isBlank c) : trimEnd (t ++ blanks) = t :=
  dropEndWhile_append (fun c hc => Bool.eq_false_iff.mpr (ht c hc)) hblanks

/-- A text without a blank at its front need only be trimmed at its end. -/
theorem trim_eq_trimEnd {t : Text} (h : ∀ c ∈ t.head?, ¬isBlank c) : trim t = trimEnd t := by
  rw [trim, trimStart]
  cases t with
  | nil => rfl
  | cons c s => rw [List.dropWhile_cons_of_neg (h c rfl)]

/-- What is dropped at the end of a text are blanks. -/
theorem exists_trimEnd_append (t : Text) :
    ∃ blanks, trimEnd t ++ blanks = t ∧ ∀ c ∈ blanks, isBlank c :=
  exists_dropEndWhile_append isBlank t

/-- A character stands behind nothing but blanks if it is found when they are dropped. -/
theorem trimStart_eq_cons_iff {d : Char} (hd : ¬isBlank d) {t s : Text} :
    trimStart t = d :: s ↔ ∃ blanks, t = blanks ++ d :: s ∧ ∀ c ∈ blanks, isBlank c := by
  constructor
  · intro h
    refine ⟨t.takeWhile isBlank, ?_, fun c hc => ?_⟩
    · rw [← h]
      exact List.takeWhile_append_dropWhile.symm
    · exact List.all_eq_true.mp List.all_takeWhile c hc
  · rintro ⟨blanks, rfl, hblanks⟩
    rw [trimStart, List.dropWhile_append_of_pos hblanks, List.dropWhile_cons_of_neg hd]

end Text

namespace Sender

/-! ### Forms -/

/-- **An email address**: something on either side of an at sign, without blanks, angle
brackets, quotes and further at signs. -/
def IsAddress (t : Text) : Prop :=
  ∃ before after, t = before ++ '@' :: after ∧ before ≠ [] ∧ after ≠ [] ∧
    ∀ c ∈ before ++ after, ¬Text.isBlank c ∧ c ∉ ['<', '>', '\"', '@']

/-- **An unquoted name**: it has neither quotes nor angle brackets, and no blank at its end. -/
structure IsBareName (name : Text) : Prop where
  nonempty : name ≠ []
  plain : ∀ c ∈ name, c ∉ ['\"', '<', '>']
  trimmed : ∀ c ∈ name.getLast?, ¬Text.isBlank c

/-- **A form of a sender's text**, with the parts that the text is made of. -/
inductive Form where
  /-- A quoted name before an email in angle brackets, with something between them. -/
  | quoted (name between email : Text)
  /-- An email in angle brackets alone. -/
  | bracketed (email : Text)
  /-- An unquoted name before an email in angle brackets, with something between them. -/
  | unquoted (name between email : Text)
  /-- An email alone. -/
  | bare (email : Text)

namespace Form

/-- The text that the parts make up. -/
def text : Form → Text
  | quoted name between email => '\"' :: (name ++ '\"' :: (between ++ '<' :: (email ++ ['>'])))
  | bracketed email => '<' :: (email ++ ['>'])
  | unquoted name between email => name ++ between ++ '<' :: (email ++ ['>'])
  | bare email => email

/-- **The parts are such as the form asks for.** -/
def Fits : Form → Prop
  | quoted name between email =>
    '\"' ∉ name ∧ (∀ c ∈ between, Text.isBlank c) ∧ IsAddress email
  | bracketed email => IsAddress email
  | unquoted name between email =>
    IsBareName name ∧ (∀ c ∈ between, Text.isBlank c) ∧ IsAddress email
  | bare email => IsAddress email

/-- What a text of the form claims: a quoted name counts without the blanks around it, and not
at all if nothing is left of it. -/
def claim : Form → Sender
  | quoted name _ email =>
    ⟨if Text.trim name = [] then none else some (String.ofList (Text.trim name)),
      String.ofList email⟩
  | bracketed email => ⟨none, String.ofList email⟩
  | unquoted name _ email => ⟨some (String.ofList name), String.ofList email⟩
  | bare email => ⟨none, String.ofList email⟩

/-! ### Kinds of forms -/

/-- The kinds of forms. -/
inductive Kind where
  | quoted
  | bracketed
  | unquoted
  | bare
  deriving DecidableEq

/-- The kind of a form. -/
def kind : Form → Kind
  | quoted .. => .quoted
  | bracketed _ => .bracketed
  | unquoted .. => .unquoted
  | bare _ => .bare

/-- The reader of the forms of a kind. -/
def Kind.read? : Kind → Text → Option Sender
  | quoted => quoted?
  | bracketed => bracketed?
  | unquoted => unquoted?
  | bare => bare?

/-- The kind that a form of a text can only be. -/
def kindOf (t : Text) : Kind :=
  if '\"' ∈ t then .quoted
  else if '<' ∉ t then .bare
  else if t.head? = some '<' then .bracketed
  else .unquoted

end Form

/-! ### Delimiters -/

theorem isAddress_iff {t : Text} : IsAddress t ↔ isEmail t := by
  have hchar : ∀ c, isEmailChar c ↔ ¬Text.isBlank c ∧ c ∉ ['<', '>', '\"', '@'] := fun c => by
    simp [isEmailChar, and_assoc]
  simp only [isEmail_iff, IsAddress, hchar, List.forall_mem_append]

/-- No quotes and angle brackets stand in an email. -/
theorem IsAddress.not_mem {t : Text} (h : IsAddress t) {c : Char} (hc : c ∈ ['<', '>', '\"']) :
    c ∉ t := by
  obtain ⟨before, after, rfl, -, -, hchars⟩ := h
  intro hmem
  have hne : c ≠ '@' := by
    rintro rfl
    exact absurd hc (by decide)
  have hmem' : c ∈ before ++ after := by simpa [hne] using hmem
  refine (hchars c hmem').2 ?_
  simp only [List.mem_cons] at hc ⊢
  tauto

theorem not_isBlank_of_delimiter {c : Char} (hc : c ∈ ['\"', '<', '>']) : ¬Text.isBlank c := by
  simp only [List.mem_cons, List.not_mem_nil, or_false] at hc
  rcases hc with rfl | rfl | rfl <;> decide

/-- A character that is no blank does not stand among blanks. -/
theorem not_mem_of_blank {t : Text} (h : ∀ c ∈ t, Text.isBlank c) {c : Char}
    (hc : ¬Text.isBlank c) : c ∉ t := fun hmem => hc (h c hmem)

/-- No delimiter stands in an unquoted name and the blanks behind it. -/
theorem IsBareName.not_mem_append {name between : Text} (hname : IsBareName name)
    (hbetween : ∀ c ∈ between, Text.isBlank c) {c : Char} (hc : c ∈ ['\"', '<', '>']) :
    c ∉ name ++ between := by
  rw [List.mem_append, not_or]
  exact ⟨fun hmem => hname.plain c hmem hc,
    not_mem_of_blank hbetween (not_isBlank_of_delimiter hc)⟩

namespace Form

/-- **Of which kind a form is shows in its text.** -/
theorem kind_eq_kindOf {f : Form} (h : f.Fits) : f.kind = kindOf f.text := by
  cases f with
  | quoted name between email => simp [kind, kindOf, text]
  | bracketed email =>
    have := h.not_mem (c := '\"') (by decide)
    simp [kind, kindOf, text, this]
  | unquoted name between email =>
    obtain ⟨hname, hbetween, hemail⟩ := h
    have hquote := hname.not_mem_append hbetween (c := '\"') (by decide)
    have hangle := hname.not_mem_append hbetween (c := '<') (by decide)
    have hemail' := hemail.not_mem (c := '\"') (by decide)
    have hhead : (name ++ between ++ '<' :: (email ++ ['>'])).head? ≠ some '<' := by
      obtain ⟨c, name, rfl⟩ := List.exists_cons_of_ne_nil hname.nonempty
      rw [List.cons_append, List.mem_cons, not_or] at hangle
      simpa using Ne.symm hangle.1
    rw [kind, kindOf, text, if_neg (by simpa [hemail'] using hquote), if_neg (by simp),
      if_neg hhead]
  | bare email =>
    have hquote := h.not_mem (c := '\"') (by decide)
    have hangle := h.not_mem (c := '<') (by decide)
    simp [kind, kindOf, text, hquote, hangle]

/-- **A text is made up in one way only.** -/
theorem text_inj {f g : Form} (hf : f.Fits) (hg : g.Fits) (h : f.text = g.text) : f = g := by
  have hkind : f.kind = g.kind := by rw [kind_eq_kindOf hf, kind_eq_kindOf hg, h]
  -- forms of two kinds are out of the question, so four cases are left
  cases f <;> cases g <;> simp only [kind, reduceCtorEq] at hkind
  case quoted.quoted name between email name' between' email' =>
    obtain ⟨rfl, hrest⟩ := Text.delimited_inj hf.1 hg.1 (List.cons.inj h).2
    obtain ⟨rfl, hemail⟩ := Text.delimited_inj (not_mem_of_blank hf.2.1 (by decide))
      (not_mem_of_blank hg.2.1 (by decide)) hrest
    rw [List.append_cancel_right hemail]
  case bracketed.bracketed email email' =>
    rw [List.append_cancel_right (List.cons.inj h).2]
  case unquoted.unquoted name between email name' between' email' =>
    obtain ⟨hname, hemail⟩ := Text.delimited_inj (hf.1.not_mem_append hf.2.1 (by decide))
      (hg.1.not_mem_append hg.2.1 (by decide)) h
    -- a name is what is left of itself and the blanks behind it when blanks are dropped
    have hn : name = name' := by
      rw [← Text.trimEnd_append hf.1.trimmed hf.2.1, hname,
        Text.trimEnd_append hg.1.trimmed hg.2.1]
    subst hn
    rw [List.append_cancel_left hname, List.append_cancel_right hemail]
  case bare.bare email email' => exact congrArg bare h

end Form

/-! ### Readers -/

theorem angled?_eq_some_iff {t e : Text} :
    angled? t = some e ↔ IsAddress e ∧ t = '<' :: (e ++ ['>']) := by
  rw [isAddress_iff]
  constructor
  · exact fun h => ⟨isEmail_of_angled? h, eq_of_angled? h⟩
  · rintro ⟨h, rfl⟩
    exact angled?_of_isEmail h

/-- A claim with a name that may turn out to be empty. -/
theorem named_eq (name email : Text) :
    named name email =
      ⟨if name = [] then none else some (String.ofList name), String.ofList email⟩ := by
  simp only [named, List.isEmpty_iff]

theorem quoted?_eq_some_iff {t : Text} {c : Sender} :
    quoted? t = some c ↔ ∃ name between email,
      (Form.quoted name between email).Fits ∧ (Form.quoted name between email).text = t ∧
        (Form.quoted name between email).claim = c := by
  constructor
  · intro h
    unfold quoted? at h
    split at h
    · next s =>
      simp only at h
      split at h
      · next d rest hrest =>
        obtain ⟨email, hemail, rfl⟩ := Option.map_eq_some_iff.mp h
        obtain ⟨haddress, htrim⟩ := angled?_eq_some_iff.mp hemail
        obtain ⟨between, rfl, hbetween⟩ :=
          (Text.trimStart_eq_cons_iff (by decide)).mp htrim
        obtain rfl : d = '\"' := by
          have := Text.head?_dropWhile (· != '\"') s d (by rw [hrest]; rfl)
          simpa using this
        refine ⟨s.takeWhile (· != '\"'), between, email,
          ⟨Text.not_mem_takeWhile _ _, hbetween, haddress⟩, ?_, (named_eq _ _).symm⟩
        rw [Form.text, ← hrest, List.takeWhile_append_dropWhile]
      · exact absurd h (by simp)
    · exact absurd h (by simp)
  · rintro ⟨name, between, email, ⟨hquote, hbetween, haddress⟩, rfl, rfl⟩
    obtain ⟨htake, hdrop⟩ := Text.span_delimiter hquote (between ++ '<' :: (email ++ ['>']))
    have hstart : Text.trimStart (between ++ '<' :: (email ++ ['>'])) = '<' :: (email ++ ['>']) :=
      (Text.trimStart_eq_cons_iff (by decide)).mpr ⟨between, rfl, hbetween⟩
    rw [Form.text, quoted?]
    simp only [htake, hdrop, hstart, angled?_eq_some_iff.mpr ⟨haddress, rfl⟩, Option.map_some,
      named_eq, Form.claim]

theorem bracketed?_eq_some_iff {t : Text} {c : Sender} :
    bracketed? t = some c ↔ ∃ email,
      (Form.bracketed email).Fits ∧ (Form.bracketed email).text = t ∧
        (Form.bracketed email).claim = c := by
  simp only [bracketed?, Option.map_eq_some_iff, angled?_eq_some_iff, Form.Fits, Form.text,
    Form.claim, and_assoc, eq_comm (a := t)]
  rfl

theorem bare?_eq_some_iff {t : Text} {c : Sender} :
    bare? t = some c ↔ ∃ email,
      (Form.bare email).Fits ∧ (Form.bare email).text = t ∧ (Form.bare email).claim = c := by
  rw [bare?]
  constructor
  · intro h
    split at h
    · next he => exact ⟨t, isAddress_iff.mpr he, rfl, Option.some.inj h⟩
    · exact absurd h (by simp)
  · rintro ⟨email, haddress, rfl, rfl⟩
    exact if_pos (isAddress_iff.mp haddress)

/-- What stands before the email is an unquoted name and blanks, if it starts with no blank and
holds neither quotes nor angle brackets. -/
theorem isBareName_trimEnd {t : Text} (hne : t ≠ []) (hhead : ∀ c ∈ t.head?, ¬Text.isBlank c)
    (hplain : ∀ c ∈ t, c ∉ ['\"', '<', '>']) : IsBareName (Text.trimEnd t) := by
  have htrim := Text.trim_eq_trimEnd hhead
  refine ⟨fun hnil => ?_, fun c hc => hplain c ?_, ?_⟩
  · -- otherwise all of it would be blanks, the first character too
    obtain ⟨blanks, happend, hblanks⟩ := Text.exists_trimEnd_append t
    rw [hnil, List.nil_append] at happend
    subst happend
    obtain ⟨c, s, rfl⟩ := List.exists_cons_of_ne_nil hne
    exact hhead c rfl (hblanks c List.mem_cons_self)
  · rw [← htrim] at hc
    exact Text.trim_subset _ hc
  · rw [← htrim]
    exact Text.getLast?_trim t

/-- What stands before the email is anything without quotes and angle brackets. -/
theorem unquoted?_eq_some_iff_front {t : Text} {c : Sender} :
    unquoted? t = some c ↔ ∃ front email,
      front ≠ [] ∧ (∀ x ∈ front, x ∉ ['\"', '<', '>']) ∧ IsAddress email ∧
        front ++ '<' :: (email ++ ['>']) = t ∧ named (Text.trim front) email = c := by
  constructor
  · intro h
    unfold unquoted? at h
    simp only at h
    split at h
    · exact absurd h (by simp)
    · next hfront =>
      obtain ⟨email, hemail, rfl⟩ := Option.map_eq_some_iff.mp h
      obtain ⟨haddress, hrest⟩ := angled?_eq_some_iff.mp hemail
      simp only [Bool.or_eq_true, List.isEmpty_iff, List.any_eq_true, not_or, not_exists,
        beq_iff_eq, not_and] at hfront
      refine ⟨t.takeWhile (· != '<'), email, hfront.1, fun x hx => ?_, haddress, ?_, rfl⟩
      · have hangle : x ≠ '<' := by
          rintro rfl
          exact Text.not_mem_takeWhile '<' t hx
        simp [hfront.2 x hx, hangle]
      · rw [← hrest, List.takeWhile_append_dropWhile]
  · rintro ⟨front, email, hne, hplain, haddress, rfl, rfl⟩
    have hangle : '<' ∉ front := fun hmem => hplain _ hmem (by decide)
    obtain ⟨htake, hdrop⟩ := Text.span_delimiter hangle (email ++ ['>'])
    have hquote : ∀ x ∈ front, ¬(x = '\"' ∨ x = '>') := fun x hx h =>
      hplain x hx (by rcases h with rfl | rfl <;> decide)
    rw [unquoted?]
    simp only [htake, hdrop]
    rw [if_neg, angled?_eq_some_iff.mpr ⟨haddress, rfl⟩, Option.map_some]
    simpa [hne] using hquote

/-- In a text that starts with no blank it is an unquoted name and blanks. -/
theorem unquoted?_eq_some_iff {t : Text} (ht : ∀ c ∈ t.head?, ¬Text.isBlank c) {c : Sender} :
    unquoted? t = some c ↔ ∃ name between email,
      (Form.unquoted name between email).Fits ∧ (Form.unquoted name between email).text = t ∧
        (Form.unquoted name between email).claim = c := by
  rw [unquoted?_eq_some_iff_front]
  constructor
  · rintro ⟨front, email, hne, hplain, haddress, rfl, rfl⟩
    have hhead : ∀ c ∈ front.head?, ¬Text.isBlank c := by
      obtain ⟨d, s, rfl⟩ := List.exists_cons_of_ne_nil hne
      exact ht
    have hname := isBareName_trimEnd hne hhead hplain
    obtain ⟨between, happend, hbetween⟩ := Text.exists_trimEnd_append front
    refine ⟨Text.trimEnd front, between, email, ⟨hname, hbetween, haddress⟩, ?_, ?_⟩
    · rw [Form.text, happend]
    · rw [named_eq, Text.trim_eq_trimEnd hhead, if_neg hname.nonempty, Form.claim]
  · rintro ⟨name, between, email, ⟨hname, hbetween, haddress⟩, rfl, rfl⟩
    have hhead : ∀ c ∈ (name ++ between).head?, ¬Text.isBlank c := by
      obtain ⟨d, s, rfl⟩ := List.exists_cons_of_ne_nil hname.nonempty
      exact ht
    refine ⟨name ++ between, email, by simp [hname.nonempty],
      fun x hx hmem => hname.not_mem_append hbetween hmem hx, haddress, rfl, ?_⟩
    rw [Text.trim_eq_trimEnd hhead, Text.trimEnd_append hname.trimmed hbetween, named_eq,
      if_neg hname.nonempty, Form.claim]

theorem Form.exists_iff {P : Form → Prop} :
    (∃ f, P f) ↔ (∃ name between email, P (quoted name between email)) ∨
      (∃ email, P (bracketed email)) ∨ (∃ name between email, P (unquoted name between email)) ∨
        ∃ email, P (bare email) := by
  constructor
  · rintro ⟨_ | _ | _ | _, h⟩
    · exact .inl ⟨_, _, _, h⟩
    · exact .inr (.inl ⟨_, h⟩)
    · exact .inr (.inr (.inl ⟨_, _, _, h⟩))
    · exact .inr (.inr (.inr ⟨_, h⟩))
  · rintro (⟨_, _, _, h⟩ | ⟨_, h⟩ | ⟨_, _, _, h⟩ | ⟨_, h⟩) <;> exact ⟨_, h⟩

/-- **A text that starts with no blank is read by the reader of a kind if it has a form of that
kind**, and then claims what the form says. -/
theorem Form.Kind.read?_eq_some_iff {t : Text} (ht : ∀ c ∈ t.head?, ¬Text.isBlank c)
    {k : Form.Kind} {c : Sender} :
    k.read? t = some c ↔ ∃ f : Form, f.kind = k ∧ f.Fits ∧ f.text = t ∧ f.claim = c := by
  rw [Form.exists_iff]
  cases k <;> simp only [Form.kind, reduceCtorEq, false_and, exists_false, true_and, or_false,
    false_or, read?]
  case quoted => exact quoted?_eq_some_iff
  case bracketed => exact bracketed?_eq_some_iff
  case unquoted => exact unquoted?_eq_some_iff ht
  case bare => exact bare?_eq_some_iff

/-- **The kinds may be tried in any order**: the first reader that succeeds gives the claim of the
one form that the text has. -/
theorem findSome?_eq_some_iff {t : Text} (ht : ∀ c ∈ t.head?, ¬Text.isBlank c)
    {ks : List Form.Kind} (hks : ∀ k, k ∈ ks) {c : Sender} :
    ks.findSome? (·.read? t) = some c ↔ ∃ f : Form, f.Fits ∧ f.text = t ∧ f.claim = c := by
  constructor
  · intro h
    obtain ⟨k, -, hk⟩ := List.exists_of_findSome?_eq_some h
    obtain ⟨f, -, hf⟩ := (Form.Kind.read?_eq_some_iff ht).mp hk
    exact ⟨f, hf⟩
  · rintro ⟨f, hfits, htext, hclaim⟩
    have hread := (Form.Kind.read?_eq_some_iff ht).mpr ⟨f, rfl, hfits, htext, hclaim⟩
    have hsome : (ks.findSome? (·.read? t)).isSome :=
      List.findSome?_isSome_iff.mpr ⟨f.kind, hks _, by rw [hread]; rfl⟩
    obtain ⟨c', hc'⟩ := Option.isSome_iff_exists.mp hsome
    -- whichever reader has succeeded, it has found the same form
    obtain ⟨k, -, hk⟩ := List.exists_of_findSome?_eq_some hc'
    obtain ⟨g, -, hgfits, hgtext, hgclaim⟩ := (Form.Kind.read?_eq_some_iff ht).mp hk
    rw [hc', ← hgclaim, ← hclaim, Form.text_inj hgfits hfits (hgtext.trans htext.symm)]

theorem parse?_eq_findSome? (s : String) :
    parse? s =
      [Form.Kind.quoted, .bracketed, .unquoted, .bare].findSome?
        (·.read? (Text.trim s.toList)) := by
  simp only [parse?, List.findSome?_cons, List.findSome?_nil, Form.Kind.read?]
  generalize quoted? _ = a, bracketed? _ = b, unquoted? _ = c, bare? _ = d
  cases a <;> cases b <;> cases c <;> cases d <;> rfl

/-- **A sender is read exactly if its text has a form**, once the blanks around it are gone, and
then claims what the form says. No text has two forms, or one form in two ways, so it makes no
difference in which order the kinds of forms are tried; and where a text has no form nothing is
claimed. -/
theorem parse?_forms (s : String) :
    (∀ c, parse? s = some c ↔
      ∃ f : Form, f.Fits ∧ f.text = Text.trim s.toList ∧ f.claim = c) ∧
    (∀ f g : Form, f.Fits → g.Fits → f.text = g.text → f = g) ∧
    (∀ ks : List Form.Kind, (∀ k, k ∈ ks) →
      ks.findSome? (·.read? (Text.trim s.toList)) = parse? s) ∧
    (parse? s = none ↔ ∀ f : Form, f.Fits → f.text ≠ Text.trim s.toList) := by
  have ht := Text.head?_trim s.toList
  have hparse : ∀ c, parse? s = some c ↔
      ∃ f : Form, f.Fits ∧ f.text = Text.trim s.toList ∧ f.claim = c := fun c => by
    rw [parse?_eq_findSome?]
    exact findSome?_eq_some_iff ht (by rintro (_ | _ | _ | _) <;> decide)
  refine ⟨hparse, fun f g hf hg => Form.text_inj hf hg, fun ks hks => ?_, ?_⟩
  · refine Option.ext fun c => ?_
    rw [hparse]
    exact findSome?_eq_some_iff ht hks
  · rw [Option.eq_none_iff_forall_ne_some]
    constructor
    · exact fun h f hfits htext => h f.claim ((hparse _).mpr ⟨f, hfits, htext, rfl⟩)
    · intro h c hc
      obtain ⟨f, hfits, htext, -⟩ := (hparse c).mp hc
      exact h f hfits htext

end Sender

end Maildrop
