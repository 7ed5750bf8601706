import Maildrop.Proofs.Mailbox.HeaderBlock
import Maildrop.Proofs.Mailbox.Views
import Maildrop.Proofs.Service.Ingested

/-!
# What counts as readable mail

Octets are turned away as empty if all of them are white space, and for their lack of headers if
they do not *open with a name* (`Maildrop.Envelope.OpensWith`): visible ASCII characters without a
colon, at least one of them, and a colon behind them. Octets that open with a name are turned away
only if reading them as mail finds no field (`Maildrop.Envelope.parse_eq_ok_iff`).

What a message opens with is told by its first line, and the first line is the first one of the
header block that a mailbox shows. The two are cut out by different readers: one line goes up to the
line feed, and the other loses a carriage return as well. But the name and its colon are in both, so
the header block of every message that has been accepted opens with the same name
(`Maildrop.Envelope.acceptance`).
-/

namespace Maildrop

open Ascii (lf octet)
open Store (Ledger Medium)

namespace Envelope

variable {raw name : Bytes}

/-! ### Names in front -/

/-- The five characters that are white space. -/
theorem isWhite_iff {b : UInt8} : Ascii.isWhite b ↔ b ∈ [0x20, 0x09, 0x0A, 0x0D, 0x0C] := by
  simp [Ascii.isWhite, or_assoc]

/-- Octets without a mark are passed over when it is looked for. -/
theorem takeWhile_append_of_not_mem {mark : UInt8} {l : Bytes} (h : mark ∉ l) (s : Bytes) :
    (l ++ s).takeWhile (· ≠ mark) = l ++ s.takeWhile (· ≠ mark) :=
  List.takeWhile_append_of_pos fun _ hb => decide_eq_true fun heq => h (heq ▸ hb)

/-- **Octets open with a name**: visible characters without a colon, and a colon behind them. -/
structure OpensWith (raw name : Bytes) : Prop where
  nonempty : name ≠ []
  visible : ∀ b ∈ name, 0x21 ≤ b ∧ b ≤ 0x7E
  noColon : octet ':' ∉ name
  followed : name ++ [octet ':'] <+: raw

namespace OpensWith

/-- A visible character is no white space. -/
theorem not_isWhite (h : OpensWith raw name) : ∀ b ∈ name, ¬Ascii.isWhite b := by
  intro b hb hwhite
  have hless : ∀ w ∈ [0x20, 0x09, 0x0A, 0x0D, 0x0C], w < (0x21 : UInt8) := by simp
  exact absurd (h.visible b hb).1 (UInt8.not_le.mpr (hless b (isWhite_iff.mp hwhite)))

/-- A name stands in one line. -/
theorem noFeed (h : OpensWith raw name) : lf ∉ name := fun hmem =>
  h.not_isWhite lf hmem (by decide)

/-- Octets that open with a name are not all white space. -/
theorem not_all_isWhite (h : OpensWith raw name) : ¬raw.all Ascii.isWhite := by
  obtain ⟨b, hb⟩ := List.exists_mem_of_ne_nil name h.nonempty
  intro hall
  have hraw : b ∈ raw := h.followed.subset (List.mem_append_left _ hb)
  exact h.not_isWhite b hb (List.all_eq_true.mp hall b hraw)

theorem ne_nil (h : OpensWith raw name) : raw ≠ [] := by
  rintro rfl
  exact h.not_all_isWhite rfl

/-- What octets open with is what stands before their first colon. -/
theorem eq_takeWhile (h : OpensWith raw name) : name = raw.takeWhile (· ≠ octet ':') := by
  obtain ⟨rest, rfl⟩ := h.followed
  rw [List.append_assoc, List.singleton_append, takeWhile_append_of_not_mem h.noColon,
    List.takeWhile_cons_of_neg (by simp), List.append_nil]

/-- Octets open with one name at most. -/
theorem unique {other : Bytes} (h : OpensWith raw name) (h' : OpensWith raw other) :
    other = name := h'.eq_takeWhile.trans h.eq_takeWhile.symm

/-- Octets that begin with the first line of others open with the same name. -/
theorem of_isPrefix {line : Bytes} (h : OpensWith line name) (hline : line <+: raw) :
    OpensWith raw name :=
  ⟨h.nonempty, h.visible, h.noColon, h.followed.trans hline⟩

/-- The first line of octets that open with a name opens with it. -/
theorem takeWhile (h : OpensWith raw name) : OpensWith (raw.takeWhile (· ≠ lf)) name := by
  obtain ⟨rest, rfl⟩ := h.followed
  have hfront : lf ∉ name ++ [octet ':'] := fun hmem =>
    (List.mem_append.mp hmem).elim h.noFeed (by decide)
  exact ⟨h.nonempty, h.visible, h.noColon, rest.takeWhile (· ≠ lf),
    (takeWhile_append_of_not_mem hfront rest).symm⟩

/-- A line opens with what it opens with together with the lines behind it. -/
theorem of_line {l s : Bytes} (h : OpensWith (l ++ lf :: s) name) (hl : lf ∉ l) :
    OpensWith l name := by
  have hfirst := h.takeWhile
  rwa [takeWhile_append_of_not_mem hl, List.takeWhile_cons_of_neg (by simp),
    List.append_nil] at hfirst

end OpensWith

/-- A visible ASCII character by its number. -/
theorem isGraphic_iff (b : UInt8) : Ascii.isGraphic b ↔ 0x21 ≤ b ∧ b ≤ 0x7E := by
  simp [Ascii.isGraphic]

/-- **The first line is a field if and only if the octets open with a name.** -/
theorem startsWithField_iff : startsWithField raw ↔ ∃ name, OpensWith raw name := by
  simp only [startsWithField, Bool.and_eq_true, Bool.not_eq_true', List.isEmpty_eq_false_iff,
    decide_eq_true_eq, List.all_eq_true, isGraphic_iff]
  generalize hline : raw.takeWhile (· ≠ lf) = line
  constructor
  · rintro ⟨⟨hne, hlength⟩, hvisible⟩
    suffices h : OpensWith line (line.takeWhile (· ≠ octet ':')) from
      ⟨_, h.of_isPrefix (hline ▸ List.takeWhile_prefix _)⟩
    refine ⟨hne, hvisible, fun hmem => ?_, ?_⟩
    · have := List.all_eq_true.mp List.all_takeWhile _ hmem
      simp at this
    · -- the name is not all of the line, so the colon that has ended it is behind it
      have happend := List.takeWhile_append_dropWhile (p := (· ≠ octet ':')) (l := line)
      have hstop := List.head?_dropWhile_not (· ≠ octet ':') line
      rcases hdrop : line.dropWhile (· ≠ octet ':') with _ | ⟨c, rest⟩ <;>
        rw [hdrop] at happend hstop
      · rw [List.append_nil] at happend
        exact absurd (congrArg List.length happend) (Nat.ne_of_lt hlength)
      · obtain rfl : c = octet ':' := by simpa using hstop
        exact ⟨rest, by rw [List.append_assoc]; exact happend⟩
  · rintro ⟨name, h⟩
    replace h := hline ▸ h.takeWhile
    have hlength := h.followed.length_le
    rw [List.length_append, List.length_singleton] at hlength
    rw [← h.eq_takeWhile]
    exact ⟨⟨h.nonempty, hlength⟩, h.visible⟩

/-! ### What is accepted -/

/-- **Octets are empty** if all of them are white space, and not for another reason. -/
theorem parse_eq_empty_iff : parse raw = .error .empty ↔ raw.all Ascii.isWhite := by
  rw [parse]
  refine ⟨fun h => by_contra fun hwhite => ?_, fun h => if_pos h⟩
  rw [if_neg hwhite] at h
  split at h
  · exact absurd h (by simp)
  · split at h
    · split at h <;> exact absurd h (by simp)
    · exact absurd h (by simp)

/-- Octets that are not empty, and do not open with a name, have no headers. -/
theorem parse_of_not_opensWith (hwhite : ¬raw.all Ascii.isWhite) (h : ∀ name, ¬OpensWith raw name) :
    parse raw = .error .noHeaders := by
  have hfield : ¬startsWithField raw := fun hfield =>
    (startsWithField_iff.mp hfield).elim h
  rw [parse, if_neg hwhite, if_pos (by simpa using hfield)]

/-- **Octets are accepted** if and only if they open with a name, and reading them as mail gives a
message with a field. What is kept is the subject in its header and its body tree. -/
theorem parse_eq_ok_iff {e : Envelope} :
    parse raw = .ok e ↔ (∃ name, OpensWith raw name) ∧
      ∃ root parts, Mime.PartTable.ofBytes? raw = some (root :: parts) ∧ root.header ≠ [] ∧
        e = ⟨root.header.subject?.map String.ofList,
          Mime.PartTable.bodyTree (root :: parts) root⟩ := by
  constructor
  · intro he
    rw [parse] at he
    split at he
    · exact absurd he (by simp)
    · split at he
      · exact absurd he (by simp)
      · next hfield =>
        refine ⟨startsWithField_iff.mp (by simpa using hfield), ?_⟩
        split at he
        · next root parts hparts =>
          split at he
          · exact absurd he (by simp)
          · next hheader =>
            exact ⟨root, parts, hparts, by simpa using hheader, (Except.ok.inj he).symm⟩
        · exact absurd he (by simp)
  · rintro ⟨⟨name, h⟩, root, parts, hparts, hheader, rfl⟩
    rw [parse, if_neg h.not_all_isWhite,
      if_neg (by simpa using startsWithField_iff.mpr ⟨name, h⟩), hparts]
    dsimp only
    rw [if_neg (by simpa using hheader)]

theorem exists_parse_iff :
    (∃ e, parse raw = .ok e) ↔ (∃ name, OpensWith raw name) ∧
      ∃ root parts, Mime.PartTable.ofBytes? raw = some (root :: parts) ∧ root.header ≠ [] := by
  simp only [parse_eq_ok_iff]
  constructor
  · rintro ⟨e, hname, root, parts, hparts, hheader, -⟩
    exact ⟨hname, root, parts, hparts, hheader⟩
  · rintro ⟨hname, root, parts, hparts, hheader⟩
    exact ⟨_, hname, root, parts, hparts, hheader, rfl⟩

end Envelope

namespace Mailbox

open Envelope (OpensWith)

/-! ### What is shown of it -/

/-- Without a carriage return at its end a line opens with the same name. -/
theorem opensWith_stripReturn {line : Bytes} (h : OpensWith line name) :
    OpensWith (stripReturn line) name := by
  rw [stripReturn]
  split
  · next hreturn =>
    obtain ⟨before, rfl⟩ := List.getLast?_eq_some_iff.mp hreturn
    rw [List.dropLast_concat]
    refine ⟨h.nonempty, h.visible, h.noColon, ?_⟩
    -- the carriage return is not the colon, so it stands behind it
    refine (List.prefix_concat_iff.mp h.followed).resolve_left fun heq => ?_
    exact absurd (List.append_inj_right' heq rfl) (by decide)
  · exact h

/-- **The header block of octets that open with a name opens with it.** -/
theorem opensWith_split (h : OpensWith raw name) : OpensWith (split raw).1 name := by
  rw [split]
  induction raw using lines_induction with
  | last l hfeed =>
    have hline := opensWith_stripReturn h
    rw [splitFrom_last hfeed, headerLines_last hfeed, if_neg hline.ne_nil]
    exact hline.of_isPrefix ⟨[lf], by simp⟩
  | line l s hfeed _ =>
    have hline := opensWith_stripReturn (h.of_line hfeed)
    rw [splitFrom_line hfeed, if_neg hline.ne_nil]
    exact hline.of_isPrefix ⟨lf :: (splitFrom [] s).1.flatMap (· ++ [lf]), by simp⟩

/-- A store shows the octets of a message that it holds, and the header block of these. -/
theorem shown_of_valid {k : Medium} {s : k.State} (h : k.Valid s) (id : String) :
    ((content id).eval k.backend s).1 = .ok (((k.ledger s).message? id).map Message.raw) ∧
    ((headers id).eval k.backend s).1 =
      .ok (((k.ledger s).message? id).map fun m => (split m.raw).1) :=
  ⟨(h.eval_eq (content id)).1.trans (congrArg Prod.fst (eval_content k.rules _ id)),
    (h.eval_eq (headers id)).1.trans (congrArg Prod.fst (eval_headers k.rules _ id))⟩

end Mailbox

namespace Envelope

/-- **What is accepted.** Octets are turned away as empty if and only if all of them are white
space, and of the others those that do not open with a name have no headers. Octets that open with
a name are not empty; they do so with one name only, and are accepted if and only if reading them as
mail gives a message with a field.

On a store that any calls have filled, the header block of a message whose octets are accepted
begins with the name that the octets open with, and a colon. If nobody writes to the store of a
service directly, every message has such octets. -/
theorem acceptance :
    (∀ raw : Bytes,
      (parse raw = .error .empty ↔ ∀ b ∈ raw, b ∈ [0x20, 0x09, 0x0A, 0x0D, 0x0C]) ∧
      ((∃ b ∈ raw, b ∉ [0x20, 0x09, 0x0A, 0x0D, 0x0C]) → (∀ name, ¬OpensWith raw name) →
        parse raw = .error .noHeaders) ∧
      ∀ name, OpensWith raw name →
        parse raw ≠ .error .empty ∧
        (∀ other, OpensWith raw other → other = name) ∧
        ((∃ e, parse raw = .ok e) ↔
          ∃ root parts, Mime.PartTable.ofBytes? raw = some (root :: parts) ∧ root.header ≠ [])) ∧
    (∀ (k : Medium) (cs : List Store.Call), ∀ m ∈ Store.standing (k.history cs),
      ∀ e, parse m.raw = .ok e → ∃ name rest, OpensWith m.raw name ∧
        ((Mailbox.headers m.id).eval k.backend (k.after cs)).1 =
          .ok (some (name ++ octet ':' :: rest))) ∧
    ∀ (k : Medium) (es : List (Instant × Event)), (∀ x ∈ es, x.2.Indirect) → ∀ id raw,
      ((Mailbox.content id).eval k.backend (k.serve es).2.store).1 = .ok (some raw) →
        ∃ e name rest, parse raw = .ok e ∧ OpensWith raw name ∧
          ((Mailbox.headers id).eval k.backend (k.serve es).2.store).1 =
            .ok (some (name ++ octet ':' :: rest)) := by
  have hheaders : ∀ {raw e}, parse raw = .ok e →
      ∃ name rest, OpensWith raw name ∧ (Mailbox.split raw).1 = name ++ octet ':' :: rest := by
    intro raw e he
    obtain ⟨⟨name, hname⟩, -⟩ := exists_parse_iff.mp ⟨e, he⟩
    obtain ⟨rest, hrest⟩ := (Mailbox.opensWith_split hname).followed
    exact ⟨name, rest, hname, by rw [← hrest, List.append_assoc, List.singleton_append]⟩
  refine ⟨fun raw => ⟨?_, fun hwhite hname => ?_, fun name hname => ⟨?_, ?_, ?_⟩⟩, ?_, ?_⟩
  · simp only [parse_eq_empty_iff, List.all_eq_true, isWhite_iff]
  · refine parse_of_not_opensWith (fun hall => ?_) hname
    obtain ⟨b, hb, hnot⟩ := hwhite
    exact hnot (isWhite_iff.mp (List.all_eq_true.mp hall b hb))
  · rw [Ne, parse_eq_empty_iff]
    exact hname.not_all_isWhite
  · exact fun other hother => hname.unique hother
  · rw [exists_parse_iff, and_iff_right ⟨name, hname⟩]
  · intro k cs m hm e he
    obtain ⟨name, rest, hname, hblock⟩ := hheaders he
    have hviews := Mailbox.views_of_messages (k.valid_after cs) (k.messages_after cs)
    obtain ⟨-, -, -, -, hshown, -⟩ := hviews.present m hm
    exact ⟨name, rest, hname, by rw [hshown, hblock]⟩
  · intro k es hes id raw hraw
    obtain ⟨hcontent, hshown⟩ := Mailbox.shown_of_valid (k.valid_serve es) id
    obtain ⟨m, hm, rfl⟩ := Option.map_eq_some_iff.mp (Except.ok.inj (hcontent.symm.trans hraw))
    obtain ⟨e, he⟩ : ∃ e, parse m.raw = .ok e := by
      obtain ⟨m', hprepared, rfl⟩ :=
        (Service.filled_serve k hes).messages m (Store.Ledger.mem_of_message? hm)
      exact hprepared.readable
    obtain ⟨name, rest, hname, hblock⟩ := hheaders he
    exact ⟨e, name, rest, he, hname, by rw [hshown, hm, Option.map_some, hblock]⟩

/-- Octets without a colon have no headers, and a session takes in a message that has. -/
theorem acceptance_session :
    let raw := "To: c\r\n\r\nd".toUTF8.toList
    parse "Hello".toUTF8.toList = .error .noHeaders ∧
    let es := [(1, Event.hear 0 "Ann <A@b>"), (2, .receive 0 ⟨raw, none, 0⟩)]
    ∃ e name rest, parse raw = .ok e ∧ OpensWith raw name ∧
      ((Mailbox.headers (MessageId.ofContent raw)).eval Medium.memory.backend
        (Medium.memory.serve es).2.store).1 = .ok (some (name ++ octet ':' :: rest)) := by
  intro raw
  constructor
  · refine (acceptance.1 _).2.1 ⟨octet 'H', by decide +kernel, by decide⟩ fun name h => ?_
    have hcolon : octet ':' ∈ "Hello".toUTF8.toList := h.followed.subset (by simp)
    exact absurd hcolon (by decide +kernel)
  · intro es
    exact acceptance.2.2 .memory es (by simp [es, Event.Indirect]) _ raw (by decide +kernel)

end Envelope

end Maildrop
