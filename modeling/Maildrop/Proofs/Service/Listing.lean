import Maildrop.CommandLine.Run
import Maildrop.Proofs.Json.ReadBack
import Maildrop.Proofs.Service.Senders
import Maildrop.Proofs.Text.Lines
import Mathlib.Algebra.Order.BigOperators.Group.List

/-!
# The lines of a listing

A listing for people is meant to have one line for each message, which begins with its id, and
below it one more, indented, with the title if the message has one
(`Maildrop.Mailbox.Summary.Laid`). What is printed depends on texts that strangers write: the name
in front of an email, a subject, the beginning of a body. A listing prints them as they are.

So an entry begins with its id, and is longer than it is meant to be by as many lines as there are
line feeds in the sender and in the title (`Maildrop.Mailbox.length_flatMap_entry`). The listing is
laid out as it is meant to be if and only if there are none (`Maildrop.Mailbox.exists_laid_iff`),
and then the ids can be read off the beginnings of its lines.

A quoted name, a decoded subject and a body can all hold line feeds. What stands behind one of them
is a line like any other: it can even begin with the id of a message that there is not
(`Maildrop.Service.listing_forged`).
-/

namespace Maildrop

open CommandLine (Task octets)
open Store (Ledger Medium)
open Text (HasLines)

/-! ### What has no line feed -/

theorem feed_not_mem_toDigits (n : Nat) : '\n' ∉ Nat.toDigits 10 n := fun h =>
  absurd (Json.isDigitAscii_of_mem_toDigits h) (by decide)

theorem feed_not_mem_toString (n : Nat) : '\n' ∉ (toString n).toList := by
  rw [Nat.toString_eq_ofList_toDigits, String.toList_ofList]
  exact feed_not_mem_toDigits n

theorem feed_not_mem_padNumber (width n : Nat) : '\n' ∉ (padNumber width n).toList := by
  simp [padNumber, List.mem_replicate, feed_not_mem_toDigits]

/-- How a date is written. The equation is one of functions: to compare the dates of an instant that
is not known, Lean would begin to compute them. -/
theorem Instant.date_eq :
    Instant.date = fun t =>
      match civilDate (t / 86400) with
      | (y, m, d) => padNumber 4 y ++ "-" ++ padNumber 2 m ++ "-" ++ padNumber 2 d := rfl

theorem Instant.feed_not_mem_date (t : Instant) : '\n' ∉ (Instant.date t).toList := by
  rw [date_eq]
  beta_reduce
  rcases civilDate (t / 86400) with ⟨y, m, d⟩
  simp [feed_not_mem_padNumber]

theorem Instant.feed_not_mem_timeOfDay (t : Instant) : '\n' ∉ (Instant.timeOfDay t).toList := by
  rw [timeOfDay]
  simp [feed_not_mem_padNumber]

/-- A date of the calendar stands in one line. -/
theorem TimeStyle.feed_not_mem_calendar (t : Instant) :
    '\n' ∉ (TimeStyle.calendar.brief t).toList := by
  simp [calendar, Instant.feed_not_mem_date, Instant.feed_not_mem_timeOfDay]

theorem MessageId.feed_not_mem {id : String} (h : isValid id) : '\n' ∉ id.toList := by
  rw [isValid, Bool.and_eq_true, List.all_eq_true] at h
  exact fun hmem => absurd (h.2 _ hmem) (by decide)

namespace Mailbox

variable {style : TimeStyle} {x : Summary}

/-! ### The lines of an entry -/

namespace Summary

/-- The line feeds in what strangers have written. -/
def breaks (x : Summary) : Nat := x.sender.toList.count '\n' + x.title.toList.count '\n'

/-- The number of titles of a message: one, unless the title is empty. -/
def titles (x : Summary) : Nat := if x.title = "" then 0 else 1

theorem countP_title_cons (x : Summary) (shown : List Summary) :
    (x :: shown).countP (·.title ≠ "") = x.titles + shown.countP (·.title ≠ "") := by
  rw [List.countP_cons, titles]
  by_cases htitle : x.title = "" <;> simp [htitle, Nat.add_comm]

/-- **The lines of an entry as they are meant to be**: one that begins with the id, and one more
that is indented if there is a title. -/
inductive Laid (x : Summary) : List Text → Prop
  | untitled {first : Text} (title : x.title = "") (id : x.id.toList <+: first) : Laid x [first]
  | titled {first second : Text} (title : x.title ≠ "") (id : x.id.toList <+: first)
    (indented : "    ".toList <+: second) : Laid x [first, second]

theorem Laid.length_eq {ls : List Text} (h : x.Laid ls) : ls.length = 1 + x.titles := by
  cases h with
  | untitled htitle _ => simp [titles, htitle]
  | titled htitle _ _ => simp [titles, htitle]

/-- The part of an entry in front of its title. -/
def heading (style : TimeStyle) (x : Summary) : String :=
  x.id ++ "  " ++ style.brief x.receivedAt ++ "  " ++ x.sender ++ "  " ++ toString x.size ++
    " bytes"

/-- **The lines that an entry has.** -/
def entry (style : TimeStyle) (x : Summary) : List Text :=
  (x.heading style).toList.splitOn '\n' ++
    if x.title = "" then [] else ("    " ++ x.title).toList.splitOn '\n'

theorem hasLines_text (style : TimeStyle) (x : Summary) :
    HasLines (x.text style).toList (x.entry style) := by
  have hline : ∀ s : String, HasLines (line s).toList (s.toList.splitOn '\n') := fun s => by
    rw [line, String.toList_append]
    exact Text.hasLines_splitOn s.toList
  rw [text, String.toList_append, entry]
  refine (hline (x.heading style)).append ?_
  by_cases htitle : x.title = ""
  · rw [if_pos htitle, if_pos (String.isEmpty_iff.mpr htitle)]
    exact .nil
  · rw [if_neg htitle, if_neg fun h => htitle (String.isEmpty_iff.mp h)]
    exact hline _

theorem id_prefix_heading (style : TimeStyle) (x : Summary) :
    x.id.toList <+: (x.heading style).toList := by
  rw [heading]
  simp only [String.toList_append, List.append_assoc]
  exact List.prefix_append _ _

theorem count_indented (x : Summary) :
    ("    " ++ x.title).toList.count '\n' = x.title.toList.count '\n' := by
  rw [String.toList_append, List.count_append]
  exact Nat.zero_add _

section

variable (hstyle : ∀ t, '\n' ∉ (style.brief t).toList) (hid : MessageId.isValid x.id)

include hstyle hid

theorem count_heading : (x.heading style).toList.count '\n' = x.sender.toList.count '\n' := by
  simp only [heading, String.toList_append, List.count_append,
    List.count_eq_zero_of_not_mem (MessageId.feed_not_mem hid),
    List.count_eq_zero_of_not_mem (hstyle x.receivedAt),
    List.count_eq_zero_of_not_mem (feed_not_mem_toString x.size)]
  simp

/-- **An entry begins with its id**, with a line for its title and one more for each line feed. -/
theorem entry_eq_cons :
    ∃ first rest, x.entry style = first :: rest ∧ x.id.toList <+: first ∧
      rest.length = x.titles + x.breaks := by
  obtain ⟨tail, htail⟩ := x.id_prefix_heading style
  obtain ⟨first, rest, hsplit, hfirst⟩ :=
    Text.splitOn_append_of_not_mem (MessageId.feed_not_mem hid) tail
  have hlength := Text.length_splitOn (x.heading style).toList
  rw [count_heading hstyle hid, ← htail, hsplit, List.length_cons] at hlength
  rw [entry, ← htail, hsplit, List.cons_append]
  refine ⟨first, _, rfl, hfirst, ?_⟩
  rw [List.length_append, Nat.add_right_cancel hlength, titles, breaks]
  by_cases htitle : x.title = ""
  · simp [htitle]
  · rw [if_neg htitle, if_neg htitle, Text.length_splitOn, x.count_indented]
    omega

/-- Without a line feed an entry is laid out as it is meant to be. -/
theorem laid_entry (hbreaks : x.breaks = 0) : x.Laid (x.entry style) := by
  obtain ⟨hsender, htext⟩ := Nat.add_eq_zero_iff.mp hbreaks
  have hheading : '\n' ∉ (x.heading style).toList :=
    List.count_eq_zero.mp ((count_heading hstyle hid).trans hsender)
  have hindented : '\n' ∉ ("    " ++ x.title).toList :=
    List.count_eq_zero.mp (x.count_indented.trans htext)
  rw [entry, List.splitOn_eq_singleton hheading]
  by_cases htitle : x.title = ""
  · rw [if_pos htitle, List.append_nil]
    exact .untitled htitle (x.id_prefix_heading style)
  · rw [if_neg htitle, List.splitOn_eq_singleton hindented]
    exact .titled htitle (x.id_prefix_heading style)
      ⟨x.title.toList, (String.toList_append ..).symm⟩

end

/-- As they are meant to be, entries have a line for each message and one for each title. -/
theorem Laid.length_flatten {shown : List Summary} {groups : List (List Text)}
    (h : List.Forall₂ Laid shown groups) :
    groups.flatten.length = shown.length + shown.countP (·.title ≠ "") := by
  induction h with
  | nil => rfl
  | @cons x ls shown groups hlaid _ ih =>
    rw [List.flatten_cons, List.length_append, ih, hlaid.length_eq, List.length_cons,
      countP_title_cons]
    omega

end Summary

/-! ### Ids at the beginning of lines -/

/-- **The id that a line begins with**, if it begins with one. -/
def printedId? (l : Text) : Option String :=
  let id := String.ofList (l.take MessageId.size)
  if MessageId.isValid id then some id else none

/-- A line that begins with an id begins with no other. -/
theorem printedId?_eq_some {id : String} (hid : MessageId.isValid id) {l : Text}
    (h : id.toList <+: l) : printedId? l = some id := by
  have hsize : id.toList.length = MessageId.size := by
    rw [MessageId.isValid, Bool.and_eq_true] at hid
    simpa using hid.1
  have htake : l.take MessageId.size = id.toList := by
    rw [← hsize]
    exact (List.prefix_iff_eq_take.mp h).symm
  rw [printedId?, htake, String.ofList_toList, if_pos hid]

/-- An indented line begins with no id. -/
theorem printedId?_eq_none {l : Text} (h : "    ".toList <+: l) : printedId? l = none := by
  obtain ⟨tail, rfl⟩ := h
  refine if_neg fun hvalid => ?_
  rw [MessageId.isValid, Bool.and_eq_true, List.all_eq_true] at hvalid
  have hspace : ' ' ∈ (("    ".toList ++ tail).take MessageId.size) := List.mem_cons_self
  exact absurd (hvalid.2 ' ' (by rwa [String.toList_ofList])) (by decide)

/-- The ids of messages are read off their entries, as these are meant to be. -/
theorem Summary.Laid.filterMap_printedId {ls : List Text} (h : x.Laid ls)
    (hid : MessageId.isValid x.id) : ls.filterMap printedId? = [x.id] := by
  cases h with
  | untitled _ hfirst =>
    rw [List.filterMap_cons_some (printedId?_eq_some hid hfirst), List.filterMap_nil]
  | titled _ hfirst hsecond =>
    rw [List.filterMap_cons_some (printedId?_eq_some hid hfirst),
      List.filterMap_cons_none (printedId?_eq_none hsecond), List.filterMap_nil]

/-! ### The listing -/

variable {shown : List Summary}

theorem hasLines_listing (style : TimeStyle) (shown : List Summary) :
    HasLines (listing style shown).toList (shown.flatMap (·.entry style)) := by
  have hlists :
      (listing style shown).toList = (shown.map fun x => (x.text style).toList).flatten := by
    rw [listing, String.toList_join, List.flatMap_map]
    rfl
  rw [hlists]
  refine HasLines.flatten ?_
  rw [List.forall₂_map_left_iff, List.forall₂_map_right_iff, List.forall₂_same]
  exact fun x _ => x.hasLines_text style

section

variable (hstyle : ∀ t, '\n' ∉ (style.brief t).toList) (hids : ∀ x ∈ shown, MessageId.isValid x.id)

include hstyle hids

/-- **There are as many lines as messages and titles**, and one more for each line feed. -/
theorem length_flatMap_entry :
    (shown.flatMap (·.entry style)).length =
      shown.length + shown.countP (·.title ≠ "") + (shown.map (·.breaks)).sum := by
  induction shown with
  | nil => rfl
  | cons x shown ih =>
    obtain ⟨hid, hids⟩ := List.forall_mem_cons.mp hids
    obtain ⟨first, rest, hentry, -, hlength⟩ := Summary.entry_eq_cons hstyle hid
    rw [List.flatMap_cons, List.length_append, ih hids, hentry, List.length_cons, hlength,
      List.length_cons, Summary.countP_title_cons, List.map_cons, List.sum_cons]
    omega

/-- **A listing is laid out as it is meant to be** if and only if no sender and no title has a line
feed. -/
theorem exists_laid_iff :
    (∃ groups, List.Forall₂ Summary.Laid shown groups ∧
      HasLines (listing style shown).toList groups.flatten) ↔ ∀ x ∈ shown, x.breaks = 0 := by
  constructor
  · rintro ⟨groups, hlaid, hlines⟩
    -- the lines are the same however they are grouped, so there are no more of them than meant
    have hlength := Summary.Laid.length_flatten hlaid
    rw [(hasLines_listing style shown).unique hlines, length_flatMap_entry hstyle hids] at hlength
    have hsum : (shown.map (·.breaks)).sum = 0 := by omega
    exact fun x hx => List.sum_eq_zero_iff.mp hsum _ (List.mem_map_of_mem hx)
  · intro hbreaks
    refine ⟨shown.map (·.entry style), ?_, ?_⟩
    · rw [List.forall₂_map_right_iff, List.forall₂_same]
      exact fun x hx => Summary.laid_entry hstyle (hids x hx) (hbreaks x hx)
    · rw [← List.flatMap_def]
      exact hasLines_listing style shown

/-- Where there is no line feed, the ids of the messages can be read off the lines. -/
theorem filterMap_printedId (hbreaks : ∀ x ∈ shown, x.breaks = 0) :
    (shown.flatMap (·.entry style)).filterMap printedId? = shown.map (·.id) := by
  induction shown with
  | nil => rfl
  | cons x shown ih =>
    obtain ⟨hid, hids⟩ := List.forall_mem_cons.mp hids
    obtain ⟨hx, hbreaks⟩ := List.forall_mem_cons.mp hbreaks
    rw [List.flatMap_cons, List.filterMap_append, ih hids hbreaks,
      (Summary.laid_entry hstyle hid hx).filterMap_printedId hid]
    rfl

end

end Mailbox

/-! ### What a service lists -/

/-- The line feeds of a sender that can be read back are those of the name. -/
theorem Address.count_display {a : Address}
    (h : Sender.parse? a.display = some ⟨a.name, a.email⟩) :
    a.display.toList.count '\n' = a.name.elim 0 fun name => name.toList.count '\n' := by
  have hemail : a.email.toList.count '\n' = 0 := by
    refine List.count_eq_zero.mpr fun hmem => ?_
    exact Sender.not_isBlank_of_mem (Sender.wellFormed_of_parse? h).email _ hmem (by decide)
  rw [display]
  rcases a.name with _ | name
  · simp [hemail]
  · simp [hemail]

/-- A valid store has a summary for each message, with the line feeds of the name of its sender and
of its title. -/
theorem Mailbox.forall₂_summaries {k : Medium} {s : k.State} (h : k.Valid s)
    (haddresses : ∀ a ∈ (k.ledger s).addresses,
      Sender.parse? a.display = some ⟨a.name, a.email⟩) :
    List.Forall₂ (fun m x => x.id = m.id ∧
      (x.title = if m.subjectPreview.isEmpty then
        String.ofList (Text.shorten m.bodyPreview.toList) else m.subjectPreview) ∧
      ∃ a, k.ask (.address m.senderId) s = .ok (some a) ∧
        x.breaks = (a.name.elim 0 fun name => name.toList.count '\n') + x.title.toList.count '\n')
      (k.ledger s).messages ((k.ledger s).previews.map Summary.ofPreview) := by
  rw [List.forall₂_map_right_iff]
  refine h.sound.forall₂_previews.imp fun m p hp => ?_
  obtain ⟨a, ha, rfl⟩ := hp
  refine ⟨rfl, rfl, a, (h.ask_eq _).trans (congrArg Except.ok ha), ?_⟩
  have hsender := Address.count_display (haddresses a (Ledger.mem_of_address? ha))
  exact congrArg (· + _) hsender

/-- **What a listing of messages taken in is made of**, on a store that is written to only through
the texts of senders and what they deliver. It has an entry for each message, in the order of the
store. An entry begins with the id of its message, and has a line for the title if there is one;
and it has one line more for each line feed in the name of the sender or in the title. So the
listing is laid out as it is meant to be if and only if there is no such line feed; then it has as
many lines as there are messages and titles, and the ids that its lines begin with are those of the
messages. -/
theorem Service.listing_lines (k : Medium) {style : TimeStyle}
    (hstyle : ∀ t, '\n' ∉ (style.brief t).toList) {es : List (Instant × Event)}
    (hes : ∀ x ∈ es, x.2.FromSenders ∧ x.2.Indirect) :
    let s := (k.serve es).2.store
    ∃ shown : List Mailbox.Summary,
      (∀ d, (((Task.list false).answer style d).eval k.backend s).1 =
        .ok (octets (Mailbox.listing style shown))) ∧
      List.Forall₂ (fun m x => x.id = m.id ∧
        (x.title = if m.subjectPreview.isEmpty then
          String.ofList (Text.shorten m.bodyPreview.toList) else m.subjectPreview) ∧
        ∃ a, k.ask (.address m.senderId) s = .ok (some a) ∧
          x.breaks = (a.name.elim 0 fun name => name.toList.count '\n') +
            x.title.toList.count '\n') (k.ledger s).messages shown ∧
      HasLines (Mailbox.listing style shown).toList (shown.flatMap (·.entry style)) ∧
      (∀ x ∈ shown, ∃ first rest, x.entry style = first :: rest ∧ x.id.toList <+: first ∧
        rest.length = (if x.title = "" then 0 else 1) + x.breaks) ∧
      (shown.flatMap (·.entry style)).length =
        shown.length + shown.countP (·.title ≠ "") + (shown.map (·.breaks)).sum ∧
      ((∃ groups, List.Forall₂ Mailbox.Summary.Laid shown groups ∧
        HasLines (Mailbox.listing style shown).toList groups.flatten) ↔
          ∀ x ∈ shown, x.breaks = 0) ∧
      ((∀ x ∈ shown, x.breaks = 0) →
        (shown.flatMap (·.entry style)).filterMap Mailbox.printedId? = shown.map (·.id)) := by
  intro s
  obtain ⟨hvalid, haddresses⟩ := addresses_read_back k fun x hx => (hes x hx).1
  have hfilled := filled_serve k fun x hx => (hes x hx).2
  have hlisted := Mailbox.forall₂_summaries hvalid haddresses
  have hids : ∀ x ∈ (k.ledger s).previews.map Mailbox.Summary.ofPreview,
      MessageId.isValid x.id := by
    intro x hx
    obtain ⟨p, hp, rfl⟩ := List.mem_map.mp hx
    obtain ⟨m, hm, hpreview⟩ := List.mem_filterMap.mp hp
    obtain ⟨a, -, rfl⟩ := Option.map_eq_some_iff.mp hpreview
    obtain ⟨m', hprepared, rfl⟩ := hfilled.messages m hm
    change MessageId.isValid m'.id
    rw [hprepared.named]
    exact MessageId.isValid_ofContent _
  refine ⟨_, fun d => (hvalid.eval_eq ((Task.list false).answer style d)).1, hlisted,
    Mailbox.hasLines_listing style _, fun x hx => Mailbox.Summary.entry_eq_cons hstyle (hids x hx),
    Mailbox.length_flatMap_entry hstyle hids, Mailbox.exists_laid_iff hstyle hids,
    Mailbox.filterMap_printedId hstyle hids⟩

/-- A message with a body of two lines is listed with its id and two more lines. -/
theorem Service.listing_lines_preview :
    let es := [(0, Event.submit "a@b" ⟨"To: c\n\none\ntwo".toUTF8.toList, none, 0⟩)]
    let s := (Medium.database.serve es).2.store
    ∃ shown : List Mailbox.Summary,
      (((Task.list false).answer .calendar ⟨[], none, 0⟩).eval Medium.database.backend s).1 =
        .ok (octets (Mailbox.listing .calendar shown)) ∧
      HasLines (Mailbox.listing .calendar shown).toList (shown.flatMap (·.entry .calendar)) ∧
      (shown.flatMap (·.entry .calendar)).length =
        shown.length + shown.countP (·.title ≠ "") + (shown.map (·.breaks)).sum := by
  intro es s
  have hes : ∀ x ∈ es, x.2.FromSenders ∧ x.2.Indirect := by
    simp [es, Event.FromSenders, Event.Indirect]
  obtain ⟨shown, hanswer, -, hlines, -, hlength, -⟩ :=
    listing_lines .database TimeStyle.feed_not_mem_calendar hes
  exact ⟨shown, hanswer _, hlines, hlength⟩

/-- **A body can forge an entry.** One message is stored, and the lines of its entry cannot be seen
as what they are meant to be: there are three of them, and the last begins with an id of its own. -/
theorem Service.listing_forged :
    let forged := "AAAAAAAAAAAAAAAAAAAAAAAAAAAAAAAAAAAAAAAAAAA"
    let es := [(0, Event.submit "a@b" ⟨("To: c\n\nx\n" ++ forged ++ "  0").toUTF8.toList, none, 0⟩)]
    let s := (Medium.database.serve es).2.store
    ∃ x : Mailbox.Summary,
      (Mailbox.summaries.eval Medium.database.backend s).1 = .ok [x] ∧ x.id ≠ forged ∧
      (x.entry .calendar).length = 3 ∧
      (x.entry .calendar).filterMap Mailbox.printedId? = [x.id, forged] ∧
      ¬∃ groups, List.Forall₂ Mailbox.Summary.Laid [x] groups ∧
        HasLines (Mailbox.listing .calendar [x]).toList groups.flatten := by
  intro forged es s
  let x : Mailbox.Summary :=
    { id := "rl2Hn8nHf2c3hNL3R6KSGm9-Mq5OOkuwwRHZlIfffGY", sender := "<a@b>", senderEmail := "a@b"
      subject := "", snippet := "x\n" ++ forged ++ "  0", title := "x\n" ++ forged ++ "  0"
      slug := "x-aaaaaaaaaaaaaaaaaaaaaaaaaaaaaaaaaaaaaaaaaaa-0", size := 55, receivedAt := 0 }
  have hids : ∀ y ∈ [x], MessageId.isValid y.id := by decide +kernel
  have hbreaks : ¬∀ y ∈ [x], y.breaks = 0 := by decide +kernel
  refine ⟨x, by decide +kernel, by decide +kernel, by decide +kernel, by decide +kernel, ?_⟩
  rwa [Mailbox.exists_laid_iff TimeStyle.feed_not_mem_calendar hids]

end Maildrop
