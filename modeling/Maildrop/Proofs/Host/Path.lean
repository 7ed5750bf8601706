import Maildrop.Proofs.Host.Disk
import Mathlib.Data.List.TakeWhile

/-!
# Paths of files

A path that leads to a file leads through the directory in which the file is, so nothing has to
be made for that directory to be there (`Maildrop.Host.Disk.makeDirectories_parent`). The path of
the directory is a text of its own, cut out of the path of the file: its parts are read from it
again (`Maildrop.Path.parts_ofParts`), and where it differs from the front of the path, it only
lacks parts that lead nowhere.

A path without its detours leads where the path has led (`Maildrop.Host.Disk.resolve_normal`). It
may lead somewhere while the path does not, since nothing needs to be where the detours are. If the
path leads somewhere, so do its detours (`Maildrop.Host.Disk.resolve_of_mem_detours`), and for that
it is enough that its directory is there (`Maildrop.Host.Disk.resolve_of_mem_detours_of_parent`).
-/

namespace Maildrop

namespace Path

/-! ### Parts -/

/-- A path is split at its slashes. -/
theorem parts_eq_splitOn (s : Text) : parts s = s.splitOn '/' := by
  rw [List.splitOn_eq_splitOnP]
  induction s with
  | nil => rfl
  | cons c s ih =>
    rw [parts, List.splitOnP_cons_eq_if_modifyHead, ih]
    by_cases hc : c = '/'
    · rw [if_pos hc, if_pos (beq_iff_eq.mpr hc)]
    · rw [if_neg hc, if_neg (by simpa using hc)]
      rcases h : s.splitOnP (· == '/') with _ | ⟨p, ps⟩
      · exact absurd h (List.splitOnP_ne_nil _ _)
      · rfl

theorem not_mem_of_mem_parts {s p : Text} (h : p ∈ parts s) : '/' ∉ p := by
  induction s generalizing p with
  | nil =>
    obtain rfl := List.mem_singleton.mp h
    exact List.not_mem_nil
  | cons c s ih =>
    rw [parts] at h
    split at h
    · rcases List.mem_cons.mp h with rfl | hp
      · exact List.not_mem_nil
      · exact ih hp
    · next hc =>
      split at h
      · next q ps hs =>
        rcases List.mem_cons.mp h with rfl | hp
        · rintro hmem
          rcases List.mem_cons.mp hmem with heq | hmem
          · exact hc heq.symm
          · exact ih (hs ▸ List.mem_cons_self) hmem
        · exact ih (hs ▸ List.mem_cons_of_mem _ hp)
      · obtain rfl := List.mem_singleton.mp h
        simpa using fun h => hc h.symm

/-- **The parts of a path are read from it**, if none has a slash. -/
theorem parts_ofParts {ps : List Text} (hne : ps ≠ []) (h : ∀ p ∈ ps, '/' ∉ p) :
    parts (ofParts ps) = ps := by
  rw [parts_eq_splitOn, ofParts, List.splitOn_intercalate '/' h hne]

/-- A path is made up of its parts. -/
theorem ofParts_parts (s : Text) : ofParts (parts s) = s := by
  rw [parts_eq_splitOn, ofParts, List.intercalate_splitOn]

theorem parts_ne_nil (s : Text) : parts s ≠ [] := by
  rw [parts_eq_splitOn]
  exact List.splitOn_ne_nil _ _

/-- A slash at the end stands before an empty part. -/
theorem parts_concat_slash (s : Text) : parts (s ++ ['/']) = parts s ++ [[]] := by
  induction s with
  | nil => rfl
  | cons c s ih =>
    rw [List.cons_append, parts, parts, ih]
    by_cases hc : c = '/'
    · rw [if_pos hc, if_pos hc, List.cons_append]
    · rw [if_neg hc, if_neg hc]
      rcases hs : parts s with _ | ⟨p, ps⟩
      · exact absurd hs (parts_ne_nil s)
      · rfl

/-- What is dropped at the end leads nowhere. -/
theorem exists_dropIdle (ps : List Text) :
    ∃ idle, ps = dropIdle ps ++ idle ∧ ∀ p ∈ idle, isIdle p = true := by
  refine ⟨(ps.reverse.takeWhile isIdle).reverse, ?_, fun p hp => ?_⟩
  · rw [dropIdle, ← List.reverse_append, List.takeWhile_append_dropWhile, List.reverse_reverse]
  · exact List.mem_takeWhile_imp (List.mem_reverse.mp hp)

/-- A path of parts starts at the root if the first part is empty and not the only one. -/
theorem head?_ofParts {first : Text} (hfirst : '/' ∉ first) {rest : List Text}
    (hne : first ≠ [] ∨ rest ≠ []) :
    (ofParts (first :: rest)).head? = some '/' ↔ first = [] := by
  rcases first with _ | ⟨c, first⟩
  · rcases rest with _ | ⟨p, rest⟩
    · simp at hne
    · simp [ofParts, List.intercalate]
  · have hc : c ≠ '/' := fun h => hfirst (h ▸ List.mem_cons_self)
    rcases rest with _ | ⟨p, rest⟩
    · simp [ofParts, List.intercalate, hc]
    · simp [ofParts, List.intercalate, hc]

/-- A directory is the root, or its path is made up of parts. -/
theorem eq_of_root_or_ofParts {first : Text} {rest : List Text} {directory : String}
    (h : (match first, rest with
      | [], [] => some "/"
      | first, rest => some (String.ofList (ofParts (first :: rest)))) = some directory) :
    (first = [] ∧ rest = []) ∧ directory = "/" ∨
      (first ≠ [] ∨ rest ≠ []) ∧ directory = String.ofList (ofParts (first :: rest)) := by
  rcases first with _ | ⟨c, first⟩
  · rcases rest with _ | ⟨p, rest⟩
    · exact .inl ⟨⟨rfl, rfl⟩, (Option.some.inj h).symm⟩
    · exact .inr ⟨.inr (by simp), (Option.some.inj h).symm⟩
  · exact .inr ⟨.inl (by simp), (Option.some.inj h).symm⟩

/-! ### Characters -/

/-- What is in a path is a slash or in a part. -/
theorem mem_ofParts_iff {ps : List Text} {c : Char} (hc : c ≠ '/') :
    c ∈ ofParts ps ↔ ∃ p ∈ ps, c ∈ p := by
  induction ps with
  | nil => simp [ofParts, List.intercalate]
  | cons p ps ih =>
    simp only [List.mem_cons, exists_eq_or_imp]
    rw [← ih]
    rcases ps with _ | ⟨q, ps⟩
    · simp [ofParts, List.intercalate]
    · simp [ofParts, List.intercalate, hc]

/-- The path of a directory has no other characters than slashes and those of the path in it. -/
theorem mem_of_parent {path directory : String} (h : parent? path = some directory) {c : Char}
    (hc : c ≠ '/') (hmem : c ∈ directory.toList) : c ∈ path.toList := by
  rw [← ofParts_parts path.toList, mem_ofParts_iff hc]
  rw [parent?] at h
  rcases hparts : parts path.toList with _ | ⟨first, rest⟩ <;> rw [hparts] at h
  · exact absurd h (by simp)
  dsimp only at h
  split at h
  · split at h
    · exact absurd h (by simp)
    · obtain rfl := Option.some.inj h
      exact absurd hmem (by simp)
  · rcases eq_of_root_or_ofParts h with ⟨-, rfl⟩ | ⟨-, rfl⟩
    · exact absurd hmem (by simp [hc])
    · rw [String.toList_ofList, mem_ofParts_iff hc] at hmem
      obtain ⟨p, hp, hcp⟩ := hmem
      have hsub (ps : List Text) : dropIdle ps ⊆ ps := by
        obtain ⟨idle, heq, -⟩ := exists_dropIdle ps
        intro q hq
        rw [heq]
        exact List.mem_append_left _ hq
      refine ⟨p, List.mem_cons.mpr ((List.mem_cons.mp hp).imp_right fun hp => ?_), hcp⟩
      exact hsub rest (List.dropLast_subset _ (hsub _ hp))

/-! ### Detours -/

/-- With one more part, none is taken but that, and only if it leads somewhere. -/
theorem of_mem_goOn {rooted : Bool} {taken : List Text} {part p : Text}
    (h : p ∈ goOn rooted taken part) : p ∈ taken ∨ p = part ∧ isIdle part = false := by
  unfold goOn at h
  split at h
  · exact .inl h
  · next hpart => grind

/-- What a path without its detours is made of: parts of the path that lead somewhere. -/
theorem of_mem_foldl_goOn {rooted : Bool} {ps taken : List Text} {p : Text}
    (h : p ∈ ps.foldl (goOn rooted) taken) : p ∈ taken ∨ p ∈ ps ∧ isIdle p = false := by
  induction ps generalizing taken with
  | nil => exact .inl h
  | cons q ps ih =>
    rcases ih h with hp | ⟨hp, hidle⟩
    · refine (of_mem_goOn hp).imp_right ?_
      rintro ⟨rfl, hidle⟩
      exact ⟨List.mem_cons_self, hidle⟩
    · exact .inr ⟨List.mem_cons_of_mem _ hp, hidle⟩

section Taken

variable (rooted : Bool) {taken : List Text} (htaken : ∀ p ∈ taken, '/' ∉ p ∧ isIdle p = false)

include htaken

/-- The path of parts that have led somewhere starts where they have started, and is not empty. -/
theorem head?_ofTaken :
    ∃ c, (ofTaken rooted taken).toList.head? = some c ∧ (c = '/' ↔ rooted = true) := by
  rw [ofTaken, String.toList_ofList]
  split
  · next hrooted => exact ⟨'/', rfl, iff_of_true rfl hrooted⟩
  · next hrooted =>
    have hmem : ∀ p ∈ taken.reverse, '/' ∉ p ∧ isIdle p = false :=
      fun p hp => htaken p (List.mem_reverse.mp hp)
    rw [← List.isEmpty_reverse]
    generalize taken.reverse = ps at hmem ⊢
    rcases ps with _ | ⟨_ | ⟨c, p⟩, ps⟩
    · exact ⟨'.', rfl, iff_of_false (by decide) hrooted⟩
    · exact absurd (hmem [] List.mem_cons_self).2 (by decide)
    · refine ⟨c, ?_, iff_of_false ?_ hrooted⟩
      · cases ps <;> rfl
      · rintro rfl
        exact (hmem _ List.mem_cons_self).1 List.mem_cons_self

theorem isAbsolute_ofTaken : isAbsolute (ofTaken rooted taken) = rooted := by
  obtain ⟨c, hc, hrooted⟩ := head?_ofTaken rooted htaken
  rw [isAbsolute, hc, Bool.eq_iff_iff, ← hrooted]
  simp

theorem isEmpty_ofTaken : (ofTaken rooted taken).isEmpty = false := by
  obtain ⟨c, hc, -⟩ := head?_ofTaken rooted htaken
  rw [← Bool.not_eq_true, String.isEmpty_iff, ← String.toList_eq_nil_iff]
  intro hnil
  rw [hnil] at hc
  exact absurd hc (by simp)

end Taken

/-- The parts that make up a path without its detours lead somewhere, and have no slash. -/
theorem of_mem_foldl_parts {rooted : Bool} {s p : Text} (h : p ∈ (parts s).foldl (goOn rooted) []) :
    '/' ∉ p ∧ isIdle p = false := by
  rcases of_mem_foldl_goOn h with hp | ⟨hp, hidle⟩
  · exact absurd hp List.not_mem_nil
  · exact ⟨not_mem_of_mem_parts hp, hidle⟩

/-- A path without its detours starts where the path starts. -/
theorem isAbsolute_normal (path : String) : isAbsolute (normal path) = isAbsolute path :=
  isAbsolute_ofTaken _ fun _ => of_mem_foldl_parts

theorem goOn_of_idle {part : Text} (h : isIdle part = true) (rooted : Bool) (taken : List Text) :
    goOn rooted taken part = taken :=
  if_pos h

/-- Parts that lead nowhere have no detours. -/
theorem detoursAlong_of_idle {idle : List Text} (hidle : ∀ p ∈ idle, isIdle p = true)
    (rooted : Bool) (taken : List Text) : detoursAlong rooted taken idle = [] := by
  induction idle with
  | nil => rfl
  | cons p idle ih =>
    have hp := hidle p List.mem_cons_self
    have hback : p ≠ ['.', '.'] := by
      rintro rfl
      exact absurd hp (by decide)
    rw [detoursAlong, if_neg hback, goOn_of_idle hp]
    exact ih fun q hq => hidle q (List.mem_cons_of_mem _ hq)

theorem detoursAlong_append_idle {idle : List Text} (hidle : ∀ p ∈ idle, isIdle p = true)
    (rooted : Bool) (taken ps : List Text) :
    detoursAlong rooted taken (ps ++ idle) = detoursAlong rooted taken ps := by
  induction ps generalizing taken with
  | nil => exact detoursAlong_of_idle hidle rooted taken
  | cons p ps ih => rw [List.cons_append, detoursAlong, detoursAlong, ih]

/-- A path that is in no directory has no detours. -/
theorem detours_of_parent_none {path : String} (h : parent? path = none) : detours path = [] := by
  rw [parent?] at h
  rw [detours]
  rcases hparts : parts path.toList with _ | ⟨first, rest⟩ <;> rw [hparts] at h
  · rfl
  dsimp only at h
  split at h
  · next hrest =>
    split at h
    · next hfirst =>
      obtain rfl := List.isEmpty_iff.mp hfirst
      obtain ⟨idle, heq, hidle⟩ := exists_dropIdle rest
      rw [List.isEmpty_iff.mp hrest, List.nil_append] at heq
      refine detoursAlong_of_idle (fun p hp => ?_) _ _
      rcases List.mem_cons.mp hp with rfl | hp
      · rfl
      · exact hidle p (heq ▸ hp)
    · exact absurd h (by simp)
  · split at h <;> exact absurd h (by simp)

end Path

namespace Host.Disk

variable {d : Disk} {z q : Place} {path directory : String}

/-! ### Walking along parts -/

/-- Where parts lead, the first of them lead on the way. -/
theorem exists_walk_of_append {ps ps' : List Text} (h : d.walk z (ps ++ ps') = .ok q) :
    ∃ y, d.walk z ps = .ok y ∧ d.walk y ps' = .ok q := by
  induction ps generalizing z with
  | nil => exact ⟨z, rfl, h⟩
  | cons p ps ih =>
    rw [List.cons_append, walk] at h
    rw [walk]
    rcases hz : d.node? z with _ | _ | content <;> rw [hz] at h
    · exact absurd h (by simp)
    · exact ih h
    · exact absurd h (by simp)

/-- Where parts lead, more parts go on from. -/
theorem walk_append {y : Place} {ps : List Text} (h : d.walk z ps = .ok y) (ps' : List Text) :
    d.walk z (ps ++ ps') = d.walk y ps' := by
  induction ps generalizing z with
  | nil =>
    obtain rfl := Except.ok.inj h
    rfl
  | cons p ps ih =>
    rw [walk] at h
    rw [List.cons_append, walk]
    rcases hz : d.node? z with _ | _ | content <;> rw [hz] at h
    · exact absurd h (by simp)
    · exact ih h
    · exact absurd h (by simp)

/-- A part leads on from a directory. -/
theorem walk_singleton (hz : d.node? z = some .directory) (p : Text) :
    d.walk z [p] = .ok (follow z p) := by
  rw [walk, hz]
  rfl

/-- Parts that lead nowhere lead to where they start. -/
theorem eq_of_walk_idle {idle : List Text} (hidle : ∀ p ∈ idle, Path.isIdle p = true)
    (h : d.walk z idle = .ok q) : q = z := by
  induction idle with
  | nil => exact (Except.ok.inj h).symm
  | cons p idle ih =>
    rw [walk, follow, if_pos (hidle p List.mem_cons_self)] at h
    rcases hz : d.node? z with _ | _ | content <;> rw [hz] at h
    · exact absurd h (by simp)
    · exact ih (fun p hp => hidle p (List.mem_cons_of_mem _ hp)) h
    · exact absurd h (by simp)

/-- Parts that lead nowhere lead from a directory to itself. -/
theorem walk_idle (hz : d.node? z = some .directory) {idle : List Text}
    (hidle : ∀ p ∈ idle, Path.isIdle p = true) : d.walk z idle = .ok z := by
  induction idle with
  | nil => rfl
  | cons p idle ih =>
    rw [walk, hz, follow, if_pos (hidle p List.mem_cons_self)]
    exact ih fun p hp => hidle p (List.mem_cons_of_mem _ hp)

/-- What parts go on from is a directory. -/
theorem directory_of_walk_cons {p : Text} {ps : List Text} (h : d.walk z (p :: ps) = .ok q) :
    d.node? z = some .directory := by
  rw [walk] at h
  split at h
  · exact absurd h (by simp)
  · exact absurd h (by simp)
  · next hz => exact hz

/-- On the way to a directory none is missing. -/
theorem makeAlong_of_walk {ps : List Text} (h : d.walk z ps = .ok q)
    (hq : d.node? q = some .directory) : d.makeAlong z ps = .ok d := by
  induction ps generalizing z with
  | nil =>
    obtain rfl := Except.ok.inj h
    rw [makeAlong, hq]
  | cons p ps ih =>
    have hz := directory_of_walk_cons h
    rw [walk, hz] at h
    rw [makeAlong, hz]
    exact ih h

/-- Where no directory had to be made, parts lead to one. -/
theorem walk_of_makeAlong {ps : List Text} (h : d.makeAlong z ps = .ok d) :
    ∃ y, d.walk z ps = .ok y ∧ d.node? y = some .directory := by
  have hnot {z : Place} (hz : d.node? z = none) : ¬Extends (d.put z .directory) d := by
    intro hext
    exact absurd (hz.symm.trans (hext.kept z _ (node?_put_of_none hz _))) (by simp)
  induction ps generalizing z with
  | nil =>
    rw [makeAlong] at h
    rcases hz : d.node? z with _ | _ | content <;> rw [hz] at h
    · have hsame : d.put z .directory = d := Except.ok.inj h
      exact absurd (hsame.symm ▸ .refl d) (hnot hz)
    · exact ⟨z, rfl, hz⟩
    · exact absurd h (by simp)
  | cons p ps ih =>
    rw [makeAlong] at h
    rcases hz : d.node? z with _ | _ | content <;> rw [hz] at h
    · exact absurd (makeAlong_extends h) (hnot hz)
    · rw [walk, hz]
      exact ih h
    · exact absurd h (by simp)

/-! ### The directory of a file -/

/-- A path that leads to no directory ends in a part that leads somewhere. -/
theorem isIdle_of_walk_concat {ps : List Text} {p : Text} (h : d.walk z (ps ++ [p]) = .ok q)
    (hq : d.node? q ≠ some .directory) : Path.isIdle p = false := by
  obtain ⟨y, -, hlast⟩ := exists_walk_of_append h
  by_contra hp
  have hidle : ∀ r ∈ [p], Path.isIdle r = true := by simpa using hp
  have hy := directory_of_walk_cons hlast
  obtain rfl := eq_of_walk_idle hidle hlast
  exact hq hy

theorem walk_of_resolve (h : d.resolve path = .ok q) :
    d.walk (d.start path) (Path.parts path.toList) = .ok q := by
  rw [resolve] at h
  split at h
  · exact absurd h (by simp)
  · exact h

/-- A path that leads somewhere starts in a directory. -/
theorem start_directory (h : d.resolve path = .ok q) :
    d.node? (d.start path) = some .directory := by
  have hwalk := walk_of_resolve h
  rcases hparts : Path.parts path.toList with _ | ⟨p, ps⟩ <;> rw [hparts] at hwalk
  · exact absurd hparts (Path.parts_ne_nil _)
  · exact directory_of_walk_cons hwalk

/-- The path of a file has no slash at its end. -/
theorem getLast?_ne_slash (h : d.resolve path = .ok q) (hq : d.node? q ≠ some .directory) :
    path.toList.getLast? ≠ some '/' := by
  intro hslash
  obtain ⟨s, hs⟩ := List.getLast?_eq_some_iff.mp hslash
  have hwalk := walk_of_resolve h
  rw [hs, Path.parts_concat_slash] at hwalk
  exact absurd (isIdle_of_walk_concat hwalk hq) (by decide)

/-- A directory whose path is made up of parts is made along them. -/
theorem makeDirectories_ofParts {first : Text} {rest : List Text}
    (hslash : ∀ p ∈ first :: rest, '/' ∉ p) (hne : first ≠ [] ∨ rest ≠ []) (d : Disk) :
    d.makeDirectories (String.ofList (Path.ofParts (first :: rest))) =
      d.makeAlong (if first = [] then [] else d.workingDirectory) (first :: rest) := by
  have hparts := Path.parts_ofParts (List.cons_ne_nil first rest) hslash
  have hpath : Path.ofParts (first :: rest) ≠ [] := by
    intro hempty
    rw [hempty] at hparts
    obtain ⟨rfl, hnil⟩ := List.cons.inj hparts
    exact hne.elim (· rfl) (· hnil.symm)
  rw [makeDirectories, if_neg (by simpa using hpath), start, Path.isAbsolute,
    String.toList_ofList, hparts]
  simp only [decide_eq_true_eq, Path.head?_ofParts (hslash first List.mem_cons_self) hne]

/-- **The directory of a path** is made along the front of the path. Between that and the last part
of the path there may be parts that lead nowhere, and so there may be behind it. -/
theorem exists_makeDirectories_eq (hstart : d.node? (d.start path) = some .directory)
    (hparent : Path.parent? path = some directory) :
    ∃ front idle last rest, Path.parts path.toList = front ++ idle ++ last :: rest ∧
      (∀ p ∈ idle ++ rest, Path.isIdle p = true) ∧
      d.makeDirectories directory = d.makeAlong (d.start path) front := by
  rw [Path.parent?] at hparent
  have hslash : ∀ p ∈ Path.parts path.toList, '/' ∉ p := fun _ => Path.not_mem_of_mem_parts
  have hroot : d.start path = if (Path.ofParts (Path.parts path.toList)).head? = some '/' then []
      else d.workingDirectory := by
    rw [Path.ofParts_parts, start, Path.isAbsolute]
    simp only [decide_eq_true_eq]
  generalize Path.parts path.toList = ps at hparent hslash hroot
  rcases ps with _ | ⟨first, rest⟩
  · exact absurd hparent (by simp)
  have hfirst := hslash first List.mem_cons_self
  obtain ⟨idle, hrest, hidle⟩ := Path.exists_dropIdle rest
  dsimp only at hparent
  rcases List.eq_nil_or_concat (Path.dropIdle rest) with hnil | ⟨inner, last, hlast⟩
  · -- the path starts in its directory
    rw [hnil, if_pos (show ([] : List Text).isEmpty = true from rfl)] at hparent
    rw [hnil, List.nil_append] at hrest
    split at hparent
    · exact absurd hparent (by simp)
    · obtain rfl := Option.some.inj hparent
      refine ⟨[], [], first, rest, rfl, by rwa [List.nil_append, hrest], ?_⟩
      rw [makeAlong, hstart]
      rfl
  · rw [List.concat_eq_append] at hlast
    obtain ⟨idle', hinner, hidle'⟩ := Path.exists_dropIdle inner
    rw [hlast, if_neg (by simp), List.dropLast_concat] at hparent
    have hwhole : first :: rest = first :: Path.dropIdle inner ++ idle' ++ last :: idle := by
      rw [List.cons_append, ← hinner, List.cons_append, hrest, hlast, List.append_assoc]
      rfl
    refine ⟨first :: Path.dropIdle inner, idle', last, idle, hwhole, fun p hp => ?_, ?_⟩
    · exact (List.mem_append.mp hp).elim (hidle' p) (hidle p)
    have hlong : rest ≠ [] := by
      rw [hrest, hlast]
      simp
    rw [hroot]
    simp only [Path.head?_ofParts hfirst (.inr hlong)]
    rcases Path.eq_of_root_or_ofParts hparent with ⟨⟨rfl, hnil⟩, rfl⟩ | ⟨hne, rfl⟩
    · rw [hnil]
      rfl
    · refine makeDirectories_ofParts (fun p hp => hslash p ?_) hne d
      rw [hwhole]
      simp only [List.mem_append, hp, true_or]

/-- **The directory of a path that leads somewhere is there**, so that it need not be made. -/
theorem makeDirectories_parent (h : d.resolve path = .ok q)
    (hparent : Path.parent? path = some directory) : d.makeDirectories directory = .ok d := by
  obtain ⟨front, idle, last, rest, hparts, hidle, hmake⟩ :=
    exists_makeDirectories_eq (start_directory h) hparent
  have hwalk := walk_of_resolve h
  rw [hparts] at hwalk
  obtain ⟨y, hfront, hfile⟩ := exists_walk_of_append hwalk
  obtain ⟨x, hx, hy⟩ := exists_walk_of_append hfront
  obtain rfl := eq_of_walk_idle (fun p hp => hidle p (List.mem_append_left _ hp)) hy
  rw [hmake]
  exact makeAlong_of_walk hx (directory_of_walk_cons hfile)

/-! ### Paths without their detours -/

/-- With one more part, what has been taken leads where the part leads. -/
theorem walk_goOn {rooted : Bool} {start : Place} (hrooted : rooted = true → start = [])
    {taken : List Text} (hidle : ∀ p ∈ taken, Path.isIdle p = false)
    (h : d.walk start taken.reverse = .ok z) (hz : d.node? z = some .directory) (part : Text) :
    d.walk start (Path.goOn rooted taken part).reverse = .ok (follow z part) := by
  have hpush : d.walk start (part :: taken).reverse = .ok (follow z part) := by
    rw [List.reverse_cons, walk_append h, walk_singleton hz]
  unfold Path.goOn
  split
  · next hpart => rwa [follow, if_pos hpart]
  split
  · next hpart hback =>
    rcases taken with _ | ⟨last, before⟩
    · -- there is nothing to go back to, except that the root leads to itself
      obtain rfl := Except.ok.inj h
      dsimp only
      split
      · next hroot =>
        rw [hrooted hroot, follow, if_neg hpart, if_pos hback]
        rfl
      · exact hpush
    · dsimp only
      split
      · exact hpush
      · next hlast =>
        rw [List.reverse_cons] at h
        obtain ⟨y, hbefore, hstep⟩ := exists_walk_of_append h
        rw [walk_singleton (directory_of_walk_cons hstep), follow,
          if_neg (by simp [hidle last List.mem_cons_self]), if_neg (hback ▸ hlast)] at hstep
        obtain rfl := Except.ok.inj hstep
        rw [follow, if_neg hpart, if_pos hback, List.dropLast_concat, hbefore]
  · exact hpush

/-- Without detours, parts lead where they have led. -/
theorem walk_foldl_goOn {rooted : Bool} {start : Place} (hrooted : rooted = true → start = [])
    {ps taken : List Text} (hidle : ∀ p ∈ taken, Path.isIdle p = false)
    (h : d.walk start taken.reverse = .ok z) (hq : d.walk z ps = .ok q) :
    d.walk start (ps.foldl (Path.goOn rooted) taken).reverse = .ok q := by
  induction ps generalizing taken z with
  | nil =>
    obtain rfl := Except.ok.inj hq
    exact h
  | cons p ps ih =>
    have hz := directory_of_walk_cons hq
    refine ih (fun r hr => ?_) (walk_goOn hrooted hidle h hz p) ?_
    · rcases Path.of_mem_goOn hr with hr | ⟨rfl, hr⟩
      · exact hidle r hr
      · exact hr
    · rwa [walk, hz] at hq

/-- A path that is made up of parts leads where they lead. -/
theorem walk_parts_ofParts (hz : d.node? z = some .directory) {ps : List Text}
    (hslash : ∀ p ∈ ps, '/' ∉ p) : d.walk z (Path.parts (Path.ofParts ps)) = d.walk z ps := by
  rcases eq_or_ne ps [] with rfl | hne
  · exact walk_singleton hz []
  · rw [Path.parts_ofParts hne hslash]

/-- Parts that have led somewhere lead there as a path. -/
theorem resolve_ofTaken (hstart : d.node? (d.start path) = some .directory) {taken : List Text}
    (htaken : ∀ p ∈ taken, '/' ∉ p ∧ Path.isIdle p = false) :
    d.resolve (Path.ofTaken (Path.isAbsolute path) taken) =
      d.walk (d.start path) taken.reverse := by
  have hempty : (Path.ofTaken (Path.isAbsolute path) taken).isEmpty = false :=
    Path.isEmpty_ofTaken _ htaken
  have hsame : d.start (Path.ofTaken (Path.isAbsolute path) taken) = d.start path := by
    rw [start, Path.isAbsolute_ofTaken _ htaken, start]
  have hparts := walk_parts_ofParts hstart fun p hp => (htaken p (List.mem_reverse.mp hp)).1
  rw [resolve, hempty, if_neg Bool.false_ne_true, hsame, Path.ofTaken, String.toList_ofList]
  split
  · -- in front of the parts there is an empty one
    rw [Path.parts, if_pos rfl, walk, hstart]
    exact hparts
  split
  · next hnil =>
    rw [List.isEmpty_iff.mp hnil]
    exact walk_singleton hstart ['.']
  · exact hparts

/-- **A path without its detours leads where the path leads.** -/
theorem resolve_normal (h : d.resolve path = .ok q) : d.resolve (Path.normal path) = .ok q := by
  rw [Path.normal, resolve_ofTaken (start_directory h) fun _ => Path.of_mem_foldl_parts]
  exact walk_foldl_goOn (fun hroot => if_pos hroot) (by simp) rfl (walk_of_resolve h)

/-- A path starts in a directory if it leads somewhere without its detours. -/
theorem start_directory_of_normal (h : d.resolve (Path.normal path) = .ok q) :
    d.node? (d.start path) = some .directory := by
  have hstart := start_directory h
  rwa [start, Path.isAbsolute_normal] at hstart

/-- The detours of parts that lead somewhere lead somewhere. -/
theorem resolve_of_mem_detoursAlong (hstart : d.node? (d.start path) = some .directory)
    {taken ps : List Text} (htaken : ∀ p ∈ taken, '/' ∉ p ∧ Path.isIdle p = false)
    (hps : ∀ p ∈ ps, '/' ∉ p) (h : d.walk (d.start path) taken.reverse = .ok z)
    (hq : d.walk z ps = .ok q) {detour : String}
    (hmem : detour ∈ Path.detoursAlong (Path.isAbsolute path) taken ps) :
    ∃ y, d.resolve detour = .ok y := by
  induction ps generalizing taken z with
  | nil => exact absurd hmem List.not_mem_nil
  | cons p ps ih =>
    have hz := directory_of_walk_cons hq
    have hnext : detour ∈ Path.detoursAlong (Path.isAbsolute path)
        (Path.goOn (Path.isAbsolute path) taken p) ps → ∃ y, d.resolve detour = .ok y := by
      refine ih (fun r hr => ?_) (fun r hr => hps r (List.mem_cons_of_mem _ hr))
        (walk_goOn (fun hroot => if_pos hroot) (fun r hr => (htaken r hr).2) h hz p) ?_
      · rcases Path.of_mem_goOn hr with hr | ⟨rfl, hidle⟩
        · exact htaken r hr
        · exact ⟨hps r List.mem_cons_self, hidle⟩
      · rwa [walk, hz] at hq
    rw [Path.detoursAlong] at hmem
    split at hmem
    · rcases List.mem_cons.mp hmem with rfl | hmem
      · exact ⟨z, (resolve_ofTaken hstart htaken).trans h⟩
      · exact hnext hmem
    · exact hnext hmem

/-- **The detours of a path that leads somewhere lead somewhere**, too. -/
theorem resolve_of_mem_detours (h : d.resolve path = .ok q) {detour : String}
    (hmem : detour ∈ Path.detours path) : ∃ y, d.resolve detour = .ok y :=
  resolve_of_mem_detoursAlong (start_directory h) (by simp)
    (fun _ => Path.not_mem_of_mem_parts) rfl (walk_of_resolve h) hmem

/-- **So do the detours of a path whose directory is there.** -/
theorem resolve_of_mem_detours_of_parent (hstart : d.node? (d.start path) = some .directory)
    (hparent : Path.parent? path = some directory) (hmake : d.makeDirectories directory = .ok d)
    {detour : String} (hmem : detour ∈ Path.detours path) : ∃ y, d.resolve detour = .ok y := by
  obtain ⟨front, idle, last, rest, hparts, hidle, hmakeAlong⟩ :=
    exists_makeDirectories_eq hstart hparent
  obtain ⟨y, hfront, hy⟩ := walk_of_makeAlong (hmakeAlong.symm.trans hmake)
  have hwalk : d.walk (d.start path) (front ++ (idle ++ [last])) = .ok (follow y last) := by
    rw [walk_append hfront, walk_append (walk_idle hy fun p hp => hidle p (by simp [hp])),
      walk_singleton hy]
  have hslash : ∀ p ∈ Path.parts path.toList, '/' ∉ p := fun _ => Path.not_mem_of_mem_parts
  have hwhole : front ++ idle ++ last :: rest = front ++ (idle ++ [last]) ++ rest := by simp
  rw [Path.detours, hparts, hwhole,
    Path.detoursAlong_append_idle fun p hp => hidle p (by simp [hp])] at hmem
  rw [hparts, hwhole] at hslash
  exact resolve_of_mem_detoursAlong hstart (by simp)
    (fun p hp => hslash p (List.mem_append_left _ hp)) rfl hwalk hmem

end Host.Disk

end Maildrop
