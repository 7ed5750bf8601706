import Maildrop.Host.Disk
import Maildrop.Proofs.Text.Runs

/-!
# Disks that change

What programs do to a disk is little: a file is made or its content replaced, a file is
removed, and directories are made where nothing has been. So a directory stays a directory
(`Maildrop.Host.Disk.Grows`) with every call (`Maildrop.Host.Disk.grows_step`), and this is all
that matters to paths: where a path has led, it goes on to lead
(`Maildrop.Host.Disk.Grows.resolve`), and directories that have been made need not be made again
(`Maildrop.Host.Disk.makeDirectories_again`).

Making directories alone is less than that (`Maildrop.Host.Disk.Extends`): whatever is
somewhere stays there, files included, and what comes is a directory. Where files are removed as
well, there is at least none that comes (`Maildrop.Host.Disk.BringsNoFile`).
-/

namespace Maildrop.Host.Disk

variable {d d' d'' : Disk}

/-! ### Places -/

theorem lookup_filter_of_ne {y z : Place} (h : y ≠ z) (nodes : List (Place × Node)) :
    (nodes.filter fun e => e.1 ≠ z).lookup y = nodes.lookup y := by
  induction nodes with
  | nil => rfl
  | cons e nodes ih =>
    rw [List.filter_cons]
    split
    · rw [List.lookup_cons, List.lookup_cons, ih]
    · next he =>
      obtain rfl : e.1 = z := by simpa using he
      rw [ih, List.lookup_cons, show (y == e.1) = false from beq_eq_false_iff_ne.mpr h]

/-- Something at one place leaves the others alone. -/
theorem node?_put_of_ne {y z : Place} (h : y ≠ z) (n : Node) : (d.put z n).node? y = d.node? y := by
  rw [node?, node?, put, List.lookup_cons, show (y == z) = false from beq_eq_false_iff_ne.mpr h]
  exact congrArg (fun x => if y = [] then some Node.directory else x)
    (lookup_filter_of_ne h d.nodes)

/-- What is put somewhere is there. -/
theorem node?_put_self {z : Place} (h : z ≠ []) (n : Node) : (d.put z n).node? z = some n := by
  rw [node?, if_neg h, put, List.lookup_cons, show (z == z) = true from beq_self_eq_true z]

/-- What is cleared away from one place leaves the others alone. -/
theorem node?_clear_of_ne {y z : Place} (h : y ≠ z) : (d.clear z).node? y = d.node? y :=
  congrArg (fun x => if y = [] then some Node.directory else x) (lookup_filter_of_ne h d.nodes)

/-- At a place that has been cleared there is nothing. -/
theorem node?_clear_self {z : Place} (h : z ≠ []) : (d.clear z).node? z = none := by
  rw [node?, if_neg h, clear, List.lookup_eq_none_iff]
  intro e he
  simpa using fun heq => of_decide_eq_true (List.mem_filter.mp he).2 heq.symm

/-- Where there is no directory there is not the root. -/
theorem ne_root {q : Place} (h : d.node? q ≠ some .directory) : q ≠ [] := by
  rintro rfl
  exact h rfl

/-- What is put where nothing has been is there. -/
theorem node?_put_of_none {z : Place} (h : d.node? z = none) (n : Node) :
    (d.put z n).node? z = some n :=
  node?_put_self (ne_root (d := d) (by simp [h])) n

/-! ### Disks that grow -/

/-- **Directories stay directories**, and paths start where they have started. -/
structure Grows (d d' : Disk) : Prop where
  workingDirectory : d'.workingDirectory = d.workingDirectory
  directory : ∀ z, d.node? z = some .directory → d'.node? z = some .directory

/-- **Everything stays, and directories come.** -/
structure Extends (d d' : Disk) : Prop where
  workingDirectory : d'.workingDirectory = d.workingDirectory
  kept : ∀ z n, d.node? z = some n → d'.node? z = some n
  added : ∀ z, d.node? z = none → d'.node? z = none ∨ d'.node? z = some .directory

/-- **No file comes**, and none gets another content. -/
def BringsNoFile (d d' : Disk) : Prop :=
  ∀ z content, d'.node? z = some (.file content) → d.node? z = some (.file content)

namespace Grows

theorem refl (d : Disk) : Grows d d := ⟨rfl, fun _ h => h⟩

theorem trans (h : Grows d d') (h' : Grows d' d'') : Grows d d'' :=
  ⟨h'.workingDirectory.trans h.workingDirectory, fun z hz => h'.directory z (h.directory z hz)⟩

/-- A file that is made where no directory is leaves directories alone. -/
theorem put {z : Place} (h : d.node? z ≠ some .directory) (content : Bytes) :
    Grows d (d.put z (.file content)) := by
  refine ⟨rfl, fun y hy => ?_⟩
  rwa [node?_put_of_ne]
  rintro rfl
  exact h hy

/-- A file that is cleared away leaves directories alone. -/
theorem clear {z : Place} (h : d.node? z ≠ some .directory) : Grows d (d.clear z) := by
  refine ⟨rfl, fun y hy => ?_⟩
  rwa [node?_clear_of_ne]
  rintro rfl
  exact h hy

/-- **Where parts have led, they go on to lead.** -/
theorem walk (h : Grows d d') {z q : Place} {ps : List Text} (hw : d.walk z ps = .ok q) :
    d'.walk z ps = .ok q := by
  induction ps generalizing z with
  | nil => exact hw
  | cons p ps ih =>
    rw [Disk.walk] at hw ⊢
    rcases hz : d.node? z with _ | _ | content
    · rw [hz] at hw
      exact absurd hw (by simp)
    · rw [hz] at hw
      rw [h.directory z hz]
      exact ih hw
    · rw [hz] at hw
      exact absurd hw (by simp)

/-- Where a path has led, it goes on to lead. -/
theorem resolve (h : Grows d d') {path : String} {q : Place} (hq : d.resolve path = .ok q) :
    d'.resolve path = .ok q := by
  rw [Disk.resolve] at hq ⊢
  split at hq
  · exact absurd hq (by simp)
  · next hempty =>
    rw [if_neg hempty, start, h.workingDirectory]
    exact h.walk hq

end Grows

namespace Extends

theorem refl (d : Disk) : Extends d d := ⟨rfl, fun _ _ h => h, fun _ h => .inl h⟩

theorem trans (h : Extends d d') (h' : Extends d' d'') : Extends d d'' where
  workingDirectory := h'.workingDirectory.trans h.workingDirectory
  kept z n hz := h'.kept z n (h.kept z n hz)
  added z hz := by
    rcases h.added z hz with hn | hd
    · exact h'.added z hn
    · exact .inr (h'.kept z _ hd)

theorem grows (h : Extends d d') : Grows d d' := ⟨h.workingDirectory, fun z hz => h.kept z _ hz⟩

theorem bringsNoFile (h : Extends d d') : BringsNoFile d d' := by
  intro z content hz
  rcases hn : d.node? z with _ | n
  · rcases h.added z hn with hz' | hz' <;> exact absurd (hz.symm.trans hz') (by simp)
  · exact (h.kept z n hn).symm.trans hz

/-- A directory that is made where nothing is leaves everything. -/
theorem put {z : Place} (h : d.node? z = none) : Extends d (d.put z .directory) where
  workingDirectory := rfl
  kept y n hy := by
    rwa [node?_put_of_ne]
    rintro rfl
    exact absurd hy (by simp [h])
  added y hy := by
    by_cases hyz : y = z
    · subst hyz
      exact .inr (node?_put_of_none h _)
    · exact .inl ((node?_put_of_ne hyz _).trans hy)

end Extends

/-! ### Making directories -/

theorem makeAlong_extends {z : Place} {ps : List Text} (h : d.makeAlong z ps = .ok d') :
    Extends d d' := by
  induction ps generalizing d z with
  | nil =>
    rw [makeAlong] at h
    rcases hz : d.node? z with _ | _ | content <;> rw [hz] at h
    · obtain rfl := Except.ok.inj h
      exact .put hz
    · obtain rfl := Except.ok.inj h
      exact .refl d
    · exact absurd h (by simp)
  | cons p ps ih =>
    rw [makeAlong] at h
    rcases hz : d.node? z with _ | _ | content <;> rw [hz] at h
    · exact (Extends.put hz).trans (ih h)
    · exact ih h
    · exact absurd h (by simp)

/-- **Directories that have been made need not be made again.** -/
theorem makeAlong_again {z : Place} {ps : List Text} (h : d.makeAlong z ps = .ok d')
    (hgrows : Grows d' d'') : d''.makeAlong z ps = .ok d'' := by
  -- every place on the way has become a directory, and has stayed one
  have hmade : ∀ {e : Disk}, e.node? z = none → Extends (e.put z .directory) d' →
      d''.node? z = some .directory := by
    intro e he hext
    exact hgrows.directory z (hext.kept z _ (node?_put_of_none he _))
  induction ps generalizing d z with
  | nil =>
    rw [makeAlong] at h ⊢
    rcases hz : d.node? z with _ | _ | content <;> rw [hz] at h
    · obtain rfl := Except.ok.inj h
      rw [hmade hz (.refl _)]
    · obtain rfl := Except.ok.inj h
      rw [hgrows.directory z hz]
    · exact absurd h (by simp)
  | cons p ps ih =>
    have hmade' : ∀ {e : Disk}, e.node? (follow z p) = none →
        Extends (e.put (follow z p) .directory) d' →
          d''.node? (follow z p) = some .directory := by
      intro e he hext
      exact hgrows.directory _ (hext.kept _ _ (node?_put_of_none he _))
    rw [makeAlong] at h ⊢
    rcases hz : d.node? z with _ | _ | content <;> rw [hz] at h
    · rw [hmade hz (makeAlong_extends h)]
      exact ih h hmade'
    · rw [hgrows.directory z ((makeAlong_extends h).kept z _ hz)]
      exact ih h hmade'
    · exact absurd h (by simp)

theorem makeDirectories_extends {path : String} (h : d.makeDirectories path = .ok d') :
    Extends d d' := by
  rw [makeDirectories] at h
  split at h
  · obtain rfl := Except.ok.inj h
    exact .refl d
  · exact makeAlong_extends h

theorem makeDirectories_again {path : String} (h : d.makeDirectories path = .ok d')
    (hgrows : Grows d' d'') : d''.makeDirectories path = .ok d'' := by
  rw [makeDirectories] at h ⊢
  split at h
  · next hempty => rw [if_pos hempty]
  · next hempty =>
    rw [if_neg hempty, start, hgrows.workingDirectory, (makeAlong_extends h).workingDirectory]
    exact makeAlong_again h hgrows

/-! ### Writing and removing files -/

/-- Without a slash at the end a path leads to where its file is. -/
theorem resolveFile_eq {path : String} (h : path.toList.getLast? ≠ some '/') (d : Disk) :
    d.resolveFile path = d.resolve path := by
  have hdrop : Path.dropSlashes path.toList = path.toList := by
    refine Text.dropEndWhile_of_getLast? fun c hc => decide_eq_false ?_
    rintro rfl
    exact h hc
  rw [resolveFile, hdrop]
  rfl

/-- **A file that is written stands where its path leads**, in place of what has been there. -/
theorem write_eq_ok_iff {path : String} {content : Bytes} :
    d.write path content = .ok d' ↔
      path.toList.getLast? ≠ some '/' ∧ ∃ q, d.resolve path = .ok q ∧
        d.node? q ≠ some .directory ∧ d' = d.put q (.file content) := by
  constructor
  · intro h
    rw [write] at h
    rcases hq : d.resolveFile path with e | q <;> rw [hq] at h
    · exact absurd h (by simp)
    · dsimp only at h
      split at h
      · exact absurd h (by simp)
      · next hplain =>
        simp only [Bool.or_eq_true, decide_eq_true_eq, not_or] at hplain
        rw [resolveFile_eq hplain.1] at hq
        exact ⟨hplain.1, q, hq, hplain.2, (Except.ok.inj h).symm⟩
  · rintro ⟨hslash, q, hq, hdir, rfl⟩
    rw [write, resolveFile_eq hslash, hq]
    dsimp only
    rw [if_neg]
    simp only [Bool.or_eq_true, decide_eq_true_eq, not_or]
    exact ⟨hslash, hdir⟩

/-- **What a path leads to can be removed**, if it is a file. -/
theorem remove_eq_ok_iff {path : String} :
    d.remove path = .ok d' ↔
      ∃ q content, d.resolve path = .ok q ∧ d.node? q = some (.file content) ∧ d' = d.clear q := by
  rw [remove]
  rcases d.resolve path with e | q
  · simp
  · rcases hq : d.node? q with _ | _ | content <;> simp [hq, eq_comm]

/-- What is somewhere after a file has been removed, if that could be done, has been there. -/
theorem node?_changed_remove {path : String} (d : Disk) (z : Place) :
    (d.changed (d.remove path)).2.node? z = d.node? z ∨
      (d.changed (d.remove path)).2.node? z = none := by
  rcases hremove : d.remove path with e | d'
  · exact .inl rfl
  · obtain ⟨q, content, -, hq, rfl⟩ := remove_eq_ok_iff.mp hremove
    by_cases hz : z = q
    · subst hz
      exact .inr (node?_clear_self (ne_root (d := d) (by simp [hq])))
    · exact .inl (node?_clear_of_ne hz)

/-- Where a path leads to nothing, there is nothing to be removed. -/
theorem changed_remove {path : String} (h : d.present path = false) :
    (d.changed (d.remove path)).2 = d := by
  rw [present] at h
  rw [remove]
  rcases hq : d.resolve path with e | q
  · rfl
  · rw [hq] at h
    dsimp only at h ⊢
    rw [Option.isSome_eq_false_iff, Option.isNone_iff_eq_none] at h
    rw [h]
    rfl

/-- **What a path leads to can be read**, if it is a file. -/
theorem read_eq_ok_iff {path : String} {content : Bytes} :
    d.read path = .ok content ↔
      ∃ q, d.resolve path = .ok q ∧ d.node? q = some (.file content) := by
  rw [read]
  rcases d.resolve path with e | q
  · simp
  · dsimp only
    constructor
    · intro h
      refine ⟨q, rfl, ?_⟩
      rcases hq : d.node? q with _ | _ | stored <;> rw [hq] at h
      · exact absurd h (by simp)
      · exact absurd h (by simp)
      · rw [Except.ok.inj h]
    · rintro ⟨p, hp, hfile⟩
      rw [Except.ok.inj hp, hfile]

/-- What can be read is present. -/
theorem present_of_read {path : String} {content : Bytes} (h : d.read path = .ok content) :
    d.present path = true := by
  obtain ⟨q, hq, hfile⟩ := read_eq_ok_iff.mp h
  rw [present, hq]
  dsimp only
  rw [hfile]
  rfl

/-! ### Calls -/

/-- A change leaves directories alone if it does so where it succeeds. -/
theorem grows_changed {r : Except DiskError Disk} (h : ∀ d', r = .ok d' → d.Grows d') :
    d.Grows (d.changed r).2 := by
  rcases r with e | d'
  · exact .refl d
  · exact h d' rfl

/-- **The disk grows with every call.** -/
theorem grows_step (input : Bytes) (clock : Instant) (c : Call) (d : Disk) :
    d.Grows ((host input clock).step c d).state := by
  cases c with
  | write path content =>
    refine grows_changed fun d' h => ?_
    obtain ⟨-, q, -, hq, rfl⟩ := write_eq_ok_iff.mp h
    exact .put hq content
  | remove path =>
    refine grows_changed fun d' h => ?_
    obtain ⟨q, content, -, hq, rfl⟩ := remove_eq_ok_iff.mp h
    exact .clear (by simp [hq])
  | makeDirectories path =>
    exact grows_changed fun d' h => (makeDirectories_extends h).grows
  | _ => exact .refl d

end Maildrop.Host.Disk
