import Maildrop.Mime.Sextets
import Maildrop.Text.Ascii

/-!
# Transfer encodings

A body is written as it is, in base64, or in the quoted-printable form. Inside a
container it reaches to the next line that starts with two hyphens and the boundary,
and the reader of an encoding looks for that boundary while it decodes; otherwise it
reaches to the end of the input.

`Maildrop.Mime.Transfer.read` gives the decoded octets and what follows the boundary,
or nothing if the octets are not well encoded or the boundary never comes. A body that
cannot be decoded is then read as it is (`Maildrop.Mime.Transfer.cut`).
-/

namespace Maildrop.Mime

open Ascii

/-- **A transfer encoding.** -/
inductive Transfer where
  | identity
  | base64
  | quotedPrintable
  deriving DecidableEq, Repr

namespace Transfer

/-- The encoding that a field names; unknown names mean none. -/
def ofName (name : Option Text) : Transfer :=
  match name.map fun t => String.ofList (Text.lowerAscii t) with
  | some "base64" => .base64
  | some "quoted-printable" => .quotedPrintable
  | _ => .identity

/-- What follows the boundary, at the second of two hyphens. -/
def atBoundary? (boundary : Option Bytes) (last : Option UInt8) (c : UInt8) (s : Bytes) :
    Option Bytes :=
  match boundary with
  | none => none
  | some b => if c = octet '-' ∧ last = some (octet '-') then Bytes.stripPrefix? b s else none

theorem length_le_of_atBoundary? {boundary : Option Bytes} {last : Option UInt8} {c : UInt8}
    {s rest : Bytes} (h : atBoundary? boundary last c s = some rest) : rest.length ≤ s.length := by
  unfold atBoundary? at h
  split at h
  · simp at h
  · split at h
    · exact Bytes.length_le_of_stripPrefix? h
    · simp at h

/-! ### As it is -/

/-- The octets up to the boundary, and what follows it. `seen` holds the octets before
these and `line` those before the last line end, both last octet first: the line end
before a boundary line is not part of the body. -/
def cutFrom (boundary : Bytes) (seen line : Bytes) : Bytes → Option (Bytes × Bytes)
  | [] => none
  | c :: s =>
    match atBoundary? (some boundary) seen.head? c s with
    | some rest =>
      let before := seen.tail.headD lf
      some ((if before = lf then line else seen.tail).reverse, rest)
    | none =>
      let line :=
        if c = lf then if seen.head? = some cr then seen.tail else seen
        else line
      cutFrom boundary (c :: seen) line s

/-- The octets up to the boundary as they are, and what follows it. -/
def cut (boundary : Bytes) (s : Bytes) : Option (Bytes × Bytes) := cutFrom boundary [] [] s

/-! ### Base64 -/

/-- The octets of a base64 body. Two hyphens have to open the boundary; `last` is the
octet before these. -/
def readBase64 (boundary : Option Bytes) (q : Sextets) (last : Option UInt8) :
    Bytes → Option (Bytes × Bytes)
  | [] => if boundary.isSome then none else some (q.bytes, [])
  | c :: s =>
    match Sextets.value? c with
    | some v => readBase64 boundary (q.push v) (some c) s
    | none =>
      if c = octet '=' then readBase64 boundary q.flush (some c) s
      else if isBlank c || c = cr || c = lf then readBase64 boundary q (some c) s
      else if c = octet '-' then
        if last = some (octet '-') then
          (atBoundary? boundary last c s).map fun rest => (q.bytes, rest)
        else readBase64 boundary q (some c) s
      else none

/-! ### Quoted-printable -/

/-- What an equals sign before the present octet has left to be read. -/
inductive Escape where
  | closed
  | marked
  | half (high : UInt8)
  deriving DecidableEq, Repr

/-- **What a reader of quoted-printable text keeps.** -/
structure Quoted where
  /-- The octets so far, last octet first. -/
  out : Bytes := []
  escape : Escape := .closed
  /-- How many octets of white space end the line so far. -/
  blanks : Nat := 0
  /-- How a line end is written: with a carriage return once one has been seen. -/
  lineEnd : Bytes := [lf]
  /-- The last two octets of the input, last one first. -/
  last : Option UInt8 := none
  before : Option UInt8 := none

/-- What one octet does; none if it does not fit the escape that is open. White space
at the end of a line is dropped, and so is a line end after an equals sign. -/
def Quoted.step (r : Quoted) (c : UInt8) : Option Quoted :=
  let next : Option Quoted :=
    if c = octet '=' then
      if r.escape = .closed then some { r with escape := .marked } else none
    else if c = lf then
      if r.escape = .marked then some { r with escape := .closed, blanks := 0 }
      else some { r with out := r.lineEnd ++ r.out.drop r.blanks, blanks := 0 }
    else if c = cr then some { r with lineEnd := [lf, cr] }
    else
      match r.escape with
      | .closed =>
        some { r with out := c :: r.out, blanks := if isWhite c then r.blanks + 1 else 0 }
      | .marked =>
        match hexValue? c with
        | some v => some { r with escape := .half v }
        | none => if isWhite c then some r else none
      | .half h =>
        match hexValue? c with
        | some v => some { r with out := (h * 16 + v) :: r.out, blanks := 0, escape := .closed }
        | none => none
  next.map fun q => { q with last := some c, before := r.last }

/-- The octets before a boundary: the first hyphen goes, and with it the line end that
comes before a boundary line. -/
def Quoted.close (r : Quoted) : Bytes :=
  (r.out.drop (if r.before = some lf then r.lineEnd.length + 1 else 1)).reverse

/-- The octets of a quoted-printable body. -/
def readQuoted (boundary : Option Bytes) (r : Quoted) : Bytes → Option (Bytes × Bytes)
  | [] => if boundary.isSome then none else some (r.out.reverse, [])
  | c :: s =>
    match atBoundary? boundary r.last c s with
    | some rest => some (r.close, rest)
    | none =>
      match r.step c with
      | some r => readQuoted boundary r s
      | none => none

/-! ### All encodings -/

/-- **Decodes a body**: its octets, and what follows the boundary, or nothing if it is
not well encoded or the boundary never comes. -/
def read (t : Transfer) (boundary : Option Bytes) (s : Bytes) : Option (Bytes × Bytes) :=
  match t, boundary with
  | .identity, none => some (s, [])
  | .identity, some b => cut b s
  | .base64, _ => readBase64 boundary {} none s
  | .quotedPrintable, _ => readQuoted boundary {} s

theorem length_le_of_cutFrom {boundary seen line s w rest : Bytes}
    (h : cutFrom boundary seen line s = some (w, rest)) : rest.length ≤ s.length := by
  fun_induction cutFrom boundary seen line s with
  | case1 => exact absurd h (by simp)
  | case2 seen line c s rest' hb =>
    obtain ⟨-, rfl⟩ := Prod.mk.inj (Option.some.inj h)
    exact Nat.le_succ_of_le (length_le_of_atBoundary? hb)
  | case3 seen line c s _ _ ih => exact Nat.le_succ_of_le (ih h)

theorem length_le_of_readBase64 {boundary : Option Bytes} {q : Sextets} {last : Option UInt8}
    {s w rest : Bytes} (h : readBase64 boundary q last s = some (w, rest)) :
    rest.length ≤ s.length := by
  fun_induction readBase64 boundary q last s with
  | case1 => exact absurd h (by simp)
  | case2 =>
    obtain ⟨-, rfl⟩ := Prod.mk.inj (Option.some.inj h)
    exact Nat.le_refl 0
  | case6 =>
    obtain ⟨rest', hb, heq⟩ := Option.map_eq_some_iff.mp h
    obtain ⟨-, rfl⟩ := Prod.mk.inj heq
    exact Nat.le_succ_of_le (length_le_of_atBoundary? hb)
  | case8 => exact absurd h (by simp)
  | _ =>
    next ih => exact Nat.le_succ_of_le (ih h)

theorem length_le_of_readQuoted {boundary : Option Bytes} {r : Quoted} {s w rest : Bytes}
    (h : readQuoted boundary r s = some (w, rest)) : rest.length ≤ s.length := by
  fun_induction readQuoted boundary r s with
  | case1 => exact absurd h (by simp)
  | case2 =>
    obtain ⟨-, rfl⟩ := Prod.mk.inj (Option.some.inj h)
    exact Nat.le_refl 0
  | case3 r c s rest' hb =>
    obtain ⟨-, rfl⟩ := Prod.mk.inj (Option.some.inj h)
    exact Nat.le_succ_of_le (length_le_of_atBoundary? hb)
  | case4 r c s _ r' hr ih => exact Nat.le_succ_of_le (ih h)
  | case5 => exact absurd h (by simp)

theorem length_le_of_read {t : Transfer} {boundary : Option Bytes} {s w rest : Bytes}
    (h : read t boundary s = some (w, rest)) : rest.length ≤ s.length := by
  unfold read at h
  split at h
  · simp_all
  · exact length_le_of_cutFrom h
  · exact length_le_of_readBase64 h
  · exact length_le_of_readQuoted h

end Transfer

end Maildrop.Mime
