import Maildrop.Store.Frame.Codes

/-!
# Packed octets as frames

The first version of a database keeps the octets of a message packed as a Zstandard frame: a
header, and after it blocks, of which the last one is marked. A block holds octets as they
are, or one octet that is to be repeated, or octets in a compressed form.

A compressed block has two parts. The first one gives *literals*, mostly by a prefix code. The
second one is a list of *sequences*, each of which says how many of the literals come next, and
how many octets are then to be copied that have been there at some distance before. Literals that
are left come last. What a block needs for this it may take from the blocks before: their octets,
the tables of their codes and the last three distances (`Maildrop.Store.Frame.Context`).

Frames that need a dictionary, or end in a checksum, are not read; none has been written.
-/

namespace Maildrop.Store.Frame

/-- **What a block takes from those before it**, and leaves to those behind it. -/
structure Context where
  /-- What has been unpacked so far. -/
  output : Array UInt8 := #[]
  /-- The distances that have been used last, the latest one first. -/
  distances : Nat × Nat × Nat := (1, 4, 8)
  literals? : Option PrefixTable := none
  skips? : Option StateTable := none
  distances? : Option StateTable := none
  copies? : Option StateTable := none

/-! ### Literals -/

/-- Reads the strings of literals of a number, which are all in one part or divided among four. -/
def readStrings (t : PrefixTable) (divided : Bool) (size : Nat) (s : Bytes) : Option Bytes := do
  if divided then
    let quarter := (size + 3) / 4
    let (lengths, s) ← cut? 6 s
    let (first, s) ← cut? (number (lengths.take 2)) s
    let (second, s) ← cut? (number ((lengths.drop 2).take 2)) s
    let (third, fourth) ← cut? (number (lengths.drop 4)) s
    let parts ← [first, second, third].mapM fun part =>
      (BitStack.ofOctets? part).bind (t.read? quarter)
    if size < 3 * quarter then none
    else return parts.flatten ++ (← t.read? (size - 3 * quarter) (← BitStack.ofOctets? fourth))
  else t.read? size (← BitStack.ofOctets? s)

/-- Reads the literals of a block. Their first octet says how they are written, and how their
numbers are. -/
def readLiterals (c : Context) (s : Bytes) : Option (Bytes × Context × Bytes) := do
  let head := (← s.head?).toNat
  let form := head / 4 % 4
  if head % 4 < 2 then
    let width := if form = 1 then 2 else if form = 3 then 3 else 1
    let (front, s) ← cut? width s
    let size := number front / (if width = 1 then 8 else 16)
    if head % 4 = 0 then
      let (literals, s) ← cut? size s
      return (literals, c, s)
    else
      let (x, s) ← cut? 1 s
      return (List.replicate size (← x.head?), c, s)
  else
    let (width, bits) := if form = 3 then (5, 18) else if form = 2 then (4, 14) else (3, 10)
    let (front, s) ← cut? width s
    let size := number front / 16 % Nat.pow 2 bits
    let (packed, s) ← cut? (number front / 16 / Nat.pow 2 bits) s
    let (table, packed) ←
      if head % 4 = 2 then PrefixTable.ofOctets? packed else c.literals?.map (·, packed)
    return (← readStrings table (form != 0) size packed, { c with literals? := some table }, s)

/-! ### Sequences -/

/-- **How the numbers of one kind are written in sequences**: as a symbol that stands for a range
of numbers, and then the place in it. -/
structure Field where
  /-- The first number of the first range. -/
  least : Nat
  /-- How many bits the place in each range has. -/
  widths : List Nat
  /-- The shares of the symbols where a block does not give its own. -/
  shares : List Int
  accuracy : Nat
  mostAccuracy : Nat

namespace Field

/-- The widths that two kinds of numbers have in common. -/
def longWidths : List Nat := [7, 8, 9, 10, 11, 12, 13, 14, 15, 16]

/-- How many literals come before a copy. -/
def skips : Field where
  least := 0
  widths := List.replicate 16 0 ++ [1, 1, 1, 1, 2, 2, 3, 3, 4, 6] ++ longWidths
  shares := [4, 3, 2, 2, 2, 2, 2, 2, 2, 2, 2, 2, 2, 1, 1, 1, 2, 2, 2, 2, 2, 2, 2, 2, 2, 3, 2, 1, 1,
    1, 1, 1, -1, -1, -1, -1]
  accuracy := 6
  mostAccuracy := 9

/-- How far back a copy starts. -/
def distances : Field where
  least := 1
  widths := List.range 32
  shares := [1, 1, 1, 1, 1, 1, 2, 2, 2, 1, 1, 1, 1, 1, 1, 1, 1, 1, 1, 1, 1, 1, 1, 1, -1, -1, -1, -1,
    -1]
  accuracy := 5
  mostAccuracy := 8

/-- How many octets are copied. -/
def copies : Field where
  least := 3
  widths := List.replicate 32 0 ++ [1, 1, 1, 1, 2, 2, 3, 3, 4, 4, 5] ++ longWidths
  shares := [1, 4, 3, 2, 2, 2, 2, 2, 2] ++ List.replicate 37 1 ++ List.replicate 7 (-1)
  accuracy := 6
  mostAccuracy := 9

/-- Reads the table of the symbols, which is written in one of four ways. -/
def readTable (f : Field) (last? : Option StateTable) :
    Nat → Bytes → Option (StateTable × Bytes)
  | 0, s => some (.ofShares f.accuracy f.shares, s)
  | 1, symbol :: s =>
    if symbol.toNat < f.widths.length then some (.single symbol.toNat, s) else none
  | 2, s => StateTable.read? f.widths.length f.mostAccuracy s
  | 3, s => last?.map (·, s)
  | _, _ => none

/-- Reads the number in the range of a symbol. -/
def read? (f : Field) (symbol : Nat) (b : BitStack) : Option (Nat × BitStack) := do
  let (n, b) ← b.read? (← f.widths[symbol]?)
  return (f.least + (f.widths.take symbol).foldl (fun sum w => sum + Nat.pow 2 w) 0 + n, b)

end Field

/-- **A sequence.** -/
structure Sequence where
  /-- How many literals come first. -/
  skip : Nat
  /-- How far back the copy starts, or which of the last distances it is. -/
  distance : Nat
  /-- How many octets are copied. -/
  copy : Nat

/-- Reads so many sequences, behind which nothing may be left. -/
def readSequences (skips distances copies : StateTable) :
    Nat → State → State → State → BitStack → Option (List Sequence)
  | 0, _, _, _, _ => none
  | n + 1, skipping, going, copying, b => do
    let (distance, b) ← Field.distances.read? going.symbol b
    let (copy, b) ← Field.copies.read? copying.symbol b
    let (skip, b) ← Field.skips.read? skipping.symbol b
    if n = 0 then if b.left = 0 then some [⟨skip, distance, copy⟩] else none
    else
      let (skipping, b) ← skips.next? skipping b
      let (copying, b) ← copies.next? copying b
      let (going, b) ← distances.next? going b
      (readSequences skips distances copies n skipping going copying b).map
        (⟨skip, distance, copy⟩ :: ·)

/-- Reads how many sequences there are. -/
def readCount : Bytes → Option (Nat × Bytes)
  | [] => none
  | a :: s =>
    if a.toNat < 128 then some (a.toNat, s)
    else if a.toNat < 255 then do
      let (b, s) ← cut? 1 s
      return ((a.toNat - 128) * 256 + number b, s)
    else do
      let (b, s) ← cut? 2 s
      return (number b + 0x7F00, s)

/-- Reads the sequences of a block: how many they are, their tables and then all of them. -/
def readAllSequences (c : Context) (s : Bytes) : Option (List Sequence × Context) := do
  let (count, s) ← readCount s
  if count = 0 then if s.isEmpty then return ([], c) else none
  else
    let (modes, s) ← cut? 1 s
    let ways := number modes
    let (skips, s) ← Field.skips.readTable c.skips? (ways / 64) s
    let (distances, s) ← Field.distances.readTable c.distances? (ways / 16 % 4) s
    let (copies, s) ← Field.copies.readTable c.copies? (ways / 4 % 4) s
    if ways % 4 ≠ 0 then none
    else
      let b ← BitStack.ofOctets? s
      let (skipping, b) ← skips.start? b
      let (going, b) ← distances.start? b
      let (copying, b) ← copies.start? b
      let sequences ← readSequences skips distances copies count skipping going copying b
      return (sequences,
        { c with skips? := some skips, distances? := some distances, copies? := some copies })

/-- The distance that a sequence means, and the last distances afterwards. The numbers up to three
stand for one of the last distances; where no literals come first, for the one after it. -/
def distanceOf (q : Sequence) (last : Nat × Nat × Nat) : Nat × (Nat × Nat × Nat) :=
  let (a, b, c) := last
  if 3 < q.distance then (q.distance - 3, q.distance - 3, a, b)
  else
    match q.distance + (if q.skip = 0 then 1 else 0) with
    | 1 => (a, a, b, c)
    | 2 => (b, b, a, c)
    | 3 => (c, c, a, b)
    | _ => (a - 1, a - 1, a, b)

/-- Copies so many octets from a distance. What has been copied may be copied again. -/
def copyFrom (distance : Nat) : Nat → Array UInt8 → Option (Array UInt8)
  | 0, output => some output
  | n + 1, output => do
    if distance = 0 ∨ output.size < distance then none
    else copyFrom distance n (output.push (← output[output.size - distance]?))

/-- Does what sequences say, with the given literals. -/
def follow : List Sequence → Bytes → Context → Option Context
  | [], literals, c => some { c with output := c.output ++ literals.toArray }
  | q :: qs, literals, c => do
    let (front, literals) ← cut? q.skip literals
    let (distance, last) := distanceOf q c.distances
    let output ← copyFrom distance q.copy (c.output ++ front.toArray)
    follow qs literals { c with output, distances := last }

/-- What a compressed block leaves. -/
def unpackBlock? (c : Context) (s : Bytes) : Option Context := do
  let (literals, c, s) ← readLiterals c s
  let (sequences, c) ← readAllSequences c s
  follow sequences literals c

/-! ### Frames -/

/-- The octets at the start of every frame. -/
def mark : Bytes := [0x28, 0xB5, 0x2F, 0xFD]

/-- The largest window for which a frame is read. -/
def mostWindow : Nat := Nat.pow 2 27 + 1

/-- The number of octets that a frame holds, if its header says so, and what follows the header.
The first octet of the header says how it goes on: with the size of the window, unless that is the
number of octets, and with the number. -/
def readHeader : Bytes → Option (Option Nat × Bytes)
  | [] => none
  | b :: s => do
    let single := b.toNat / 32 % 2
    let sizeWidth :=
      match b.toNat / 64 with
      | 0 => single
      | 1 => 2
      | 2 => 4
      | _ => 8
    let (front, s) ← cut? (1 - single) s
    let (digits, s) ← cut? sizeWidth s
    let size := number digits + if sizeWidth = 2 then 256 else 0
    let window :=
      if single = 1 then size
      else Nat.pow 2 (7 + number front / 8) * (8 + number front % 8)
    if b.toNat % 16 ≠ 0 ∨ mostWindow < window then none
    else return (if sizeWidth = 0 then none else some size, s)

/-- **A block**: what there is with it, and whether it is the last one. -/
structure Block where
  context : Context
  isLast : Bool

/-- Reads a block. Its first three octets say whether it is the last one, of what kind it is,
and how many octets it holds. -/
def readBlock (c : Context) : Bytes → Option (Block × Bytes)
  | a₀ :: a₁ :: a₂ :: s =>
    let head := number [a₀, a₁, a₂]
    let isLast := head % 2 = 1
    match head / 2 % 4, s with
    | 0, s => (cut? (head / 8) s).map fun (front, rest) =>
      (⟨{ c with output := c.output ++ front.toArray }, isLast⟩, rest)
    | 1, x :: s =>
      some (⟨{ c with output := c.output ++ (List.replicate (head / 8) x).toArray }, isLast⟩, s)
    | 2, s => (cut? (head / 8) s).bind fun (front, rest) =>
      (unpackBlock? c front).map fun c => (⟨c, isLast⟩, rest)
    | _, _ => none
  | _ => none

theorem length_le_of_cut? {n : Nat} {s front rest : Bytes} (h : cut? n s = some (front, rest)) :
    rest.length ≤ s.length := by
  unfold cut? at h
  split at h
  · obtain ⟨-, rfl⟩ := Prod.mk.inj (Option.some.inj h)
    simp
  · exact absurd h (by simp)

theorem length_lt_of_readBlock {c : Context} {s rest : Bytes} {b : Block}
    (h : readBlock c s = some (b, rest)) : rest.length < s.length := by
  unfold readBlock at h
  split at h
  · simp only at h
    split at h
    · obtain ⟨⟨front, rest'⟩, hcut, heq⟩ := Option.map_eq_some_iff.mp h
      obtain ⟨-, rfl⟩ := Prod.mk.inj heq
      have := length_le_of_cut? hcut
      simp only [List.length_cons]
      omega
    · obtain ⟨-, rfl⟩ := Prod.mk.inj (Option.some.inj h)
      simp only [List.length_cons]
      omega
    · obtain ⟨⟨front, rest'⟩, hcut, hblock⟩ := Option.bind_eq_some_iff.mp h
      obtain ⟨c', -, heq⟩ := Option.map_eq_some_iff.mp hblock
      obtain ⟨-, rfl⟩ := Prod.mk.inj heq
      have := length_le_of_cut? hcut
      simp only [List.length_cons]
      omega
    · exact absurd h (by simp)
  · exact absurd h (by simp)

/-- What there is after the last block, behind which there is nothing. -/
def readBlocks (c : Context) (s : Bytes) : Option Context :=
  match h : readBlock c s with
  | none => none
  | some (b, rest) =>
    have := length_lt_of_readBlock h
    if b.isLast then if rest.isEmpty then some b.context else none
    else readBlocks b.context rest
termination_by s.length

/-- **The octets that a frame holds.** -/
def unpack? (s : Bytes) : Option Bytes := do
  let (size, s) ← readHeader (← Bytes.stripPrefix? mark s)
  let c ← readBlocks {} s
  if size.all (· = c.output.size) then return c.output.toList else none

end Maildrop.Store.Frame
