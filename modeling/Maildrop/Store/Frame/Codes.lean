import Maildrop.Bytes

/-!
# The codes of compressed blocks

A compressed block of a Zstandard frame writes symbols as bits, in two ways.

A *state code* has a table of states. Each state stands for a symbol, and says how many bits have
to be read for the next state. How many states a symbol has is its share, and the shares of all
symbols are written in front of what is coded, with no more bits than the states that are still to
be given away make necessary. A share below one, written as `-1`, is a single state at the end of
the table.

A *prefix code* gives every symbol a string of bits, shorter ones to symbols of more weight. It is
read by way of a table, too: the entry at a number is the symbol whose string the number starts
with.

Bits that are coded are read from the end of their octets, so that they are kept as a stack
(`Maildrop.Store.Frame.BitStack`).
-/

namespace Maildrop.Store.Frame

/-- A number in base 256, least digit first. -/
def number (s : Bytes) : Nat := s.foldr (fun b n => b.toNat + 256 * n) 0

/-- So many octets at the front, and what follows them. -/
def cut? (n : Nat) (s : Bytes) : Option (Bytes × Bytes) :=
  if n ≤ s.length then some (s.take n, s.drop n) else none

/-! ### Bits -/

/-- **Bits that are still to be read**, the next one highest. -/
structure BitStack where
  value : Nat
  /-- How many bits there are. -/
  left : Nat
  deriving DecidableEq, Repr

namespace BitStack

/-- The bits of octets. The highest bit that is set in the last octet only marks their start. -/
def ofOctets? (s : Bytes) : Option BitStack :=
  match s.getLast? with
  | none | some 0 => none
  | some _ =>
    let left := Nat.log2 (number s)
    some ⟨number s - Nat.pow 2 left, left⟩

/-- Reads a number of so many bits. -/
def read? (n : Nat) (b : BitStack) : Option (Nat × BitStack) :=
  if n ≤ b.left then
    let rest := Nat.pow 2 (b.left - n)
    some (b.value / rest, ⟨b.value % rest, b.left - n⟩)
  else none

/-- The number of the next so many bits. Bits that are missing count as zero. -/
def peek (n : Nat) (b : BitStack) : Nat :=
  if n ≤ b.left then b.value / Nat.pow 2 (b.left - n) else b.value * Nat.pow 2 (n - b.left)

end BitStack

/-! ### State codes -/

/-- **A state**: its symbol, and the next states that it can come to. -/
structure State where
  symbol : Nat
  /-- How many bits say which of them it is. -/
  bits : Nat
  /-- The first of them. -/
  base : Nat
  deriving DecidableEq, Repr

/-- **A table of states.** -/
structure StateTable where
  /-- How many bits the number of a state has. -/
  accuracy : Nat
  states : Array State

namespace StateTable

/-- The symbols of shares below one, and those of the others, as often as they have states. -/
def symbols (shares : List Int) : List Nat × List Nat :=
  let numbered := shares.zipIdx
  ((numbered.filter (·.1 < 0)).map (·.2),
    numbered.flatMap fun (share, symbol) => List.replicate share.toNat symbol)

/-- The symbol of each state. States are given away in steps that go round the table; the single
states of shares below one are taken from its end. -/
def spread (accuracy : Nat) (shares : List Int) : List Nat :=
  let size := Nat.pow 2 accuracy
  let (rare, common) := symbols shares
  let most := size - rare.length
  let round := (List.range size).map fun k => k * (size / 2 + size / 8 + 3) % size
  let places := (round.filter (· < most)).toArray.zip common.toArray
  (List.range size).map fun n =>
    if most ≤ n then rare.getD (size - 1 - n) 0
    else ((places.find? (·.1 = n)).map (·.2)).getD 0

/-- The states of given symbols. A symbol with more states needs fewer bits to come to the next
one. -/
def ofSymbols (accuracy : Nat) (symbols : List Nat) : StateTable :=
  let size := Nat.pow 2 accuracy
  let states := symbols.zipIdx.map fun (symbol, n) =>
    let turn := symbols.count symbol + (symbols.take n).count symbol
    let bits := accuracy - Nat.log2 turn
    ⟨symbol, bits, turn * Nat.pow 2 bits - size⟩
  ⟨accuracy, states.toArray⟩

/-- The table of shares. -/
def ofShares (accuracy : Nat) (shares : List Int) : StateTable :=
  ofSymbols accuracy (spread accuracy shares)

/-- The table of a single symbol. -/
def single (symbol : Nat) : StateTable := ⟨0, #[⟨symbol, 0, 0⟩]⟩

/-- A share at the low end of a number, when so many states are left, one more than the share;
and how many bits it takes. Small shares are written with one bit less. -/
def readShare (left n : Nat) : Nat × Nat :=
  let width := Nat.log2 (left + 1) + 1
  let half := Nat.pow 2 (width - 1)
  let short := 2 * half - 1 - (left + 1)
  let whole := n % (2 * half)
  if whole % half < short then (whole % half, width - 1)
  else if half ≤ whole then (whole - short, width)
  else (whole, width)

/-- Reads shares at the low end of a number until no state is left, for so many symbols at most;
also says how many bits have been read. Behind a share of zero two bits say how many more such
shares follow, and if that is the most that they can say, so do the next two. -/
def readShares : Nat → Nat → Nat → Nat → Nat → Option (List Int × Nat)
  | _, 0, _, _, _ => some ([], 0)
  | 0, _, _, _, _ => none
  | symbols + 1, left, n, zeros, repeats =>
    -- the number of zeros that are due, and what the last pair of bits has said
    if 0 < zeros then
      let (due, pair, read) :=
        if zeros = 1 ∧ repeats = 3 then (n % 4, n % 4, 2) else (zeros - 1, repeats, 0)
      (readShares symbols left (n / Nat.pow 2 read) due pair).map fun (shares, bits) =>
        (0 :: shares, bits + read)
    else
      let (value, width) := readShare left n
      let rest := n / Nat.pow 2 width
      let (due, read) := if value = 1 then (rest % 4, 2) else (0, 0)
      let given := if value = 0 then 1 else value - 1
      if left < given then none
      else
        (readShares symbols (left - given) (rest / Nat.pow 2 read) due due).map
          fun (shares, bits) => (((value : Int) - 1) :: shares, bits + width + read)

/-- Reads a table for so many symbols and with so many bits at most, which is at the front of
octets. -/
def read? (symbols mostAccuracy : Nat) (s : Bytes) : Option (StateTable × Bytes) := do
  let accuracy := number s % 16 + 5
  if mostAccuracy < accuracy then none
  else
    let (shares, bits) ← readShares symbols (Nat.pow 2 accuracy) (number s / 16) 0 0
    let (_, rest) ← cut? ((bits + 4 + 7) / 8) s
    return (ofShares accuracy shares, rest)

/-- The state with which reading starts. -/
def start? (t : StateTable) (b : BitStack) : Option (State × BitStack) := do
  let (n, b) ← b.read? t.accuracy
  return (← t.states[n]?, b)

/-- The state after a state. -/
def next? (t : StateTable) (s : State) (b : BitStack) : Option (State × BitStack) := do
  let (n, b) ← b.read? s.bits
  return (← t.states[s.base + n]?, b)

end StateTable

/-! ### Prefix codes -/

/-- **A table of strings of bits**: the symbol at each number of so many bits, and how many of them
are its string. -/
structure PrefixTable where
  width : Nat
  entries : Array (UInt8 × Nat)

namespace PrefixTable

/-- The number of binary digits of the weights' sum, in which a weight counts for so many strings
as it leaves open. -/
def total (weights : List Nat) : Nat :=
  weights.foldl (fun sum w => if w = 0 then sum else sum + Nat.pow 2 (w - 1)) 0

/-- The table of weights. The weight of the last symbol is left out: it fills up the table. -/
def ofWeights? (weights : List Nat) : Option PrefixTable :=
  let sum := total weights
  let width := Nat.log2 sum + 1
  let rest := Nat.pow 2 width - sum
  if sum = 0 ∨ 12 < width ∨ Nat.pow 2 (Nat.log2 rest) ≠ rest then none
  else
    let symbols := (weights ++ [Nat.log2 rest + 1]).zipIdx
    let entries := (List.range width).flatMap fun w =>
      (symbols.filter (·.1 = w + 1)).flatMap fun (_, symbol) =>
        List.replicate (Nat.pow 2 w) (UInt8.ofNat symbol, width - w)
    some ⟨width, entries.toArray⟩

/-- Reads so many symbols, behind which nothing may be left. -/
def read? (t : PrefixTable) : Nat → BitStack → Option Bytes
  | 0, b => if b.left = 0 then some [] else none
  | n + 1, b => do
    let (symbol, bits) ← t.entries[b.peek t.width]?
    let (_, b) ← b.read? bits
    (t.read? n b).map (symbol :: ·)

/-- Weights written by a state code, with two states that take turns: so many at most, up to the
end of the bits. -/
def weightsFrom (t : StateTable) : Nat → State → State → BitStack → Option (List Nat)
  | 0, _, _, _ => none
  | n + 1, s, other, b =>
    match t.next? s b with
    | none => some [s.symbol, other.symbol]
    | some (s', b) => (weightsFrom t n other s' b).map (s.symbol :: ·)

/-- Weights written by a state code. -/
def codedWeights? (s : Bytes) : Option (List Nat) := do
  let (t, s) ← StateTable.read? 12 6 s
  let b ← BitStack.ofOctets? s
  let (first, b) ← t.start? b
  let (second, b) ← t.start? b
  weightsFrom t 255 first second b

/-- Reads a table at the front of octets. The first of them says how the weights are written, and
how many octets or weights there are. -/
def ofOctets? : Bytes → Option (PrefixTable × Bytes)
  | [] => none
  | head :: s => do
    if head.toNat < 128 then
      let (coded, s) ← cut? head.toNat s
      return (← ofWeights? (← codedWeights? coded), s)
    else
      let count := head.toNat - 127
      let (pairs, s) ← cut? ((count + 1) / 2) s
      let weights := pairs.flatMap fun b => [b.toNat / 16, b.toNat % 16]
      return (← ofWeights? (weights.take count), s)

end PrefixTable

end Maildrop.Store.Frame
