import Maildrop.Store.Frame

/-!
# Frames that are not compressed

A block of a frame may hold octets as they are, or one octet that is repeated. A frame of such
blocks is unpacked to what they hold, one behind the other
(`Maildrop.Store.Frame.unpack?_of_holds`), and any octets can be written so
(`Maildrop.Store.Frame.exists_unpack?`). So every message can stand in a database of the first
version.
-/

namespace Maildrop.Store.Frame

/-- The front of a block: whether it is the last one, its kind, and how many octets it holds. -/
def blockFront (isLast : Bool) (kind size : Nat) : Bytes :=
  let n := size * 8 + kind * 2 + isLast.toNat
  [n.toUInt8, (n / 256).toUInt8, (n / 65536).toUInt8]

/-- **A block that is not compressed**, and what it holds. -/
inductive Plain (isLast : Bool) : Bytes → Bytes → Prop where
  | octets (part : Bytes) (h : part.length < 0x200000) :
    Plain isLast (blockFront isLast 0 part.length ++ part) part
  | run (n : Nat) (x : UInt8) (h : n < 0x200000) :
    Plain isLast (blockFront isLast 1 n ++ [x]) (List.replicate n x)

/-- **Blocks that are not compressed**, and what they hold. -/
inductive Holds : Bytes → Bytes → Prop where
  | last {s part : Bytes} (h : Plain true s part) : Holds s part
  | more {s part rest whole : Bytes} (h : Plain false s part) (hrest : Holds rest whole) :
    Holds (s ++ rest) (part ++ whole)

variable {isLast : Bool} {s part whole : Bytes}

/-- The front of a block says what has been written there. -/
theorem exists_blockFront (isLast : Bool) {kind size : Nat} (hkind : kind < 4)
    (hsize : size < 0x200000) : ∃ a₀ a₁ a₂, blockFront isLast kind size = [a₀, a₁, a₂] ∧
      number [a₀, a₁, a₂] / 2 % 4 = kind ∧ number [a₀, a₁, a₂] / 8 = size ∧
      (number [a₀, a₁, a₂] % 2 = 1 ↔ isLast = true) := by
  have hlast := isLast.toNat_lt
  refine ⟨_, _, _, rfl, ?_⟩
  have hnumber : number (blockFront isLast kind size) = size * 8 + kind * 2 + isLast.toNat := by
    simp only [number, blockFront, List.foldr_cons, List.foldr_nil, Nat.toUInt8_eq,
      UInt8.toNat_ofNat']
    omega
  rw [blockFront] at hnumber
  rw [hnumber]
  refine ⟨by omega, by omega, ?_⟩
  rcases isLast with _ | _ <;> simp <;> omega

/-- **A block that is not compressed is read** whatever follows it. -/
theorem readBlock_of_plain (h : Plain isLast s part) (c : Context) (rest : Bytes) :
    readBlock c (s ++ rest) =
      some (⟨{ c with output := c.output ++ part.toArray }, isLast⟩, rest) := by
  cases h with
  | octets _ h =>
    obtain ⟨a₀, a₁, a₂, hfront, hkind, hsize, hlast⟩ :=
      exists_blockFront isLast (by decide : 0 < 4) h
    rw [hfront, List.append_assoc]
    change readBlock c (a₀ :: a₁ :: a₂ :: (part ++ rest)) = _
    simp [readBlock, hkind, hsize, hlast, cut?]
  | run n x h =>
    obtain ⟨a₀, a₁, a₂, hfront, hkind, hsize, hlast⟩ :=
      exists_blockFront isLast (by decide : 1 < 4) h
    rw [hfront]
    change readBlock c (a₀ :: a₁ :: a₂ :: x :: rest) = _
    simp [readBlock, hkind, hsize, hlast]

/-- Blocks are read one after the other. -/
theorem readBlocks_of_readBlock {c : Context} {b : Block} {rest : Bytes}
    (h : readBlock c s = some (b, rest)) :
    readBlocks c s =
      if b.isLast then if rest.isEmpty then some b.context else none
      else readBlocks b.context rest := by
  rw [readBlocks]
  split
  · next hnone => exact absurd (h.symm.trans hnone) (by simp)
  · next b' rest' hsome =>
    obtain ⟨rfl, rfl⟩ := Prod.mk.inj (Option.some.inj (h.symm.trans hsome))
    rfl

/-- **Blocks that are not compressed are read** up to the last one. -/
theorem readBlocks_of_holds (h : Holds s whole) (c : Context) :
    readBlocks c s = some { c with output := c.output ++ whole.toArray } := by
  induction h generalizing c with
  | last h =>
    have hread := readBlock_of_plain h c []
    rw [List.append_nil] at hread
    rw [readBlocks_of_readBlock hread]
    rfl
  | more h _ ih =>
    rw [readBlocks_of_readBlock (readBlock_of_plain h c _)]
    simp [ih]

/-- **A frame of blocks that are not compressed is unpacked** to what they hold, if that is as much
as its header says. -/
theorem unpack?_of_holds {frame : Bytes} {size : Option Nat}
    (hheader : readHeader frame = some (size, s)) (h : Holds s whole)
    (hsize : size.all (· = whole.length)) : unpack? (mark ++ frame) = some whole := by
  simp [unpack?, Bytes.stripPrefix?_append, hheader, readBlocks_of_holds h, hsize]

/-- Any octets can be written without compression. -/
theorem exists_holds (whole : Bytes) : ∃ s, Holds s whole := by
  induction whole with
  | nil => exact ⟨_, .last (.octets [] (by decide))⟩
  | cons x whole ih =>
    obtain ⟨rest, hrest⟩ := ih
    exact ⟨_, .more (.octets [x] (by simp)) hrest⟩

/-- **Every octets are what some frame holds.** -/
theorem exists_unpack? (raw : Bytes) : ∃ frame, unpack? frame = some raw := by
  obtain ⟨s, hs⟩ := exists_holds raw
  have hheader : readHeader ([0, 0] ++ s) = some (none, s) := by
    simp [readHeader, cut?, number, mostWindow]
  exact ⟨_, unpack?_of_holds hheader hs rfl⟩

end Maildrop.Store.Frame
