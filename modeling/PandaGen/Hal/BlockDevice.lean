import Mathlib.Data.Vector.Basic
import Mathlib.Logic.Function.Basic

/-!
# Block devices (`hal/src/block_device.rs`)

The `BlockDevice` trait, the RAM disk, and the law a device has to obey for storage on top of it: a
block write happens as a whole or not at all, and nothing else changes the blocks.
-/

namespace PandaGen.Hal

def blockSize : Nat := 4096

/-- The contents of a block, `[u8; BLOCK_SIZE]`. -/
abbrev Block := List.Vector UInt8 blockSize

namespace Block

/-- A zeroed block with `bytes` copied to its start, as `block[..len].copy_from_slice(bytes)` does. -/
def ofBytes (bytes : List UInt8) : Block :=
  ⟨(bytes ++ List.replicate blockSize 0).take blockSize, by simp⟩

def untilNull (b : Block) : List UInt8 := b.toList.takeWhile (· != 0)

end Block

inductive BlockError where
  | outOfBounds
  | ioError
  | notReady
  | invalidSize
  deriving DecidableEq

/-- A device that reads and writes blocks. The buffers of the callers are always `BLOCK_SIZE` bytes long. -/
class BlockDevice (D : Type) where
  blockCount : D → Nat
  readBlock : D → Nat → Except BlockError Block × D
  writeBlock : D → Nat → Block → Except BlockError Unit × D
  flush : D → Except BlockError Unit × D

export BlockDevice (blockCount readBlock writeBlock flush)

def contents {D : Type} [BlockDevice D] (d : D) (i : Nat) : Block :=
  match (readBlock d i).1 with
  | .ok b => b
  | .error _ => Block.ofBytes []

/-- Single block writes are atomic and persistent, and blocks inside the device can be read. Writes and
flushes may fail at any time. -/
class LawfulBlockDevice (D : Type) [BlockDevice D] : Prop where
  blockCount_lt (d : D) : blockCount d < 2 ^ 64
  readBlock_ok (d : D) {i : Nat} : i < blockCount d → (readBlock d i).1 = .ok (contents d i)
  readBlock_outOfBounds (d : D) {i : Nat} : blockCount d ≤ i → (readBlock d i).1 = .error .outOfBounds
  readBlock_blockCount (d : D) (i : Nat) : blockCount (readBlock d i).2 = blockCount d
  readBlock_contents (d : D) (i : Nat) : contents (readBlock d i).2 = contents d
  writeBlock_blockCount (d : D) (i : Nat) (b : Block) : blockCount (writeBlock d i b).2 = blockCount d
  writeBlock_ok (d : D) {i : Nat} {b : Block} : (writeBlock d i b).1 = .ok () →
    i < blockCount d ∧ contents (writeBlock d i b).2 = Function.update (contents d) i b
  writeBlock_error (d : D) {i : Nat} {b : Block} {e : BlockError} : (writeBlock d i b).1 = .error e →
    contents (writeBlock d i b).2 = contents d
  flush_blockCount (d : D) : blockCount (flush d).2 = blockCount d
  flush_contents (d : D) : contents (flush d).2 = contents d

/-- A device that carries out every write inside it and every flush. -/
class ReliableBlockDevice (D : Type) [BlockDevice D] : Prop where
  writeBlock_inside (d : D) {i : Nat} (b : Block) : i < blockCount d → (writeBlock d i b).1 = .ok ()
  flush_ok (d : D) : (flush d).1 = .ok ()

theorem readBlock_congr {D D' : Type} [BlockDevice D] [LawfulBlockDevice D] [BlockDevice D'] [LawfulBlockDevice D']
    {d : D} {d' : D'} (hn : blockCount d' = blockCount d) (hc : contents d' = contents d) (i) :
    (readBlock d' i).1 = (readBlock d i).1 := by
  rcases Nat.lt_or_ge i (blockCount d) with hi | hi
  · rw [LawfulBlockDevice.readBlock_ok d hi, LawfulBlockDevice.readBlock_ok d' (by omega), hc]
  · rw [LawfulBlockDevice.readBlock_outOfBounds d hi, LawfulBlockDevice.readBlock_outOfBounds d' (by omega)]

/-! ## RAM disk -/

structure RamDisk where
  blocks : List Block
  length_lt : blocks.length < 2 ^ 64

namespace RamDisk

def new (count : Nat) (h : count < 2 ^ 64) : RamDisk :=
  ⟨List.replicate count (Block.ofBytes []), by simpa using h⟩

instance : BlockDevice RamDisk where
  blockCount d := d.blocks.length
  readBlock d i := (d.blocks[i]?.elim (.error .outOfBounds) .ok, d)
  writeBlock d i b :=
    if i ≥ d.blocks.length then (.error .outOfBounds, d)
    else (.ok (), ⟨d.blocks.set i b, by simpa using d.length_lt⟩)
  flush d := (.ok (), d)

theorem contents_eq (d : RamDisk) (i : Nat) : contents d i = d.blocks[i]?.getD (Block.ofBytes []) := by
  simp only [contents, readBlock]
  cases d.blocks[i]? <;> rfl

theorem contents_new {count} (h : count < 2 ^ 64) (i : Nat) : contents (new count h) i = Block.ofBytes [] := by
  rw [contents_eq, new, List.getElem?_replicate]
  split <;> rfl

instance : LawfulBlockDevice RamDisk where
  blockCount_lt d := d.length_lt
  readBlock_ok d i hi := by
    have hi : i < d.blocks.length := hi
    rw [contents_eq]
    simp only [readBlock, List.getElem?_eq_getElem hi, Option.elim_some, Option.getD_some]
  readBlock_outOfBounds d i hi := by
    have hi : d.blocks.length ≤ i := hi
    simp only [readBlock, List.getElem?_eq_none hi, Option.elim_none]
  readBlock_blockCount _ _ := rfl
  readBlock_contents _ _ := rfl
  writeBlock_blockCount d i b := by
    simp only [writeBlock]
    split
    · rfl
    · simp [blockCount]
  writeBlock_ok d i b h := by
    simp only [writeBlock] at h ⊢
    split at h
    · cases h
    · rename_i hi
      refine ⟨Nat.lt_of_not_ge hi, ?_⟩
      rw [if_neg hi]
      funext j
      rw [contents_eq, Function.update_apply]
      by_cases hj : j = i
      · subst hj; simp [Nat.lt_of_not_ge hi]
      · rw [if_neg hj, contents_eq, List.getElem?_set_ne (Ne.symm hj)]
  writeBlock_error d i b e h := by
    simp only [writeBlock] at h ⊢
    split at h
    · rename_i hi; rw [if_pos hi]
    · cases h
  flush_blockCount _ := rfl
  flush_contents _ := rfl

instance : ReliableBlockDevice RamDisk where
  writeBlock_inside _ _ _ hi := congrArg Prod.fst (if_neg hi.not_ge)
  flush_ok _ := rfl

end RamDisk

end PandaGen.Hal
