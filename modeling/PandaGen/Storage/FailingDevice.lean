import PandaGen.Hal.BlockDevice

/-!
# A device that fails by policy (`services_storage/src/failing_device.rs`)

`AfterWrites n` lets `n` block writes through and refuses the rest, so a commit on it stops after `n` of
its block writes and leaves the device as a power cut at that point would.
-/

namespace PandaGen.Storage

open Hal

inductive FailurePolicy where
  | never
  | afterWrites (n : Nat)
  | onBlocks (blocks : List Nat)
  | afterWritesToBlocks (count : Nat) (blocks : List Nat)

structure FailingBlockDevice (D : Type) where
  inner : D
  policy : FailurePolicy
  writeCount : Nat
  blockWriteCounts : Nat → Nat

namespace FailingBlockDevice

variable {D : Type}

def new (inner : D) (policy : FailurePolicy) : FailingBlockDevice D := ⟨inner, policy, 0, fun _ => 0⟩

def setPolicy (d : FailingBlockDevice D) (policy : FailurePolicy) : FailingBlockDevice D :=
  ⟨d.inner, policy, 0, fun _ => 0⟩

def shouldFail (d : FailingBlockDevice D) (blockIdx : Nat) : Bool :=
  match d.policy with
  | .never => false
  | .afterWrites n => n ≤ d.writeCount
  | .onBlocks blocks => blocks.contains blockIdx
  | .afterWritesToBlocks count blocks => blocks.contains blockIdx && count ≤ d.blockWriteCounts blockIdx

def countWrite (d : FailingBlockDevice D) (blockIdx : Nat) : FailingBlockDevice D :=
  let d := { d with writeCount := d.writeCount + 1 }
  match d.policy with
  | .afterWritesToBlocks _ blocks =>
    if blocks.contains blockIdx then
      { d with blockWriteCounts := Function.update d.blockWriteCounts blockIdx (d.blockWriteCounts blockIdx + 1) }
    else d
  | _ => d

def flushFails (d : FailingBlockDevice D) : Bool :=
  match d.policy with
  | .afterWrites n => n ≤ d.writeCount
  | _ => false

variable [BlockDevice D]

instance : BlockDevice (FailingBlockDevice D) where
  blockCount d := blockCount d.inner
  readBlock d i := ((readBlock d.inner i).1, { d with inner := (readBlock d.inner i).2 })
  writeBlock d i b :=
    if d.shouldFail i then (.error .ioError, d)
    else ((writeBlock d.inner i b).1, { d.countWrite i with inner := (writeBlock d.inner i b).2 })
  flush d :=
    if d.flushFails then (.error .ioError, d)
    else ((flush d.inner).1, { d with inner := (flush d.inner).2 })

instance [LawfulBlockDevice D] : LawfulBlockDevice (FailingBlockDevice D) where
  blockCount_lt d := LawfulBlockDevice.blockCount_lt d.inner
  readBlock_ok d _ hi := LawfulBlockDevice.readBlock_ok d.inner hi
  readBlock_outOfBounds d _ hi := LawfulBlockDevice.readBlock_outOfBounds d.inner hi
  readBlock_blockCount d i := LawfulBlockDevice.readBlock_blockCount d.inner i
  readBlock_contents d i := LawfulBlockDevice.readBlock_contents d.inner i
  writeBlock_blockCount d i b := by
    simp only [writeBlock]
    split
    · rfl
    · exact LawfulBlockDevice.writeBlock_blockCount d.inner i b
  writeBlock_ok d i b h := by
    simp only [writeBlock] at h ⊢
    split at h
    · cases h
    · rename_i hf
      rw [if_neg hf]
      exact LawfulBlockDevice.writeBlock_ok d.inner h
  writeBlock_error d i b e h := by
    simp only [writeBlock] at h ⊢
    split at h
    · rename_i hf; rw [if_pos hf]
    · rename_i hf
      rw [if_neg hf]
      exact LawfulBlockDevice.writeBlock_error d.inner h
  flush_blockCount d := by
    simp only [flush]
    split
    · rfl
    · exact LawfulBlockDevice.flush_blockCount d.inner
  flush_contents d := by
    simp only [flush]
    split
    · rfl
    · exact LawfulBlockDevice.flush_contents d.inner

end FailingBlockDevice

end PandaGen.Storage
