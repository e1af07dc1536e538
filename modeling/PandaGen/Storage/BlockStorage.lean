import PandaGen.Core.Word
import PandaGen.Lib.Proc
import PandaGen.Storage.FailingDevice
import PandaGen.Storage.Serde
import PandaGen.Storage.Transaction
import Mathlib.Order.Interval.Finset.Nat
import Mathlib.Data.Finset.Max

/-!
# Block-backed storage (`services_storage/src/block_storage.rs`)

Block 0 holds the superblock, the next blocks the commit log, then come the allocation bitmap (never
written) and the data area.
-/

namespace PandaGen.Storage

open Hal Lib

/-- `size.div_ceil(BLOCK_SIZE)`. -/
def blocksFor (sizeBytes : Nat) : Nat := (sizeBytes + (blockSize - 1)) / blockSize

structure Superblock where
  magic : Nat
  version : Nat
  totalBlocks : Nat
  bitmapStart : Nat
  bitmapBlocks : Nat
  dataStart : Nat
  commitLogStart : Nat
  commitLogBlocks : Nat
  commitSequence : Nat

def superblockMagic : Nat := 0x50414E4447454E00

def storageVersion : Nat := 2

structure AllocationEntry where
  objectId : ObjectId
  versionId : VersionId
  blockIdx : Nat
  sizeBytes : Nat
  deriving DecidableEq

/-- The blocks an allocation spans: `block_idx..block_idx + blocks_needed`. -/
def AllocationEntry.blocks (e : AllocationEntry) : Option (List Nat) := do
  let stop ← checkedAdd e.blockIdx (blocksFor e.sizeBytes)
  some (List.range' e.blockIdx (stop - e.blockIdx))

structure CommitRecord where
  transactionId : TransactionId
  sequence : Nat
  allocations : List AllocationEntry
  checksum : UInt32
  deriving DecidableEq

structure StorageRecoveryReport where
  recoveredCommits : Nat
  discardedTransactions : Nat
  lastSequence : Nat
  success : Bool
  error : Option String

instance instTransOrdKey : Std.TransOrd (ObjectId × VersionId) := inferInstance

structure BlockStorage (D : Type) where
  device : D
  superblock : Superblock
  allocations : BTreeMap (ObjectId × VersionId) AllocationEntry
  latestVersions : BTreeMap ObjectId VersionId
  freeBlocks : Finset Nat
  pending : BTreeMap TransactionId (List PendingWrite)
  recoveryReport : Option StorageRecoveryReport

inductive BlockStorageError where
  | blockError (e : BlockError)
  | invalidSuperblock
  | noFreeSpace
  | objectNotFound
  | serializationError
  deriving DecidableEq

def BlockStorageError.debug : BlockStorageError → String
  | .blockError .outOfBounds => "BlockError(OutOfBounds)"
  | .blockError .ioError => "BlockError(IoError)"
  | .blockError .notReady => "BlockError(NotReady)"
  | .blockError .invalidSize => "BlockError(InvalidSize)"
  | .invalidSuperblock => "InvalidSuperblock"
  | .noFreeSpace => "NoFreeSpace"
  | .objectNotFound => "ObjectNotFound"
  | .serializationError => "SerializationError"

/-! ## Commit records -/

/-- How the device holds superblocks and commit records: their texts, and `crc32fast::hash`. -/
class DiskFormat where
  [superblock : SerdeJson Superblock]
  [commitRecord : SerdeJson CommitRecord]
  hash : List UInt8 → UInt32

attribute [reducible, instance] DiskFormat.superblock DiskFormat.commitRecord

class LawfulDiskFormat [DiskFormat] : Prop where
  [superblock : LawfulSerdeJson Superblock]
  [commitRecord : LawfulSerdeJson CommitRecord]

attribute [instance] LawfulDiskFormat.superblock LawfulDiskFormat.commitRecord

namespace CommitRecord

variable [DiskFormat]

/-- CRC32 of the record with its checksum field set to 0. -/
def computeChecksum (r : CommitRecord) : UInt32 := DiskFormat.hash ((toVec { r with checksum := 0 }).getD [])

def new (transactionId : TransactionId) (sequence : Nat) (allocations : List AllocationEntry) : CommitRecord :=
  let record : CommitRecord := ⟨transactionId, sequence, allocations, 0⟩
  { record with checksum := record.computeChecksum }

def isValid (r : CommitRecord) : Bool := r.computeChecksum == r.checksum

end CommitRecord

namespace BlockStorage

variable {D : Type} [BlockDevice D]

def onDevice {α : Type} (f : D → Except BlockError α × D) : Proc (BlockStorage D) BlockStorageError α := do
  let s ← get
  set { s with device := (f s.device).2 }
  match (f s.device).1 with
  | .ok a => pure a
  | .error e => throw (.err (.blockError e))

/-! ## Formatting -/

def format [DiskFormat] (device : D) : Except (Fault BlockStorageError) (BlockStorage D) :=
  let totalBlocks := blockCount device
  match checkedMul totalBlocks 5 with
  | none => .error .panic
  | some scaled =>
  let commitLogBlocks := max 1 (min (scaled / 100) 256)
  let bitmapStart := 1 + commitLogBlocks
  if bitmapStart ≥ totalBlocks then .error (.err .invalidSuperblock) else
  let remainingAfterLog := totalBlocks - bitmapStart
  let bitmapBlocks := max (remainingAfterLog / 10) 1
  let dataStart := bitmapStart + bitmapBlocks
  if dataStart ≥ totalBlocks then .error (.err .invalidSuperblock) else
  let superblock : Superblock :=
    { magic := superblockMagic
      version := storageVersion
      totalBlocks, bitmapStart, bitmapBlocks, dataStart
      commitLogStart := 1
      commitLogBlocks
      commitSequence := 0 }
  match toVec superblock with
  | none => .error (.err .serializationError)
  | some sbJson =>
    if sbJson.length > blockSize then .error (.err .invalidSuperblock) else
    match writeBlock device 0 (Block.ofBytes sbJson) with
    | (.error e, _) => .error (.err (.blockError e))
    | (.ok (), device) =>
      match flush device with
      | (.error e, _) => .error (.err (.blockError e))
      | (.ok (), device) =>
        .ok { device, superblock
              allocations := ∅
              latestVersions := ∅
              freeBlocks := Finset.Ico dataStart totalBlocks
              pending := ∅
              recoveryReport := none }

/-! ## Recovery

An overflow in a sum of block numbers, which are read from the device, panics.
-/

def applyAllocation (s : BlockStorage D) (alloc : AllocationEntry) : Option (BlockStorage D) := do
  let taken ← (List.range (blocksFor alloc.sizeBytes)).mapM (checkedAdd alloc.blockIdx)
  some { s with
    allocations := s.allocations.insert (alloc.objectId, alloc.versionId) alloc
    latestVersions := s.latestVersions.insert alloc.objectId alloc.versionId
    freeBlocks := taken.foldl Finset.erase s.freeBlocks }

section Recovery

variable [DiskFormat]

/-- One turn of the recovery loop: the commit log block `i`. -/
def scanSlot (st : BlockStorage D × StorageRecoveryReport) (i : Nat) :
    Option (BlockStorage D × StorageRecoveryReport) := do
  let (s, report) := st
  let blockIdx ← checkedAdd s.superblock.commitLogStart i
  match readBlock s.device blockIdx with
  | (.ok block, device) =>
    let s := { s with device }
    let json := block.untilNull
    if json.length > 0 then
      match (fromSlice json : Option CommitRecord) with
      | some record =>
        if record.isValid && record.sequence > report.lastSequence then
          let s ← record.allocations.foldlM applyAllocation s
          some (s, { report with
            recoveredCommits := report.recoveredCommits + 1
            lastSequence := record.sequence })
        else some (s, { report with discardedTransactions := report.discardedTransactions + 1 })
      | none => some (s, report)
    else some (s, report)
  | (.error _, device) =>
    some ({ s with device }, { report with discardedTransactions := report.discardedTransactions + 1 })

def performRecovery (s : BlockStorage D) : Option (BlockStorage D × StorageRecoveryReport) :=
  (List.range s.superblock.commitLogBlocks).foldlM scanSlot (s, ⟨0, 0, 0, true, none⟩)

/-- Open existing block storage with crash recovery (`BlockStorage::open`). -/
def openDevice (device : D) : Except (Fault BlockStorageError) (BlockStorage D) :=
  match readBlock device 0 with
  | (.error e, _) => .error (.err (.blockError e))
  | (.ok block, device) =>
    match (fromSlice block.untilNull : Option Superblock) with
    | none => .error (.err .invalidSuperblock)
    | some superblock =>
      if superblock.magic ≠ superblockMagic then .error (.err .invalidSuperblock) else
      let storage : BlockStorage D :=
        { device, superblock
          allocations := ∅
          latestVersions := ∅
          freeBlocks := Finset.Ico superblock.dataStart superblock.totalBlocks
          pending := ∅
          recoveryReport := none }
      match storage.performRecovery with
      | none => .error .panic
      | some (storage, report) => .ok { storage with recoveryReport := some report }

end Recovery

/-! ## Writing -/

def writeSuperblock [DiskFormat] : Proc (BlockStorage D) BlockStorageError Unit := do
  let s ← get
  let sbJson ← Proc.okOr .serializationError (toVec s.superblock)
  Proc.failIf (sbJson.length > blockSize) (.err .invalidSuperblock)
  onDevice fun d => writeBlock d 0 (Block.ofBytes sbJson)
  onDevice flush

def writeCommitRecord [DiskFormat]
    (transactionId : TransactionId) (allocations : List AllocationEntry) :
    Proc (BlockStorage D) BlockStorageError Unit := do
  let sequence ← Proc.okOrPanic (checkedAdd (← get).superblock.commitSequence 1)
  modify fun s => { s with superblock.commitSequence := sequence }
  let s ← get
  let record := CommitRecord.new transactionId sequence allocations
  let recordJson ← Proc.okOr .serializationError (toVec record)
  Proc.failIf (recordJson.length > blockSize) (.err .serializationError)
  -- the remainder by zero panics
  Proc.failIf (s.superblock.commitLogBlocks = 0) .panic
  let logSlot := sequence % s.superblock.commitLogBlocks
  let commitBlockIdx ← Proc.okOrPanic (checkedAdd s.superblock.commitLogStart logSlot)
  onDevice fun d => writeBlock d commitBlockIdx (Block.ofBytes recordJson)
  onDevice flush
  writeSuperblock

def takeLowest : Nat → Finset Nat → List Nat × Finset Nat
  | 0, free => ([], free)
  | n + 1, free =>
    match (free.min : Option Nat) with
    | some block =>
      let (blocks, rest) := takeLowest n (free.erase block)
      (block :: blocks, rest)
    | none => takeLowest n free

def allocateBlocks (sizeBytes : Nat) : Proc (BlockStorage D) BlockStorageError (List Nat) := do
  let s ← get
  let blocksNeeded := blocksFor sizeBytes
  Proc.failIf (s.freeBlocks.card < blocksNeeded) (.err .noFreeSpace)
  let (allocated, free) := takeLowest blocksNeeded s.freeBlocks
  set { s with freeBlocks := free }
  pure allocated

def writeData : List Nat → List UInt8 → Proc (BlockStorage D) BlockStorageError Unit
  | [], _ => onDevice flush
  | blockIdx :: blocks, data => do
    onDevice fun d => writeBlock d blockIdx (Block.ofBytes (data.take blockSize))
    writeData blocks (data.drop blockSize)

/-! ## Reading -/

def readData : List Nat → Nat → Proc (BlockStorage D) BlockStorageError (List UInt8)
  | [], _ => pure []
  | blockIdx :: blocks, remaining => do
    let block ← onDevice fun d => readBlock d blockIdx
    let chunk := block.toList.take (min remaining blockSize)
    if remaining - min remaining blockSize = 0 then pure chunk
    else
      let rest ← readData blocks (remaining - min remaining blockSize)
      pure (chunk ++ rest)

def readObjectData (objectId : ObjectId) (versionId : VersionId) :
    Proc (BlockStorage D) BlockStorageError (List UInt8) := do
  let s ← get
  let isKey := fun p : PendingWrite => p.objectId = objectId ∧ p.versionId = versionId
  match s.pending.toList.findSome? (fun (_, pendingList) => pendingList.reverse.find? (isKey ·)) with
  | some entry => pure entry.data
  | none =>
    let entry ← Proc.okOr .objectNotFound s.allocations[(objectId, versionId)]?
    let blocks ← Proc.okOrPanic entry.blocks
    readData blocks entry.sizeBytes

/-! ## Transactions -/

def storageError (e : BlockStorageError) : TransactionError := .storageError e.debug

def read (s : BlockStorage D) (tx : Transaction) (objectId : ObjectId) : Except TransactionError VersionId :=
  if tx.state ≠ .active then .error .alreadyFinalized else
  match s.pending[tx.id]?.bind fun pending => pending.reverse.find? (·.objectId = objectId) with
  | some entry => .ok entry.versionId
  | none =>
    match s.latestVersions[objectId]? with
    | some versionId => .ok versionId
    | none => .error (.objectNotFound (objectIdText objectId))

def write (tx : Transaction) (objectId : ObjectId) (versionId : VersionId) (data : List UInt8) :
    Proc (BlockStorage D) TransactionError VersionId := do
  Proc.failIf (tx.state ≠ .active) (.err .alreadyFinalized)
  modify fun s =>
    { s with pending := s.pending.insert tx.id (s.pending[tx.id]?.getD [] ++ [⟨objectId, versionId, data⟩]) }
  pure versionId

def writeEntry (write : PendingWrite) : Proc (BlockStorage D) TransactionError AllocationEntry := do
  let sizeBytes := write.data.length
  let blocks ← (allocateBlocks sizeBytes).mapErr storageError
  -- `blocks[0]` panics for empty data
  match blocks with
  | [] => throw .panic
  | firstBlock :: _ =>
    (writeData blocks write.data).mapErr storageError
    pure ⟨write.objectId, write.versionId, firstBlock, sizeBytes⟩

/-- Step 1 of a commit: write all data blocks. -/
def writePending : List PendingWrite → Proc (BlockStorage D) TransactionError (List AllocationEntry)
  | [] => pure []
  | write :: pending => do
    let alloc ← writeEntry write
    let rest ← writePending pending
    pure (alloc :: rest)

/-- Step 3 of a commit: enters an allocation into the maps. -/
def recordAllocation (s : BlockStorage D) (alloc : AllocationEntry) : BlockStorage D :=
  { s with
    allocations := s.allocations.insert (alloc.objectId, alloc.versionId) alloc
    latestVersions := s.latestVersions.insert alloc.objectId alloc.versionId }

def commit [DiskFormat] (tx : Transaction) :
    Proc (BlockStorage D) TransactionError Transaction := do
  Proc.failIf (tx.state ≠ .active) (.err .alreadyFinalized)
  let s ← get
  match s.pending[tx.id]? with
  | some pending =>
    set { s with pending := s.pending.erase tx.id }
    let allocationsToCommit ← writePending pending
    (writeCommitRecord tx.id allocationsToCommit).mapErr storageError
    modify fun s => allocationsToCommit.foldl recordAllocation s
  | none => pure ()
  match tx.commit with
  | .ok tx => pure tx
  | .error e => throw (.err e)

def rollback (tx : Transaction) : Proc (BlockStorage D) TransactionError Transaction := do
  Proc.failIf (tx.state ≠ .active) (.err .alreadyFinalized)
  modify fun s => { s with pending := s.pending.erase tx.id }
  pure (tx.rollback.toOption.getD tx)

end BlockStorage

end PandaGen.Storage
