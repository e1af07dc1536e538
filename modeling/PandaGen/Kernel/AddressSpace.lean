import PandaGen.Core.Uuid
import PandaGen.Core.Word
import PandaGen.Lib.Proc

/-!
# Address spaces

`sim_kernel/src/address_space.rs` and `core_types/src/memory.rs`. The kernel makes its manager without page
tables. Identifiers drawn by a call are inputs of it.
-/

namespace PandaGen.Kernel

open Lib

structure MemoryPerms where
  read : Bool
  write : Bool
  execute : Bool
  deriving DecidableEq

inductive MemoryBacking where
  | anonymous
  | shared
  | device
  deriving DecidableEq

inductive MemoryAccessType where
  | read
  | write
  | execute
  deriving DecidableEq

def MemoryPerms.allows (p : MemoryPerms) : MemoryAccessType → Bool
  | .read => p.read
  | .write => p.write
  | .execute => p.execute

structure MemoryRegion where
  regionId : MemoryRegionId
  sizeBytes : Nat
  permissions : MemoryPerms
  backing : MemoryBacking
  deriving DecidableEq

structure AddressSpace where
  spaceId : AddressSpaceId
  regions : List MemoryRegion

namespace AddressSpace

def addRegion (s : AddressSpace) (region : MemoryRegion) : AddressSpace := { s with regions := s.regions ++ [region] }

def findRegion (s : AddressSpace) (regionId : MemoryRegionId) : Option MemoryRegion :=
  s.regions.find? fun r => r.regionId = regionId

end AddressSpace

structure AddressSpaceCap where
  spaceId : AddressSpaceId
  capId : Nat
  deriving DecidableEq

structure MemoryRegionCap where
  spaceId : AddressSpaceId
  regionId : MemoryRegionId
  capId : Nat
  deriving DecidableEq

inductive MemoryError where
  | addressSpaceNotFound (spaceId : AddressSpaceId)
  | regionNotFound (regionId : MemoryRegionId)
  | permissionDenied (regionId : MemoryRegionId) (accessType : MemoryAccessType) (permissions : MemoryPerms)
  | invalidRegionSize (size : Nat)
  | regionOverlap
  | budgetExhausted (requested available : Nat)
  | crossSpaceAccess (regionId : MemoryRegionId) (ownerSpace accessorSpace : AddressSpaceId)
  | noCapability (regionId : MemoryRegionId)
  deriving DecidableEq

inductive AddressSpaceEvent where
  | spaceCreated (spaceId : AddressSpaceId) (executionId : ExecutionId) (timestampNanos : Nat)
  | spaceActivated (spaceId : AddressSpaceId) (executionId : ExecutionId) (timestampNanos : Nat)
  | regionAllocated (spaceId : AddressSpaceId) (regionId : MemoryRegionId) (sizeBytes : Nat)
      (permissions : MemoryPerms) (timestampNanos : Nat)
  | regionDeallocated (spaceId : AddressSpaceId) (regionId : MemoryRegionId) (timestampNanos : Nat)
  | accessAttempted (spaceId : AddressSpaceId) (regionId : MemoryRegionId) (accessType : MemoryAccessType)
      (allowed : Bool) (timestampNanos : Nat)
  | spaceDestroyed (spaceId : AddressSpaceId) (timestampNanos : Nat)

structure AddressSpaceManager where
  spaces : BTreeMap AddressSpaceId AddressSpace
  executionToSpace : BTreeMap ExecutionId AddressSpaceId
  nextCapId : Nat
  spaceCaps : BTreeMap Nat (AddressSpaceId × ExecutionId)
  regionCaps : BTreeMap Nat (MemoryRegionId × AddressSpaceId × ExecutionId)
  currentSpace : Option AddressSpaceId
  auditLog : List AddressSpaceEvent

namespace AddressSpaceManager

def new : AddressSpaceManager where
  spaces := ∅
  executionToSpace := ∅
  nextCapId := 1
  spaceCaps := ∅
  regionCaps := ∅
  currentSpace := none
  auditLog := []

def record (m : AddressSpaceManager) (event : AddressSpaceEvent) : AddressSpaceManager :=
  { m with auditLog := m.auditLog ++ [event] }

def createAddressSpace (m : AddressSpaceManager) (spaceId : AddressSpaceId) (executionId : ExecutionId)
    (timestampNanos : Nat) : Option (AddressSpaceCap × AddressSpaceManager) := do
  let nextCapId ← checkedAdd m.nextCapId 1
  some (⟨spaceId, m.nextCapId⟩, { m with
    spaces := m.spaces.insert spaceId ⟨spaceId, []⟩
    executionToSpace := m.executionToSpace.insert executionId spaceId
    nextCapId
    spaceCaps := m.spaceCaps.insert m.nextCapId (spaceId, executionId) }.record
      (.spaceCreated spaceId executionId timestampNanos))

def allocateRegion (spaceCap : AddressSpaceCap) (region : MemoryRegion) (callerExecutionId : ExecutionId)
    (timestampNanos : Nat) : Proc AddressSpaceManager MemoryError MemoryRegionCap := do
  let m ← get
  let (capSpaceId, capOwner) ← Proc.okOr (.addressSpaceNotFound spaceCap.spaceId) m.spaceCaps[spaceCap.capId]?
  Proc.failIf (capSpaceId ≠ spaceCap.spaceId) (.err (.addressSpaceNotFound spaceCap.spaceId))
  Proc.failIf (capOwner ≠ callerExecutionId) (.err (.addressSpaceNotFound spaceCap.spaceId))
  let space ← Proc.okOr (.addressSpaceNotFound spaceCap.spaceId) m.spaces[spaceCap.spaceId]?
  let nextCapId ← Proc.okOrPanic (checkedAdd m.nextCapId 1)
  set ({ m with
    spaces := m.spaces.insert spaceCap.spaceId (space.addRegion region)
    nextCapId
    regionCaps := m.regionCaps.insert m.nextCapId (region.regionId, spaceCap.spaceId, callerExecutionId) }.record
      (.regionAllocated spaceCap.spaceId region.regionId region.sizeBytes region.permissions timestampNanos))
  return ⟨spaceCap.spaceId, region.regionId, m.nextCapId⟩

def accessRegion (regionCap : MemoryRegionCap) (accessType : MemoryAccessType) (callerExecutionId : ExecutionId)
    (timestampNanos : Nat) : Proc AddressSpaceManager MemoryError Unit := do
  let m ← get
  let (capRegionId, capSpaceId, capOwner) ←
    Proc.okOr (.noCapability regionCap.regionId) m.regionCaps[regionCap.capId]?
  Proc.failIf (capRegionId ≠ regionCap.regionId ∨ capSpaceId ≠ regionCap.spaceId)
    (.err (.noCapability regionCap.regionId))
  Proc.failIf (capOwner ≠ callerExecutionId) (.err (.noCapability regionCap.regionId))
  let space ← Proc.okOr (.addressSpaceNotFound regionCap.spaceId) m.spaces[regionCap.spaceId]?
  let region ← Proc.okOr (.regionNotFound regionCap.regionId) (space.findRegion regionCap.regionId)
  let allowed := region.permissions.allows accessType
  set (m.record (.accessAttempted regionCap.spaceId regionCap.regionId accessType allowed timestampNanos))
  Proc.failIf (allowed = false) (.err (.permissionDenied regionCap.regionId accessType region.permissions))

def activateSpace (drawn : AddressSpaceId) (executionId : ExecutionId) (timestampNanos : Nat) :
    Proc AddressSpaceManager MemoryError Unit := do
  let m ← get
  let spaceId ← Proc.okOr (.addressSpaceNotFound drawn) m.executionToSpace[executionId]?
  set ({ m with currentSpace := some spaceId }.record (.spaceActivated spaceId executionId timestampNanos))

/-- The manager after `destroy_address_space`. The kernel ignores the error of an execution without a space,
which leaves the manager as it is. -/
def destroyAddressSpace (m : AddressSpaceManager) (executionId : ExecutionId) (timestampNanos : Nat) :
    AddressSpaceManager :=
  match m.executionToSpace[executionId]? with
  | none => m
  | some spaceId =>
    { m with
      spaces := m.spaces.erase spaceId
      executionToSpace := m.executionToSpace.erase executionId
      spaceCaps := m.spaceCaps.filter fun _ (sid, _) => sid ≠ spaceId
      regionCaps := m.regionCaps.filter fun _ (_, sid, _) => sid ≠ spaceId
      currentSpace := if m.currentSpace = some spaceId then none else m.currentSpace }.record
        (.spaceDestroyed spaceId timestampNanos)

end AddressSpaceManager

end PandaGen.Kernel
