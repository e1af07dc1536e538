import PandaGen.Kernel.AddressSpace
import PandaGen.Lib.Machine
import Mathlib.Logic.Function.Basic

/-!
# Sessions with the address space manager

A session makes any calls of the manager in any order. Identifiers of spaces and regions are new when they are
drawn. What was issued, and which spaces are gone, is read off the calls and their answers alone.
-/

namespace PandaGen.Kernel

open Lib

inductive MemoryCall where
  | create (spaceId : AddressSpaceId) (executionId : ExecutionId) (timestampNanos : Nat)
  | allocate (spaceCap : AddressSpaceCap) (region : MemoryRegion) (caller : ExecutionId) (timestampNanos : Nat)
  | access (regionCap : MemoryRegionCap) (accessType : MemoryAccessType) (caller : ExecutionId) (timestampNanos : Nat)
  | activate (drawn : AddressSpaceId) (executionId : ExecutionId) (timestampNanos : Nat)
  | destroy (executionId : ExecutionId) (timestampNanos : Nat)
  deriving DecidableEq

inductive MemoryAnswer where
  | space (cap : AddressSpaceCap)
  | region (r : Except MemoryError MemoryRegionCap)
  | checked (r : Except MemoryError Unit)
  | destroyed
  deriving DecidableEq

abbrev MemoryEvent := MemoryCall × MemoryAnswer

namespace AddressSpaceManager

def perform (m : AddressSpaceManager) : MemoryCall → Option (MemoryAnswer × AddressSpaceManager)
  | .create spaceId executionId now =>
    (m.createAddressSpace spaceId executionId now).map fun (cap, m) => (.space cap, m)
  | .allocate spaceCap region caller now =>
    ((allocateRegion spaceCap region caller now).call m).map fun (r, m) => (.region r, m)
  | .access regionCap accessType caller now =>
    ((accessRegion regionCap accessType caller now).call m).map fun (r, m) => (.checked r, m)
  | .activate drawn executionId now =>
    ((activateSpace drawn executionId now).call m).map fun (r, m) => (.checked r, m)
  | .destroy executionId now => some (.destroyed, m.destroyAddressSpace executionId now)

def machine : Machine AddressSpaceManager MemoryCall MemoryAnswer := ⟨perform⟩

def loggedSpaces (log : List AddressSpaceEvent) : List AddressSpaceId :=
  log.filterMap fun
    | .spaceCreated spaceId _ _ => some spaceId
    | _ => none

def loggedRegions (log : List AddressSpaceEvent) : List MemoryRegionId :=
  log.filterMap fun
    | .regionAllocated _ regionId _ _ _ => some regionId
    | _ => none

def Fresh (m : AddressSpaceManager) : MemoryCall → Prop
  | .create spaceId _ _ => spaceId ∉ loggedSpaces m.auditLog
  | .allocate _ region _ _ => region.regionId ∉ loggedRegions m.auditLog
  | _ => True

instance (m : AddressSpaceManager) (call : MemoryCall) : Decidable (m.Fresh call) := by
  cases call <;> unfold Fresh <;> infer_instance

end AddressSpaceManager

/-! ## What the calls say -/

def MemoryEvent.issued : MemoryEvent → List (AddressSpaceCap × ExecutionId)
  | (.create _ executionId _, .space cap) => [(cap, executionId)]
  | _ => []

def MemoryEvent.allocated : MemoryEvent → List (MemoryRegionCap × MemoryRegion × ExecutionId)
  | (.allocate _ region caller _, .region (.ok cap)) => [(cap, region, caller)]
  | _ => []

/-- The capabilities that were answered, with their holders, the spaces of the executions and those destroyed. -/
structure MemoryHistory where
  issued : List (AddressSpaceCap × ExecutionId)
  allocated : List (MemoryRegionCap × MemoryRegion × ExecutionId)
  current : ExecutionId → Option AddressSpaceId
  destroyed : List AddressSpaceId

namespace MemoryHistory

def empty : MemoryHistory := ⟨[], [], fun _ => none, []⟩

variable (h : MemoryHistory)

/-- The space an execution has after an event. One that is created replaces the one before, which is not
destroyed by that. -/
def currentAfter : MemoryEvent → ExecutionId → Option AddressSpaceId
  | (.create _ executionId _, .space cap) => Function.update h.current executionId (some cap.spaceId)
  | (.destroy executionId _, .destroyed) => Function.update h.current executionId none
  | _ => h.current

def destroyedBy : MemoryEvent → List AddressSpaceId
  | (.destroy executionId _, .destroyed) => (h.current executionId).toList
  | _ => []

def after (event : MemoryEvent) : MemoryHistory where
  issued := h.issued ++ event.issued
  allocated := h.allocated ++ event.allocated
  current := h.currentAfter event
  destroyed := h.destroyed ++ h.destroyedBy event

def of (tr : List MemoryEvent) : MemoryHistory := tr.foldl after empty

def created : List AddressSpaceId := h.issued.map fun (cap, _) => cap.spaceId

def regionsOf (spaceId : AddressSpaceId) : List MemoryRegion :=
  (h.allocated.filter fun (cap, _) => cap.spaceId = spaceId).map fun (_, region, _) => region

def regionIds : List MemoryRegionId := h.allocated.map fun (_, region, _) => region.regionId

end MemoryHistory

end PandaGen.Kernel
