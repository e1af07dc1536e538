import PandaGen.Kernel.Api
import PandaGen.Kernel.Loader

/-!
# The syscall gate

`sim_kernel/src/syscall_gate.rs`: syscalls of user tasks, their audit log, and how they reach the kernel.
-/

namespace PandaGen.Kernel

open Lib

inductive Syscall where
  | spawnTask (descriptor : TaskDescriptor)
  | createChannel
  | send (channel : ChannelId) (message : MessageEnvelope)
  | recv (channel : ChannelId)
  | sleep (duration : Nat)
  | now
  | yield
  | grant (task : TaskId) (capability : Nat)
  | registerService (serviceId : ServiceId) (channel : ChannelId)
  | lookupService (serviceId : ServiceId)
  | createAddressSpace
  | allocateRegion (spaceCap : AddressSpaceCap) (sizeBytes : Nat) (permissions : MemoryPerms) (backing : MemoryBacking)
  | accessRegion (regionCap : MemoryRegionCap) (accessType : MemoryAccessType)

def Syscall.name : Syscall → String
  | .spawnTask _ => "SpawnTask"
  | .createChannel => "CreateChannel"
  | .send _ _ => "Send"
  | .recv _ => "Recv"
  | .sleep _ => "Sleep"
  | .now => "Now"
  | .yield => "Yield"
  | .grant _ _ => "Grant"
  | .registerService _ _ => "RegisterService"
  | .lookupService _ => "LookupService"
  | .createAddressSpace => "CreateAddressSpace"
  | .allocateRegion _ _ _ _ => "AllocateRegion"
  | .accessRegion _ _ => "AccessRegion"

inductive SyscallResult where
  | ok
  | taskHandle (taskId : TaskId)
  | channelId (channelId : ChannelId)
  | message (message : MessageEnvelope)
  | instant (nanos : Nat)
  | addressSpaceCap (cap : AddressSpaceCap)
  | memoryRegionCap (cap : MemoryRegionCap)
  deriving DecidableEq

inductive SyscallEvent where
  | invoked (caller : ExecutionId) (syscallName : String) (timestampNanos : Nat)
  | completed (caller : ExecutionId) (syscallName : String) (timestampNanos : Nat)
  | rejected (caller : ExecutionId) (syscallName reason : String) (timestampNanos : Nat)
  | bypassAttempt (caller : ExecutionId) (timestampNanos : Nat)

structure SyscallGate where
  auditLog : List SyscallEvent

/-- The trait `MemoryOps`. -/
structure MemoryOps (K : Type) where
  createAddressSpaceOp : ExecutionId → Proc K MemoryError AddressSpaceCap
  allocateRegionOp : AddressSpaceCap → Nat → MemoryPerms → MemoryBacking → ExecutionId →
    Proc K MemoryError MemoryRegionCap
  accessRegionOp : MemoryRegionCap → MemoryAccessType → ExecutionId → Proc K MemoryError Unit

def SimulatedKernel.memoryOps (spaceId : AddressSpaceId) (regionId : MemoryRegionId) : MemoryOps SimulatedKernel where
  createAddressSpaceOp executionId := createAddressSpace spaceId executionId
  allocateRegionOp spaceCap sizeBytes permissions backing caller :=
    SimulatedKernel.allocateRegionOp regionId spaceCap sizeBytes permissions backing caller
  accessRegionOp regionCap accessType caller := accessRegion regionCap accessType caller

namespace SyscallGate

variable {K : Type}

def new : SyscallGate := ⟨[]⟩

def record (gate : SyscallGate) (event : SyscallEvent) : SyscallGate := ⟨gate.auditLog ++ [event]⟩

/-- Runs a method of the kernel between two entries of the audit log, which ends with its result. The text
of an error in it is that of `Debug`. A panic leaves the first entry. -/
def audited {ε : Type} (debug : ε → String) (caller : ExecutionId) (name : String) (timestampNanos : Nat)
    (m : Proc K ε SyscallResult) : Proc (SyscallGate × K) ε SyscallResult :=
  ExceptT.mk fun (gate, kernel) =>
    let gate := gate.record (.invoked caller name timestampNanos)
    match m.exec kernel with
    | (.ok result, kernel) => (.ok result, gate.record (.completed caller name timestampNanos), kernel)
    | (.error (.err error), kernel) =>
      (.error (.err error), gate.record (.rejected caller name (debug error) timestampNanos), kernel)
    | (.error .panic, kernel) => (.error .panic, gate, kernel)

def dispatch (api : KernelApi K) : Syscall → Proc K KernelError SyscallResult
  | .spawnTask descriptor => .taskHandle <$> api.spawnTask descriptor
  | .createChannel => .channelId <$> api.createChannel
  | .send channel message => (fun _ => .ok) <$> api.sendMessage channel message
  | .recv channel => .message <$> api.receiveMessage channel none
  | .sleep duration => (fun _ => .ok) <$> api.sleep duration
  | .now => .instant <$> api.now.mapErr Empty.elim
  | .yield => return .ok
  | .grant task capability => (fun _ => .ok) <$> api.grantCapability task capability
  | .registerService serviceId channel => (fun _ => .ok) <$> api.registerService serviceId channel
  | .lookupService serviceId => .channelId <$> api.lookupService serviceId
  | .createAddressSpace =>
    throw (.err (.insufficientAuthority "CreateAddressSpace requires SimulatedKernel access"))
  | .allocateRegion _ _ _ _ =>
    throw (.err (.insufficientAuthority "AllocateRegion requires SimulatedKernel access"))
  | .accessRegion _ _ => throw (.err (.insufficientAuthority "AccessRegion requires SimulatedKernel access"))

def execute (api : KernelApi K) (debug : KernelError → String) (caller : ExecutionId) (syscall : Syscall)
    (timestampNanos : Nat) : Proc (SyscallGate × K) KernelError SyscallResult :=
  audited debug caller syscall.name timestampNanos (dispatch api syscall)

def dispatchMemory (ops : MemoryOps K) (caller : ExecutionId) : Syscall → Option (Proc K MemoryError SyscallResult)
  | .createAddressSpace => some (.addressSpaceCap <$> ops.createAddressSpaceOp caller)
  | .allocateRegion spaceCap sizeBytes permissions backing =>
    some (.memoryRegionCap <$> ops.allocateRegionOp spaceCap sizeBytes permissions backing caller)
  | .accessRegion regionCap accessType => some ((fun _ => .ok) <$> ops.accessRegionOp regionCap accessType caller)
  | _ => none

/-- Other syscalls return early: their entry in the audit log has no second one. -/
def executeWithMemory (ops : MemoryOps K) (drawn : MemoryRegionId) (caller : ExecutionId) (syscall : Syscall)
    (timestampNanos : Nat) : Proc (SyscallGate × K) MemoryError SyscallResult :=
  match dispatchMemory ops caller syscall with
  | some m => audited MemoryError.debug caller syscall.name timestampNanos m
  | none => do
    modify fun (gate, kernel) => (gate.record (.invoked caller syscall.name timestampNanos), kernel)
    throw (.err (.regionNotFound drawn))

end SyscallGate

end PandaGen.Kernel
