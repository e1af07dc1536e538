import PandaGen.Kernel.Messaging
import PandaGen.Kernel.RunLoop

/-!
# Sessions with the kernel

A session makes any calls of the kernel in any order. An identifier that a spawn draws is new: `Uuid::new_v4`
never returns one twice.
-/

namespace PandaGen.Kernel

open Lib

structure Setup where
  tickDuration : Nat
  schedulerConfig : SchedulerConfig
  channelCapacity : Nat
  faultPlan : Option FaultPlan
  policyEngine : Option PolicyEngine
  coreCount : Option Nat

namespace Setup

def default : Setup := ⟨1000, .default, 64, none, none, none⟩

def boot (c : Setup) : SimulatedKernel :=
  let k := (SimulatedKernel.withTickResolution c.tickDuration).withSchedulerConfig c.schedulerConfig
  let k := k.withChannelCapacity c.channelCapacity
  let k := c.faultPlan.elim k k.withFaultPlan
  let k := c.policyEngine.elim k k.withPolicyEngine
  c.coreCount.elim k k.enableSmp

end Setup

structure Session where
  kernel : SimulatedKernel
  drawnTasks : List TaskId
  drawnExecutions : List ExecutionId

namespace Session

open SimulatedKernel

def start (c : Setup) : Session := ⟨c.boot, [], []⟩

inductive Call where
  | spawnTask (ids : SpawnIds) (descriptor : TaskDescriptor)
  | spawnTaskWithIdentity (ids : SpawnIds) (descriptor : TaskDescriptor) (kind : IdentityKind)
      (trustDomain : TrustDomain) (parentId creatorId : Option ExecutionId)
  | terminateTask (orders : HashOrders) (taskId : TaskId) (reason : ExitReason)
  | createIdentity (identity : IdentityMetadata)
  | updateIdentity (executionId : ExecutionId) (f : IdentityMetadata → IdentityMetadata)
  | clearExitNotifications
  | advanceTime (orders : HashOrders) (duration : Nat)
  | sleep (orders : HashOrders) (duration : Nat)
  | yieldNow
  | runForTicks (orders : HashOrders) (fuel ticks : Nat)
  | runForSteps (orders : HashOrders) (steps : Nat)
  | runUntilIdle (orders : HashOrders)
  | tryConsumeCpuTicks (orders : HashOrders) (executionId : ExecutionId) (amount : Nat)
  | tryConsumePipelineStage (orders : HashOrders) (executionId : ExecutionId) (stageName : String)
  | tryConsumePacket (orders : HashOrders) (executionId : ExecutionId) (operation : PacketOperation)
  | tryConsumeStorageOp (orders : HashOrders) (executionId : ExecutionId) (operation : StorageOperation)
  | grantCapability (task : TaskId) (capId : Nat)
  | grantCapabilityWithLease (task : TaskId) (capId lease : Nat)
  | delegateCapability (capId : Nat) (fromTask toTask : TaskId)
  | dropCapability (capId : Nat) (owner : TaskId)
  | revokeCapability (capId : Nat) (owner : TaskId) (reason : String)
  | grantChannelAccess (channel : ChannelId) (taskId : TaskId) (mode : ChannelAccessMode)
  | revokeChannelAccess (channel : ChannelId) (taskId : TaskId)
  | createChannel (channelId : ChannelId)
  | setReceiveContext (taskId : TaskId)
  | clearReceiveContext
  | sendMessage (orders : HashOrders) (channel : ChannelId) (message : MessageEnvelope)
  | receiveMessage (orders : HashOrders) (channel : ChannelId)
  | registerService (serviceId : ServiceId) (channel : ChannelId)
  | registerServiceWithSchema (serviceId : ServiceId) (channel : ChannelId) (policy : VersionPolicy)
  | setServiceSchemaPolicy (serviceId : ServiceId) (policy : VersionPolicy)
  | createAddressSpace (spaceId : AddressSpaceId) (executionId : ExecutionId)
  | allocateRegion (regionId : MemoryRegionId) (spaceCap : AddressSpaceCap) (sizeBytes : Nat)
      (permissions : MemoryPerms) (backing : MemoryBacking) (callerExecutionId : ExecutionId)
  | allocateRegionOp (regionId : MemoryRegionId) (spaceCap : AddressSpaceCap) (sizeBytes : Nat)
      (permissions : MemoryPerms) (backing : MemoryBacking) (callerExecutionId : ExecutionId)
  | accessRegion (regionCap : MemoryRegionCap) (accessType : MemoryAccessType) (callerExecutionId : ExecutionId)
  | activateAddressSpace (drawn : AddressSpaceId) (executionId : ExecutionId)

inductive Answer where
  | done
  | result (r : Except KernelError Unit)
  | spawned (r : Except KernelError TaskId)
  | spawnedWithIdentity (r : Except KernelError (TaskId × ExecutionId))
  | channel (r : Except KernelError ChannelId)
  | message (r : Except KernelError MessageEnvelope)
  | count (n : Nat)
  | space (r : Except MemoryError AddressSpaceCap)
  | region (r : Except MemoryError MemoryRegionCap)
  | access (r : Except MemoryError Unit)
  deriving DecidableEq

abbrev Trace := List (Call × Answer)

def Answer.isErr : Answer → Bool
  | .done => false
  | .result r => !r.isOk
  | .spawned r => !r.isOk
  | .spawnedWithIdentity r => !r.isOk
  | .channel r => !r.isOk
  | .message r => !r.isOk
  | .count _ => false
  | .space r => !r.isOk
  | .region r => !r.isOk
  | .access r => !r.isOk

def answer {ε α : Type} (k : SimulatedKernel) (m : Proc SimulatedKernel ε α) (f : Except ε α → Answer) :
    Option (Answer × SimulatedKernel) :=
  (m.call k).map fun (r, k) => (f r, k)

def perform (k : SimulatedKernel) : Call → Option (Answer × SimulatedKernel)
  | .spawnTask ids descriptor => answer k (SimulatedKernel.spawnTask ids descriptor) .spawned
  | .spawnTaskWithIdentity ids descriptor kind trustDomain parentId creatorId =>
    answer k (SimulatedKernel.spawnTaskWithIdentity ids descriptor kind trustDomain parentId creatorId)
      .spawnedWithIdentity
  | .terminateTask orders taskId reason => some (.done, k.terminateTaskWithReason orders taskId reason)
  | .createIdentity identity =>
    some (.done, { k with identityTable := k.identityTable.insert identity.executionId identity })
  | .updateIdentity executionId f => some (.done, { k with identityTable := k.identityTable.modify executionId f })
  | .clearExitNotifications => some (.done, { k with exitNotifications := [] })
  | .advanceTime orders duration => (k.advanceTime orders duration).map fun k => (.done, k)
  | .sleep orders duration => (k.sleep orders duration).map fun k => (.done, k)
  | .yieldNow => some (.done, k.yieldNow)
  | .runForTicks orders fuel ticks => (k.runForTicks orders fuel ticks).map fun (n, k) => (.count n, k)
  | .runForSteps orders steps => (k.runForSteps orders steps).map fun (n, k) => (.count n, k)
  | .runUntilIdle orders => (k.runUntilIdle orders).map fun k => (.done, k)
  | .tryConsumeCpuTicks orders executionId amount =>
    answer k (SimulatedKernel.tryConsumeCpuTicks orders executionId amount) .result
  | .tryConsumePipelineStage orders executionId stageName =>
    answer k (SimulatedKernel.tryConsumePipelineStage orders executionId stageName) .result
  | .tryConsumePacket orders executionId operation =>
    answer k (SimulatedKernel.tryConsumePacket orders executionId operation) .result
  | .tryConsumeStorageOp orders executionId operation =>
    answer k (SimulatedKernel.tryConsumeStorageOp orders executionId operation) .result
  | .grantCapability task capId => answer k (SimulatedKernel.grantCapability task capId) .result
  | .grantCapabilityWithLease task capId lease =>
    answer k (SimulatedKernel.grantCapabilityWithLease task capId lease) .result
  | .delegateCapability capId fromTask toTask =>
    answer k (SimulatedKernel.delegateCapability capId fromTask toTask) .result
  | .dropCapability capId owner => answer k (SimulatedKernel.dropCapability capId owner) .result
  | .revokeCapability capId owner reason => answer k (SimulatedKernel.revokeCapability capId owner reason) .result
  | .grantChannelAccess channel taskId mode => some (.done, k.grantChannelAccess channel taskId mode)
  | .revokeChannelAccess channel taskId => some (.done, k.revokeChannelAccess channel taskId)
  | .createChannel channelId => answer k (SimulatedKernel.createChannel channelId) .channel
  | .setReceiveContext taskId => some (.done, k.setReceiveContext taskId)
  | .clearReceiveContext => some (.done, k.clearReceiveContext)
  | .sendMessage orders channel message => answer k (SimulatedKernel.sendMessage orders channel message) .result
  | .receiveMessage orders channel => answer k (SimulatedKernel.receiveMessage orders channel) .message
  | .registerService serviceId channel => answer k (SimulatedKernel.registerService serviceId channel) .result
  | .registerServiceWithSchema serviceId channel policy =>
    answer k (SimulatedKernel.registerServiceWithSchema serviceId channel policy) .result
  | .setServiceSchemaPolicy serviceId policy => some (.done, k.setServiceSchemaPolicy serviceId policy)
  | .createAddressSpace spaceId executionId =>
    answer k (SimulatedKernel.createAddressSpace spaceId executionId) .space
  | .allocateRegion regionId spaceCap sizeBytes permissions backing callerExecutionId =>
    answer k (SimulatedKernel.allocateRegion regionId spaceCap sizeBytes permissions backing callerExecutionId)
      .region
  | .allocateRegionOp regionId spaceCap sizeBytes permissions backing callerExecutionId =>
    answer k (SimulatedKernel.allocateRegionOp regionId spaceCap sizeBytes permissions backing callerExecutionId)
      .region
  | .accessRegion regionCap accessType callerExecutionId =>
    answer k (SimulatedKernel.accessRegion regionCap accessType callerExecutionId) .access
  | .activateAddressSpace drawn executionId =>
    answer k (SimulatedKernel.activateAddressSpace drawn executionId) .access

def Call.drawn : Call → Option SpawnIds
  | .spawnTask ids _ => some ids
  | .spawnTaskWithIdentity ids _ _ _ _ _ => some ids
  | _ => none

def Call.executions : Call → List ExecutionId
  | .createIdentity identity => [identity.executionId]
  | call => (call.drawn.map SpawnIds.execution).toList

def Call.spawn (n : Nat) : Call := .spawnTask ⟨⟨n⟩, ⟨n⟩, ⟨n⟩⟩ ⟨"task", []⟩

def machine : Machine Session Call Answer where
  step w call :=
    if ∀ ids ∈ call.drawn, ids.task ∉ w.drawnTasks ∧ ids.execution ∉ w.drawnExecutions then do
      let (answer, kernel) ← perform w.kernel call
      let drawnTasks := (call.drawn.map SpawnIds.task).toList ++ w.drawnTasks
      some (answer, ⟨kernel, drawnTasks, call.executions ++ w.drawnExecutions⟩)
    else none

end Session

end PandaGen.Kernel
