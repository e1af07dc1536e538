import PandaGen.Kernel.State

/-!
# Channels, services and memory of the kernel

Sending and receiving, access lists, the service registry and memory regions in `sim_kernel/src/lib.rs`.
-/

namespace PandaGen.Kernel.SimulatedKernel

open Lib

/-! ## Access lists -/

variable (k : SimulatedKernel)

def grantChannelAccess (channel : ChannelId) (taskId : TaskId) (mode : ChannelAccessMode) : SimulatedKernel :=
  let access := k.channelAccess[channel]?.getD .empty
  { k with channelAccess := k.channelAccess.insert channel (access.add taskId mode) }

def revokeChannelAccess (channel : ChannelId) (taskId : TaskId) : SimulatedKernel :=
  match k.channelAccess[channel]? with
  | some access =>
    let access := access.remove taskId
    if access.isEmpty then { k with channelAccess := k.channelAccess.erase channel }
    else { k with channelAccess := k.channelAccess.insert channel access }
  | none => k

def maySend (channel : ChannelId) (taskId : TaskId) : Bool :=
  k.channelAccess[channel]?.all fun access => access.allowsSend taskId

def mayReceive (channel : ChannelId) (taskId : TaskId) : Bool :=
  k.channelAccess[channel]?.all fun access => access.allowsReceive taskId

/-! ## Channels -/

def createChannel (channelId : ChannelId) : Proc SimulatedKernel KernelError ChannelId := do
  modify fun k => { k with channels := k.channels.insert channelId (.withCapacity k.channelCapacity) }
  return channelId

def setReceiveContext (taskId : TaskId) : SimulatedKernel :=
  { k with currentReceiveTask := some taskId }

def clearReceiveContext : SimulatedKernel := { k with currentReceiveTask := none }

def checkSchema (message : MessageEnvelope) : Except KernelError Unit :=
  match k.servicePolicies[message.destination]? with
  | none => .ok ()
  | some policy =>
    match policy.checkCompatibility message.schemaVersion with
    | .compatible => .ok ()
    | .upgradeRequired => .error (.sendFailed
        (SchemaMismatchError.upgradeRequired message.destination policy.minVersion message.schemaVersion).text)
    | .unsupported => .error (.sendFailed
        (SchemaMismatchError.unsupported message.destination (policy.minVersion, policy.current)
          message.schemaVersion).text)

inductive Passage where
  | queued
  | dropped
  | delayed (duration : Nat)

def injectFaults (channel : ChannelId) (message : MessageEnvelope) : Proc SimulatedKernel KernelError Passage := do
  let k ← get
  match k.faultInjector with
  | none => return .queued
  | some injector =>
    Proc.failIf (injector.crashOnSend = true) (.err (.sendFailed "Task crashed on send"))
    let (drop, injector) := injector.shouldDropMessage channel message
    set { k with faultInjector := some injector }
    if drop then return .dropped
    let (delay, injector) := injector.getMessageDelay
    set { k with faultInjector := some injector }
    return delay.elim .queued .delayed

def enqueueMessage (channel : ChannelId) (message : MessageEnvelope) : Proc SimulatedKernel KernelError Unit := do
  let k ← get
  let queue ← Proc.okOr (.channelError "Channel not found") k.channels[channel]?
  let queue ← Proc.okOr (.sendFailed "Channel queue full") (queue.push message)
  set { k with channels := k.channels.insert channel queue }
  match k.faultInjector with
  | none => return
  | some injector =>
    let messages ← Proc.okOrPanic (injector.applyReordering queue.messages)
    set { k with channels := k.channels.insert channel { queue with messages } }

def chargeSource (orders : HashOrders) (message : MessageEnvelope) : Proc SimulatedKernel KernelError Unit :=
  match message.source with
  | some sourceTask => tryConsumeMessage orders sourceTask .send
  | none => pure ()

def checkSend (channel : ChannelId) (message : MessageEnvelope) : Except KernelError Unit :=
  match message.source.filter fun sourceTask => !k.maySend channel sourceTask with
  | some sourceTask => .error (.sendFailed ("Channel send denied for task " ++ showTask sourceTask))
  | none => k.checkSchema message

def postMessage (channel : ChannelId) (message : MessageEnvelope) : Proc SimulatedKernel KernelError Unit := do
  match ← injectFaults channel message with
  | .dropped => return
  | .delayed duration =>
    let k ← get
    let deliverAt ← Proc.okOrPanic (checkedAdd k.currentTime duration)
    let delayed : DelayedMessage := ⟨channel, message, deliverAt⟩
    set { k with delayedMessages := k.delayedMessages ++ [delayed] }
  | .queued => enqueueMessage channel message

def sendMessage (orders : HashOrders) (channel : ChannelId) (message : MessageEnvelope) :
    Proc SimulatedKernel KernelError Unit := do
  Proc.ofExcept ((← get).checkSend channel message)
  chargeSource orders message
  postMessage channel message

def chargeReceiver (orders : HashOrders) : Proc SimulatedKernel KernelError Unit := do
  match (← get).currentReceiveTask with
  | some taskId => tryConsumeMessage orders taskId .receive
  | none => return

def dequeueMessage (channel : ChannelId) : Proc SimulatedKernel KernelError MessageEnvelope := do
  let k ← get
  Proc.failIf (k.faultInjector.any FaultInjector.crashOnRecv = true) (.err (.receiveFailed "Task crashed on recv"))
  let queue ← Proc.okOr (.channelError "Channel not found") k.channels[channel]?
  let (message, queue) ← Proc.okOr .timeout queue.pop
  let faultInjector ← Proc.okOrPanic (k.faultInjector.mapM FaultInjector.recordMessageProcessed)
  set { k with channels := k.channels.insert channel queue, faultInjector }
  return message

def checkReceive (channel : ChannelId) : Except KernelError Unit :=
  match k.currentReceiveTask.filter fun taskId => !k.mayReceive channel taskId with
  | some taskId => .error (.receiveFailed ("Channel receive denied for task " ++ showTask taskId))
  | none => .ok ()

def receiveMessage (orders : HashOrders) (channel : ChannelId) : Proc SimulatedKernel KernelError MessageEnvelope := do
  Proc.ofExcept ((← get).checkReceive channel)
  chargeReceiver orders
  dequeueMessage channel

/-! ## Services -/

def registerService (serviceId : ServiceId) (channel : ChannelId) : Proc SimulatedKernel KernelError Unit := do
  let k ← get
  Proc.failIf (serviceId ∈ k.services) (.err (.serviceAlreadyRegistered (showService serviceId)))
  set { k with services := k.services.insert serviceId channel }

def setServiceSchemaPolicy (serviceId : ServiceId) (policy : VersionPolicy) : SimulatedKernel :=
  { k with servicePolicies := k.servicePolicies.insert serviceId policy }

def registerServiceWithSchema (serviceId : ServiceId) (channel : ChannelId) (policy : VersionPolicy) :
    Proc SimulatedKernel KernelError Unit := do
  registerService serviceId channel
  modify fun k => k.setServiceSchemaPolicy serviceId policy

def lookupService (serviceId : ServiceId) : Except KernelError ChannelId :=
  match k.services[serviceId]? with
  | some channel => .ok channel
  | none => .error (.serviceNotFound (showService serviceId))

/-! ## Memory -/

def onAddressSpaces {α : Type} (m : Proc AddressSpaceManager MemoryError α) : Proc SimulatedKernel MemoryError α :=
  m.zoom SimulatedKernel.addressSpaceManager fun addressSpaceManager k => { k with addressSpaceManager }

def createAddressSpace (spaceId : AddressSpaceId) (executionId : ExecutionId) :
    Proc SimulatedKernel MemoryError AddressSpaceCap := do
  let k ← get
  let (cap, addressSpaceManager) ←
    Proc.okOrPanic (k.addressSpaceManager.createAddressSpace spaceId executionId k.currentTime)
  set { k with addressSpaceManager }
  return cap

def memoryUnits (sizeBytes : Nat) : Nat := (sizeBytes + 4095) / 4096

def chargeMemory (executionId : ExecutionId) (sizeBytes : Nat) : Proc SimulatedKernel MemoryError Unit := do
  let k ← get
  match k.identityTable[executionId]? with
  | none => return
  | some identity =>
    match identity.budget.bind ResourceBudget.memoryUnits with
    | none => return
    | some limit =>
      let unitsNeeded := memoryUnits sizeBytes
      let available := limit - identity.usage.memoryUnits
      Proc.failIf (unitsNeeded > available) (.err (.budgetExhausted unitsNeeded available))
      let usage := identity.usage.consumeMemoryUnits unitsNeeded
      set { k with identityTable := k.identityTable.insert executionId { identity with usage } }

def allocateRegion (regionId : MemoryRegionId) (spaceCap : AddressSpaceCap) (sizeBytes : Nat)
    (permissions : MemoryPerms) (backing : MemoryBacking) (callerExecutionId : ExecutionId) :
    Proc SimulatedKernel MemoryError MemoryRegionCap := do
  Proc.failIf (sizeBytes = 0) (.err (.invalidRegionSize 0))
  chargeMemory callerExecutionId sizeBytes
  let k ← get
  onAddressSpaces (AddressSpaceManager.allocateRegion spaceCap ⟨regionId, sizeBytes, permissions, backing⟩
    callerExecutionId k.currentTime)

def chargeMemoryOp (executionId : ExecutionId) (sizeBytes : Nat) : Proc SimulatedKernel MemoryError Unit := do
  let k ← get
  match k.identityTable[executionId]? with
  | none => return
  | some identity =>
    match identity.budget.bind ResourceBudget.memoryUnits with
    | none => return
    | some limit =>
      let unitsNeeded := memoryUnits sizeBytes
      let currentUsage := identity.usage.memoryUnits
      let attempted ← Proc.okOrPanic (checkedAdd currentUsage unitsNeeded)
      if attempted > limit then
        set (k.recordResource (.budgetExhausted executionId "MemoryUnits" limit attempted "allocate_region"))
        throw (.err (.budgetExhausted unitsNeeded (limit - currentUsage)))
      else
        let usage := identity.usage.consumeMemoryUnits unitsNeeded
        set { k with identityTable := k.identityTable.insert executionId { identity with usage } }

def allocateRegionOp (regionId : MemoryRegionId) (spaceCap : AddressSpaceCap) (sizeBytes : Nat)
    (permissions : MemoryPerms) (backing : MemoryBacking) (callerExecutionId : ExecutionId) :
    Proc SimulatedKernel MemoryError MemoryRegionCap := do
  chargeMemoryOp callerExecutionId sizeBytes
  let k ← get
  onAddressSpaces (AddressSpaceManager.allocateRegion spaceCap ⟨regionId, sizeBytes, permissions, backing⟩
    callerExecutionId k.currentTime)

def accessRegion (regionCap : MemoryRegionCap) (accessType : MemoryAccessType) (callerExecutionId : ExecutionId) :
    Proc SimulatedKernel MemoryError Unit := do
  let k ← get
  onAddressSpaces (AddressSpaceManager.accessRegion regionCap accessType callerExecutionId k.currentTime)

def activateAddressSpace (drawn : AddressSpaceId) (executionId : ExecutionId) :
    Proc SimulatedKernel MemoryError Unit := do
  let k ← get
  onAddressSpaces (AddressSpaceManager.activateSpace drawn executionId k.currentTime)

end PandaGen.Kernel.SimulatedKernel
