import PandaGen.Kernel.AddressSpace
import PandaGen.Kernel.Channel
import PandaGen.Kernel.Smp

/-!
# The simulated kernel

The state of `sim_kernel/src/lib.rs`, how it is set up, and what the kernel does when an identity uses a
resource. The log of policy decisions is written and never read, and is left out. A time or a counter that
overflows panics.
-/

namespace PandaGen.Kernel

open Lib

structure SimulatedKernel where
  timerTicks : Nat
  currentTime : Nat
  nanosPerTick : Nat
  tasks : BTreeMap TaskId TaskInfo
  channels : BTreeMap ChannelId MessageQueue
  channelAccess : BTreeMap ChannelId ChannelAccess
  services : BTreeMap ServiceId ChannelId
  servicePolicies : BTreeMap ServiceId VersionPolicy
  faultInjector : Option FaultInjector
  delayedMessages : List DelayedMessage
  capabilityTable : BTreeMap Nat CapabilityMetadata
  capabilityAudit : List CapabilityAuditEvent
  identityTable : BTreeMap ExecutionId IdentityMetadata
  taskToIdentity : BTreeMap TaskId ExecutionId
  exitNotifications : List ExitNotification
  policyEngine : Option PolicyEngine
  resourceAudit : List ResourceAuditEntry
  cancelledIdentities : BTreeMap ExecutionId String
  currentReceiveTask : Option TaskId
  scheduler : Scheduler
  smp : Option SmpRuntime
  addressSpaceManager : AddressSpaceManager
  channelCapacity : Nat

/-- The orders in which the hash maps of the kernel are iterated, at each tick of the timer. -/
structure HashOrders where
  scheduledTasks : Nat → HashOrder TaskId
  capabilities : Nat → HashOrder Nat
  identities : Nat → HashOrder TaskId

def HashOrders.listed : HashOrders := ⟨fun _ => .listed, fun _ => .listed, fun _ => .listed⟩

namespace SimulatedKernel

/-! ## Setting up -/

def withTickResolution (tickDuration : Nat) : SimulatedKernel where
  timerTicks := 0
  currentTime := 0
  nanosPerTick := tickDuration
  tasks := ∅
  channels := ∅
  channelAccess := ∅
  services := ∅
  servicePolicies := ∅
  faultInjector := none
  delayedMessages := []
  capabilityTable := ∅
  capabilityAudit := []
  identityTable := ∅
  taskToIdentity := ∅
  exitNotifications := []
  policyEngine := none
  resourceAudit := []
  cancelledIdentities := ∅
  currentReceiveTask := none
  scheduler := .new
  smp := none
  addressSpaceManager := .new
  channelCapacity := 64

/-- `Duration::from_micros(1)` -/
def new : SimulatedKernel := withTickResolution 1000

variable (k : SimulatedKernel)

def withChannelCapacity (capacity : Nat) : SimulatedKernel :=
  { k with channelCapacity := max capacity 1 }

def withFaultPlan (plan : FaultPlan) : SimulatedKernel :=
  { k with faultInjector := some (.new plan) }

def withPolicyEngine (engine : PolicyEngine) : SimulatedKernel :=
  { k with policyEngine := some engine }

def withSchedulerConfig (config : SchedulerConfig) : SimulatedKernel :=
  { k with scheduler := .withConfig config }

def enableSmp (coreCount : Nat) : SimulatedKernel :=
  { k with smp := some (.new (.withCores coreCount)) }

/-! ## Resource consumption -/

def recordCapability (event : CapabilityEvent) : SimulatedKernel :=
  { k with capabilityAudit := k.capabilityAudit ++ [⟨k.currentTime, event⟩] }

def recordResource (event : ResourceEvent) : SimulatedKernel :=
  { k with resourceAudit := k.resourceAudit ++ [⟨k.currentTime, event⟩] }

def isIdentityCancelled (executionId : ExecutionId) : Bool :=
  executionId ∈ k.cancelledIdentities

def getTaskIdentity (taskId : TaskId) : Option ExecutionId := k.taskToIdentity[taskId]?

def findTask (order : HashOrder TaskId) (executionId : ExecutionId) : Option TaskId :=
  (order.order k.taskToIdentity.keys).find? fun taskId => k.taskToIdentity[taskId]? = some executionId

def cancelTask (k : SimulatedKernel) (taskId : TaskId) : SimulatedKernel :=
  match k.smp with
  | some smp => { k with smp := some { smp with scheduler := smp.scheduler.cancelTaskAny taskId k.timerTicks } }
  | none => { k with scheduler := k.scheduler.cancelTask taskId }

variable (orders : HashOrders)

def cancelIdentity (executionId : ExecutionId) (reason : String) : SimulatedKernel :=
  let k := { k with cancelledIdentities := k.cancelledIdentities.insert executionId reason }.recordResource
    (.cancelledDueToExhaustion executionId reason)
  match k.findTask (orders.identities k.timerTicks) executionId with
  | some taskId => k.cancelTask taskId
  | none => k

/-- What the `try_consume` methods differ in. -/
structure Consumption where
  resourceType : String
  operation : String
  limit : ResourceBudget → Option Nat
  usage : ResourceUsage → Nat
  amount : Nat
  exceeds : Nat → Nat → Option Bool
  consume : ResourceUsage → ResourceUsage
  event : Nat → Nat → ResourceEvent

def Consumption.exhausted (c : Consumption) (executionId : ExecutionId) (resourceType : String) (limit usage : Nat) :
    KernelError :=
  .resourceBudgetExhausted resourceType limit usage (showExecution executionId) c.operation

def Consumption.passedLimit (c : Consumption) (budget : ResourceBudget) (usage : Nat) : Option (Option Nat) :=
  match c.limit budget with
  | none => some none
  | some limit => do some (if ← c.exceeds usage limit then some limit else none)

def tryConsume (executionId : ExecutionId) (c : Consumption) :
    Proc SimulatedKernel KernelError Unit := do
  let k ← get
  Proc.failIf (k.isIdentityCancelled executionId = true)
    (.err (c.exhausted executionId (c.resourceType ++ " (cancelled)") 0 0))
  match k.identityTable[executionId]? with
  | none => return
  | some identity =>
    match identity.budget with
    | none => return
    | some budget =>
      let before := c.usage identity.usage
      match ← Proc.okOrPanic (c.passedLimit budget before) with
      | some limit =>
        let attempted ← Proc.okOrPanic (checkedAdd before c.amount)
        let event := .budgetExhausted executionId c.resourceType limit attempted c.operation
        set ((k.recordResource event).cancelIdentity orders executionId c.resourceType)
        throw (.err (c.exhausted executionId c.resourceType limit before))
      | none =>
        let usage := c.consume identity.usage
        set ({ k with
          identityTable := k.identityTable.insert executionId { identity with usage } }.recordResource
            (c.event before (c.usage usage)))

def usedUp (usage limit : Nat) : Option Bool := some (usage ≥ limit)

def tryConsumeCpuTicks (executionId : ExecutionId) (amount : Nat) :
    Proc SimulatedKernel KernelError Unit :=
  tryConsume orders executionId {
    resourceType := "CpuTicks"
    operation := "cpu_consumption"
    limit := ResourceBudget.cpuTicks
    usage := ResourceUsage.cpuTicks
    amount
    exceeds := fun usage limit => do some (decide ((← checkedAdd usage amount) > limit))
    consume := fun usage => usage.consumeCpuTicks amount
    event := .cpuConsumed executionId amount }

def tryConsumePipelineStage (executionId : ExecutionId) (stageName : String) :
    Proc SimulatedKernel KernelError Unit :=
  tryConsume orders executionId {
    resourceType := "PipelineStages"
    operation := "pipeline_stage:" ++ stageName
    limit := ResourceBudget.pipelineStages
    usage := ResourceUsage.pipelineStages
    amount := 1
    exceeds := usedUp
    consume := ResourceUsage.consumePipelineStage
    event := .pipelineStageConsumed executionId stageName }

def tryConsumeMessage (taskId : TaskId) (operation : MessageOperation) :
    Proc SimulatedKernel KernelError Unit := do
  match (← get).taskToIdentity[taskId]? with
  | none => return
  | some executionId =>
    tryConsume orders executionId {
      resourceType := "MessageCount"
      operation := operation.debug
      limit := ResourceBudget.messageCount
      usage := ResourceUsage.messageCount
      amount := 1
      exceeds := usedUp
      consume := ResourceUsage.consumeMessage
      event := .messageConsumed executionId operation }

def tryConsumePacket (executionId : ExecutionId) (operation : PacketOperation) :
    Proc SimulatedKernel KernelError Unit :=
  tryConsume orders executionId {
    resourceType := "PacketCount"
    operation := operation.debug
    limit := ResourceBudget.packetCount
    usage := ResourceUsage.packetCount
    amount := 1
    exceeds := usedUp
    consume := ResourceUsage.consumePacket
    event := .packetConsumed executionId operation }

def tryConsumeStorageOp (executionId : ExecutionId) (operation : StorageOperation) :
    Proc SimulatedKernel KernelError Unit :=
  tryConsume orders executionId {
    resourceType := "StorageOps"
    operation := operation.debug
    limit := ResourceBudget.storageOps
    usage := ResourceUsage.storageOps
    amount := 1
    exceeds := usedUp
    consume := ResourceUsage.consumeStorageOp
    event := .storageOpConsumed executionId operation }

end SimulatedKernel

end PandaGen.Kernel
