import PandaGen.Kernel.Capability

/-!
# Tasks and time

Spawning and ending tasks, and the passing of time, in `sim_kernel/src/lib.rs`.
-/

namespace PandaGen.Kernel.SimulatedKernel

open Lib

/-! ## Spawning -/

structure SpawnIds where
  task : TaskId
  execution : ExecutionId
  space : AddressSpaceId

variable (k : SimulatedKernel)

def enqueueTask (taskId : TaskId) : Option SimulatedKernel :=
  match k.smp with
  | some smp => do some { k with smp := some { smp with scheduler := ← smp.scheduler.enqueue taskId } }
  | none => some { k with scheduler := k.scheduler.enqueue taskId }

def admitTask (ids : SpawnIds) (descriptor : TaskDescriptor) (identity : IdentityMetadata) :
    Option SimulatedKernel := do
  let k := { k with
    identityTable := k.identityTable.insert ids.execution identity
    taskToIdentity := k.taskToIdentity.insert ids.task ids.execution
    tasks := k.tasks.insert ids.task ⟨descriptor, ids.execution⟩ }
  let k ← k.enqueueTask ids.task
  let (_, addressSpaceManager) ← k.addressSpaceManager.createAddressSpace ids.space ids.execution k.currentTime
  some { k with addressSpaceManager }

def spawnTask (ids : SpawnIds) (descriptor : TaskDescriptor) : Proc SimulatedKernel KernelError TaskId := do
  let k ← get
  let identity := { IdentityMetadata.new ids.execution .component .user descriptor.name k.currentTime with
    taskId := some ids.task }
  set (← Proc.okOrPanic (k.admitTask ids descriptor identity))
  return ids.task

def childIdentity (ids : SpawnIds) (descriptor : TaskDescriptor) (kind : IdentityKind)
    (trustDomain : TrustDomain) (parentId creatorId : Option ExecutionId) : IdentityMetadata :=
  { IdentityMetadata.new ids.execution kind trustDomain descriptor.name k.currentTime with
    taskId := some ids.task
    parentId
    creatorId }

/-- The child has no creator yet when the budgets are compared, which the comparison does not read. -/
def checkInheritance (identity : IdentityMetadata) : Except KernelError Unit :=
  match identity.parentId.bind fun parent => k.identityTable[parent]? with
  | some parentIdentity =>
    if identity.budgetInheritsFrom parentIdentity then .ok ()
    else .error (.insufficientAuthority "Budget inheritance violation: child budget exceeds parent")
  | none => .ok ()

def checkSpawnPolicy (identity : IdentityMetadata) : Except KernelError Unit :=
  match identity.creatorId.bind fun creator => k.identityTable[creator]? with
  | some creatorIdentity =>
    match k.evaluatePolicy .onSpawn (.forSpawn creatorIdentity identity) with
    | .allow _ => .ok ()
    | .deny reason => .error (.insufficientAuthority ("Policy denied spawn: " ++ reason))
    | .require action => .error (.insufficientAuthority ("Policy requires action before spawn: " ++ action))
  | none => .ok ()

def spawnTaskWithIdentity (ids : SpawnIds) (descriptor : TaskDescriptor) (kind : IdentityKind)
    (trustDomain : TrustDomain) (parentId creatorId : Option ExecutionId) :
    Proc SimulatedKernel KernelError (TaskId × ExecutionId) := do
  let k ← get
  let identity := k.childIdentity ids descriptor kind trustDomain parentId creatorId
  Proc.ofExcept (k.checkInheritance identity)
  Proc.ofExcept (k.checkSpawnPolicy identity)
  set (← Proc.okOrPanic (k.admitTask ids descriptor identity))
  return (ids.task, ids.execution)

/-! ## Termination -/

def scheduledExit : ExitReason → ScheduledExit
  | .normal => .normal
  | .failure _ => .failed
  | .cancelled _ => .failed
  | .timeout => .failed

def exitTask (k : SimulatedKernel) (taskId : TaskId) (reason : ExitReason) : SimulatedKernel :=
  match k.smp with
  | some smp =>
    let scheduler := smp.scheduler.exitTaskAny taskId (scheduledExit reason) k.timerTicks
    { k with smp := some { smp with scheduler } }
  | none => { k with scheduler := k.scheduler.exitTask taskId }

def releaseIdentity (taskId : TaskId) (reason : ExitReason) : SimulatedKernel :=
  match k.taskToIdentity[taskId]? with
  | some executionId =>
    { k with
      exitNotifications := k.exitNotifications ++ [⟨executionId, some taskId, reason, k.currentTime⟩]
      addressSpaceManager := k.addressSpaceManager.destroyAddressSpace executionId k.currentTime
      taskToIdentity := k.taskToIdentity.erase taskId }
  | none => k

variable (orders : HashOrders)

def terminateTaskWithReason (taskId : TaskId) (reason : ExitReason) : SimulatedKernel :=
  let k := k.releaseIdentity taskId reason
  let k := { k with tasks := k.tasks.erase taskId }
  (k.invalidateTaskCapabilities orders taskId).exitTask taskId reason

/-! ## Time -/

def syncTimeFromTimer : Option SimulatedKernel := do
  let nanos ← checkedMul k.timerTicks k.nanosPerTick
  some ({ k with currentTime := nanos }.expireCapabilityLeases orders)

def deliver (now : Nat) (acc : BTreeMap ChannelId MessageQueue × List DelayedMessage) (delayed : DelayedMessage) :
    BTreeMap ChannelId MessageQueue × List DelayedMessage :=
  if delayed.deliverAt > now then (acc.1, acc.2 ++ [delayed])
  else
    match acc.1[delayed.channel]? with
    | some queue =>
      if queue.remainingCapacity = 0 then (acc.1, acc.2 ++ [delayed])
      else
        match queue.push delayed.message with
        | some queue => (acc.1.insert delayed.channel queue, acc.2)
        | none => acc
    | none => acc

def processDelayedMessages : SimulatedKernel :=
  let (channels, delayedMessages) := k.delayedMessages.foldl (deliver k.currentTime) (k.channels, [])
  { k with channels, delayedMessages }

def advanceTime (duration : Nat) : Option SimulatedKernel := do
  let ticks ← checkedDiv duration k.nanosPerTick
  let timerTicks ← checkedAdd k.timerTicks ticks
  let k ← ({ k with timerTicks } : SimulatedKernel).syncTimeFromTimer orders
  let k := k.processDelayedMessages
  some { k with scheduler := ← k.scheduler.onTickAdvanced (orders.scheduledTasks k.timerTicks) ticks }

def blockCurrent (wakeTick : Nat) : SimulatedKernel :=
  match k.scheduler.currentTask with
  | some taskId => { k with scheduler := k.scheduler.blockTask taskId wakeTick }
  | none => k

def sleep (duration : Nat) : Option SimulatedKernel := do
  let ticks ← checkedDiv duration k.nanosPerTick
  let wakeTick ← checkedAdd k.timerTicks ticks
  (k.blockCurrent wakeTick).advanceTime orders duration

def yieldNow : SimulatedKernel := { k with scheduler := k.scheduler.preemptCurrent.2 }

def isIdle : Bool :=
  k.channels.toList.all (fun e => e.2.messages.isEmpty) && k.delayedMessages.isEmpty

def runUntilIdleLoop (orders : HashOrders) : Nat → SimulatedKernel → Option SimulatedKernel
  | 0, k => some k
  | n + 1, k => if k.isIdle then some k else do runUntilIdleLoop orders n (← k.advanceTime orders 10000000)

def runUntilIdle : Option SimulatedKernel :=
  runUntilIdleLoop orders 1000 k

end PandaGen.Kernel.SimulatedKernel
