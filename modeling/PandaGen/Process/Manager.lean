import PandaGen.Kernel.Api

/-!
# The process manager

The supervision of services in `services_process_manager/src/manager.rs`. A method changes the manager and the kernel.
-/

namespace PandaGen.Process

open Lib Kernel Proc

inductive RestartPolicy where
  | never
  | always
  | onFailure
  | exponentialBackoff (maxAttempts : Nat)

structure ServiceDescriptor where
  serviceId : ServiceId
  name : String
  restartPolicy : RestartPolicy
  capabilities : List Nat

inductive LifecycleState where
  | starting
  | running
  | stopping
  | stopped
  | failed
  | restarting
  deriving DecidableEq

structure ServiceHandle where
  taskId : TaskId
  state : LifecycleState
  deriving DecidableEq

structure ManagedService where
  descriptor : ServiceDescriptor
  handle : ServiceHandle
  restartAttempts : Nat

structure ProcessManager where
  services : BTreeMap ServiceId ManagedService := ∅
  taskToService : BTreeMap TaskId ServiceId := ∅

inductive ProcessManagerError where
  | alreadyRegistered (serviceId : ServiceId)
  | kernel (text : String)
  deriving DecidableEq

def shouldRestart (service : ManagedService) (reason : ExitReason) : Bool :=
  match service.descriptor.restartPolicy, reason with
  | .never, _ => false
  | .always, _ => true
  | .onFailure, .normal => false
  | .onFailure, _ => true
  | .exponentialBackoff maxAttempts, _ => service.restartAttempts < maxAttempts

def stateAfter : ExitReason → LifecycleState
  | .normal => .stopped
  | .failure _ | .cancelled _ | .timeout => .failed

def ServiceDescriptor.task (descriptor : ServiceDescriptor) : TaskDescriptor :=
  ⟨descriptor.name, descriptor.capabilities⟩

namespace ProcessManager

variable {K : Type}

abbrev Call (K : Type) := Proc (ProcessManager × K) ProcessManagerError

def putService (serviceId : ServiceId) (service : ManagedService) : Call K Unit :=
  modify fun (self, k) => ({ self with services := self.services.insert serviceId service }, k)

def putTask (taskId : TaskId) (serviceId : ServiceId) : Call K Unit :=
  modify fun (self, k) => ({ self with taskToService := self.taskToService.insert taskId serviceId }, k)

/-- `kernel.spawn_task(task_desc)?` -/
def spawnTask (api : KernelApi K) (descriptor : TaskDescriptor) : Call K TaskId :=
  ((api.spawnTask descriptor).mapErr fun e => .kernel e.text).zoom Prod.snd fun k s => (s.1, k)

def startService (api : KernelApi K) (descriptor : ServiceDescriptor) : Call K ServiceHandle := do
  failIf ((← get).1.services.contains descriptor.serviceId) (.err (.alreadyRegistered descriptor.serviceId))
  let taskId ← spawnTask api descriptor.task
  putTask taskId descriptor.serviceId
  putService descriptor.serviceId ⟨descriptor, ⟨taskId, .running⟩, 0⟩
  return ⟨taskId, .running⟩

/-- The service is changed in place: what is written before the spawn stays when the spawn is refused. The source
returns `true`, and the caller reads the new task from the service. -/
def restartService (api : KernelApi K) (serviceId : ServiceId) (service : ManagedService) : Call K TaskId := do
  let service := { service with restartAttempts := min (service.restartAttempts + 1) (2 ^ 32 - 1) }
  putService serviceId { service with handle.state := .restarting }
  let taskId ← spawnTask api service.descriptor.task
  putService serviceId { service with handle := ⟨taskId, .running⟩ }
  return taskId

/-- The body of the loop of `handle_exits`. -/
def handleExit (api : KernelApi K) (notification : ExitNotification) : Call K Unit := do
  let some taskId := notification.taskId | return
  let some serviceId := (← get).1.taskToService[taskId]? | return
  let some service := (← get).1.services[serviceId]? | return
  let service := { service with handle.state := stateAfter notification.reason }
  putService serviceId service
  if shouldRestart service notification.reason then
    putTask (← restartService api serviceId service) serviceId

/-- The notifications are those that `drain_exit_notifications` has taken from the source. -/
def handleExits (api : KernelApi K) (notifications : List ExitNotification) : Call K Unit :=
  notifications.forM (handleExit api)

end ProcessManager

end PandaGen.Process
