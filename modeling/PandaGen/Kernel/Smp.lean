import PandaGen.Kernel.Scheduler

/-!
# The multi-core scheduler

`sim_kernel/src/smp.rs`. A core is its index; the kernel only names cores that exist. The table of tasks of
the source is written and never read, and is left out.
-/

namespace PandaGen.Kernel

open Lib

structure SmpConfig where
  coreCount : Nat
  quantumTicks : Nat

/-- `SmpConfig { core_count, ..Default::default() }` -/
def SmpConfig.withCores (coreCount : Nat) : SmpConfig := ⟨coreCount, 10⟩

inductive CoreScheduleEvent where
  | taskSelected (coreId : Nat) (taskId : TaskId) (timestampTicks : Nat)
  | taskPreempted (coreId : Nat) (taskId : TaskId) (reason : PreemptionReason) (timestampTicks : Nat)
  | taskExited (coreId : Nat) (taskId : TaskId) (reason : ScheduledExit) (timestampTicks : Nat)

structure CoreState where
  runQueue : List TaskId
  currentTask : Option TaskId
  ticksInQuantum : Nat

namespace CoreState

def new : CoreState := ⟨[], none, 0⟩

def remove (c : CoreState) (taskId : TaskId) : CoreState :=
  { c with
    runQueue := c.runQueue.filter fun id => id != taskId
    currentTask := if c.currentTask = some taskId then none else c.currentTask }

end CoreState

structure MultiCoreScheduler where
  config : SmpConfig
  cores : List CoreState
  nextCore : Nat
  auditLog : List CoreScheduleEvent

namespace MultiCoreScheduler

def new (config : SmpConfig) : MultiCoreScheduler where
  config
  cores := List.replicate config.coreCount .new
  nextCore := 0
  auditLog := []

variable (s : MultiCoreScheduler)

def coreCount : Nat := s.cores.length

def coreCurrentTask (coreId : Nat) : Option TaskId :=
  s.cores[coreId]?.bind CoreState.currentTask

def hasRunnableTasks : Bool :=
  s.cores.any fun core => core.currentTask.isSome || !core.runQueue.isEmpty

def record (event : CoreScheduleEvent) : MultiCoreScheduler :=
  { s with auditLog := s.auditLog ++ [event] }

def enqueue (taskId : TaskId) : Option MultiCoreScheduler := do
  let coreIdx ← checkedMod s.nextCore s.cores.length
  let nextCore ← checkedAdd s.nextCore 1
  some { s with
    nextCore
    cores := s.cores.modify coreIdx fun core => { core with runQueue := core.runQueue ++ [taskId] } }

def dequeueNext (coreId timestampTicks : Nat) : Option TaskId × MultiCoreScheduler :=
  match s.cores[coreId]? with
  | some ⟨taskId :: runQueue, _, _⟩ =>
    (some taskId, { s with cores := s.cores.set coreId ⟨runQueue, some taskId, 0⟩ }.record
      (.taskSelected coreId taskId timestampTicks))
  | _ => (none, s)

def onTickAdvanced (coreId delta : Nat) : MultiCoreScheduler :=
  { s with cores := s.cores.modify coreId fun core =>
    if core.currentTask.isSome then { core with ticksInQuantum := saturatingAdd core.ticksInQuantum delta }
    else core }

def shouldPreempt (coreId : Nat) : Bool :=
  s.cores[coreId]?.any fun core => core.ticksInQuantum ≥ s.config.quantumTicks && core.currentTask.isSome

def preemptCurrent (coreId : Nat) (reason : PreemptionReason) (timestampTicks : Nat) : MultiCoreScheduler :=
  match s.cores[coreId]? with
  | some ⟨runQueue, some taskId, _⟩ =>
    { s with cores := s.cores.set coreId ⟨runQueue ++ [taskId], none, 0⟩ }.record
      (.taskPreempted coreId taskId reason timestampTicks)
  | _ => s

def foundOn (taskId : TaskId) (found : Option Nat) (e : CoreState × Nat) : Option Nat :=
  if e.1.currentTask = some taskId then some e.2
  else if taskId ∈ e.1.runQueue ∧ found.isNone then some e.2
  else found

def exitTaskAny (taskId : TaskId) (reason : ScheduledExit) (timestampTicks : Nat) : MultiCoreScheduler :=
  let s' := { s with cores := s.cores.map (·.remove taskId) }
  match s.cores.zipIdx.foldl (foundOn taskId) none with
  | some coreId => s'.record (.taskExited coreId taskId reason timestampTicks)
  | none => s'

def cancelTaskAny (taskId : TaskId) (timestampTicks : Nat) : MultiCoreScheduler :=
  s.exitTaskAny taskId .resourceExhaustion timestampTicks

end MultiCoreScheduler

structure SmpRuntime where
  scheduler : MultiCoreScheduler
  time : List Nat

namespace SmpRuntime

def new (config : SmpConfig) : SmpRuntime := ⟨.new config, List.replicate config.coreCount 0⟩

def ticks (r : SmpRuntime) (coreId : Nat) : Nat := r.time.getD coreId 0

def advanceCoreTime (r : SmpRuntime) (coreId ticks : Nat) : SmpRuntime where
  scheduler := r.scheduler.onTickAdvanced coreId ticks
  time := r.time.modify coreId (saturatingAdd · ticks)

end SmpRuntime

end PandaGen.Kernel
