import PandaGen.Kernel.Tasks

/-!
# The run loops

`run_for_ticks` and `run_for_steps` of `sim_kernel/src/lib.rs`, on one core and on several. A loop of the
source that need not end takes a bound on its rounds as an input and is `none` where the bound is reached: with
a quantum of zero ticks, `run_for_ticks` does not return.
-/

namespace PandaGen.Kernel

open Lib

namespace SimulatedKernel

variable (k : SimulatedKernel) (orders : HashOrders)

def chargeCpu (taskId : TaskId) (ticks : Nat) : Option (Bool × SimulatedKernel) :=
  match k.getTaskIdentity taskId with
  | some executionId => do
    let (result, k) ← (tryConsumeCpuTicks orders executionId ticks).call k
    some (!result.isOk, k)
  | none => some (false, k)

def executeTick (taskId : TaskId) : Option (Nat × Bool × SimulatedKernel) := do
  let ticksBefore := k.timerTicks
  let k ← k.advanceTime orders k.nanosPerTick
  let ticksAdvanced := k.timerTicks - ticksBefore
  let (failed, k) ← k.chargeCpu orders taskId ticksAdvanced
  some (ticksAdvanced, failed, k)

def isRunnable (taskId : TaskId) : Bool := k.scheduler.taskState taskId = some .runnable

def dequeueNext : Option TaskId × SimulatedKernel :=
  (k.scheduler.dequeueNext.1, { k with scheduler := k.scheduler.dequeueNext.2 })

/-- The inner loop of `run_for_ticks`: the ticks of the task and of the call so far. -/
def runQuantum (orders : HashOrders) (taskId : TaskId) (quantum ticks : Nat) :
    Nat → Nat × Nat → SimulatedKernel → Option ((Nat × Nat) × SimulatedKernel)
  | 0, _, _ => none
  | fuel + 1, (taskTicks, ticksConsumed), k =>
    if taskTicks < quantum ∧ ticksConsumed < ticks ∧ k.isRunnable taskId then do
      let (ticksAdvanced, failed, k) ← k.executeTick orders taskId
      let counts := (taskTicks + ticksAdvanced, ticksConsumed + ticksAdvanced)
      if failed then some (counts, k) else runQuantum orders taskId quantum ticks fuel counts k
    else some ((taskTicks, ticksConsumed), k)

def runForTicksLoop (orders : HashOrders) (ticks fuel : Nat) :
    Nat → Nat × Nat → SimulatedKernel → Option (Nat × SimulatedKernel)
  | 0, _, _ => none
  | rounds + 1, (schedulingRounds, ticksConsumed), k =>
    if ticksConsumed < ticks ∧ k.scheduler.hasRunnableTasks then
      match k.dequeueNext with
      | (some taskId, k) => do
        let quantum := k.scheduler.config.quantumTicks
        let ((taskTicks, ticksConsumed), k) ← runQuantum orders taskId quantum ticks fuel (0, ticksConsumed) k
        let k := if k.isRunnable taskId ∧ taskTicks ≥ quantum then k.yieldNow else k
        runForTicksLoop orders ticks fuel rounds (schedulingRounds + 1, ticksConsumed) k
      | (none, k) => some (schedulingRounds, k)
    else some (schedulingRounds, k)

def stepQuantum (orders : HashOrders) (taskId : TaskId) : Nat → SimulatedKernel → Option SimulatedKernel
  | 0, k => some k
  | quantum + 1, k =>
    if k.isRunnable taskId then do
      let (_, failed, k) ← k.executeTick orders taskId
      if failed ∨ k.scheduler.shouldPreempt taskId then some k else stepQuantum orders taskId quantum k
    else some k

def runForStepsLoop (orders : HashOrders) : Nat → Nat → SimulatedKernel → Option (Nat × SimulatedKernel)
  | 0, stepsExecuted, k => some (stepsExecuted, k)
  | steps + 1, stepsExecuted, k =>
    if k.scheduler.hasRunnableTasks then
      match k.dequeueNext with
      | (some taskId, k) => do
        let k ← stepQuantum orders taskId k.scheduler.config.quantumTicks k
        let k := if k.isRunnable taskId then k.yieldNow else k
        runForStepsLoop orders steps (stepsExecuted + 1) k
      | (none, k) => runForStepsLoop orders steps stepsExecuted k
    else some (stepsExecuted, k)

end SimulatedKernel

/-! ## Several cores -/

namespace SmpRuntime

def fillCore (acc : Nat × SmpRuntime) (coreId : Nat) : Nat × SmpRuntime :=
  let (rounds, r) := acc
  if (r.scheduler.coreCurrentTask coreId).isNone then
    let (next, scheduler) := r.scheduler.dequeueNext coreId (r.ticks coreId)
    (if next.isSome then rounds + 1 else rounds, { r with scheduler })
  else (rounds, r)

structure Ticked where
  coreId : Nat
  taskId : TaskId
  timestampTicks : Nat
  shouldPreempt : Bool

def tickCore (acc : List Ticked × SmpRuntime) (coreId : Nat) : List Ticked × SmpRuntime :=
  let (ticked, r) := acc
  match r.scheduler.coreCurrentTask coreId with
  | some taskId =>
    let r := r.advanceCoreTime coreId 1
    (ticked ++ [⟨coreId, taskId, r.ticks coreId, r.scheduler.shouldPreempt coreId⟩], r)
  | none => (ticked, r)

end SmpRuntime

namespace SimulatedKernel

open SmpRuntime

variable (k : SimulatedKernel)

def modifyCores (f : MultiCoreScheduler → MultiCoreScheduler) : SimulatedKernel :=
  { k with smp := k.smp.map fun r => { r with scheduler := f r.scheduler } }

variable (orders : HashOrders)

def settleTicked (k : SimulatedKernel) (t : Ticked) : Option SimulatedKernel := do
  let (cancelled, k) ← k.chargeCpu orders t.taskId 1
  some (if cancelled then k.modifyCores fun s => s.cancelTaskAny t.taskId t.timestampTicks
    else if t.shouldPreempt then k.modifyCores fun s => s.preemptCurrent t.coreId .quantumExpired t.timestampTicks
    else k)

def tickCores (smp : SmpRuntime) (coreCount : Nat) : Option (Nat × SimulatedKernel) := do
  let (rounds, smp) := (List.range coreCount).foldl fillCore (0, smp)
  let k ← ({ k with smp := some smp } : SimulatedKernel).advanceTime orders k.nanosPerTick
  let (ticked, smp) := (List.range coreCount).foldl tickCore ([], smp)
  let k ← ticked.foldlM (settleTicked orders) { k with smp := some smp }
  some (rounds, k)

def runForTicksSmp (orders : HashOrders) (coreCount : Nat) :
    Nat → Nat → SimulatedKernel → Option (Nat × SimulatedKernel)
  | 0, schedulingRounds, k => some (schedulingRounds, k)
  | ticks + 1, schedulingRounds, k =>
    match k.smp with
    | some smp =>
      if smp.scheduler.hasRunnableTasks then do
        let (rounds, k) ← k.tickCores orders smp coreCount
        runForTicksSmp orders coreCount ticks (schedulingRounds + rounds) k
      else some (schedulingRounds, k)
    | none => some (schedulingRounds, k)

def runForStepsSmp (orders : HashOrders) (coreCount : Nat) :
    Nat → Nat → SimulatedKernel → Option (Nat × SimulatedKernel)
  | 0, stepsExecuted, k => some (stepsExecuted, k)
  | steps + 1, stepsExecuted, k =>
    if k.smp.any fun smp => smp.scheduler.hasRunnableTasks then do
      let (_, k) ← runForTicksSmp orders coreCount 1 0 k
      runForStepsSmp orders coreCount steps (stepsExecuted + 1) k
    else some (stepsExecuted, k)

def runForTicks (fuel ticks : Nat) : Option (Nat × SimulatedKernel) :=
  match k.smp with
  | some smp => runForTicksSmp orders smp.scheduler.coreCount ticks 0 k
  | none => runForTicksLoop orders ticks fuel fuel (0, 0) k

def runForSteps (steps : Nat) : Option (Nat × SimulatedKernel) :=
  match k.smp with
  | some smp => runForStepsSmp orders smp.scheduler.coreCount steps 0 k
  | none => runForStepsLoop orders steps 0 k

end SimulatedKernel

end PandaGen.Kernel
