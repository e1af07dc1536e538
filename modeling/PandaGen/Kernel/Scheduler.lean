import PandaGen.Core.HashOrder
import PandaGen.Core.Uuid
import PandaGen.Core.Word
import PandaGen.Lib.Machine

/-!
# The scheduler

`sim_kernel/src/scheduler.rs`. The loops over the task table take the order of the hash map as an input. The
tick counter panics on overflow; the ticks of a quantum are at most that counter.
-/

namespace PandaGen.Kernel

open Lib

inductive TaskState where
  | runnable
  | blocked (wakeTick : Nat)
  | exited
  | cancelled
  deriving DecidableEq

inductive RealTimePolicy where
  | none
  | earliestDeadlineFirst

structure SchedulerConfig where
  quantumTicks : Nat
  realtimePolicy : RealTimePolicy

def SchedulerConfig.default : SchedulerConfig := ⟨10, .none⟩

structure RealTimeParams where
  periodTicks : Nat
  budgetTicks : Nat

def RealTimeParams.ppm (params : RealTimeParams) : Nat :=
  if params.periodTicks > 0 then params.budgetTicks * 1000000 / params.periodTicks else 0

structure RealTimeTask where
  params : RealTimeParams
  nextDeadline : Nat
  remainingBudget : Nat
  deadlineMisses : Nat

namespace RealTimeTask

def new (params : RealTimeParams) (currentTicks : Nat) : RealTimeTask where
  params
  nextDeadline := saturatingAdd currentTicks params.periodTicks
  remainingBudget := params.budgetTicks
  deadlineMisses := 0

def resetForNextPeriod (t : RealTimeTask) : RealTimeTask :=
  { t with
    remainingBudget := t.params.budgetTicks
    nextDeadline := saturatingAdd t.nextDeadline t.params.periodTicks }

end RealTimeTask

inductive SchedulerError where
  | taskNotFound (taskId : TaskId)
  | admissionControlFailed
  deriving DecidableEq

inductive PreemptionReason where
  | quantumExpired
  | yielded
  | blocked
  | budgetExhausted

/-- `scheduler::ExitReason` -/
inductive ScheduledExit where
  | normal
  | resourceExhaustion
  | failed

inductive ScheduleEvent where
  | taskSelected (taskId : TaskId) (timestampTicks : Nat)
  | taskPreempted (taskId : TaskId) (reason : PreemptionReason) (timestampTicks : Nat)
  | taskExited (taskId : TaskId) (reason : ScheduledExit) (timestampTicks : Nat)
  | deadlineMissed (taskId : TaskId) (deadlineTick timestampTicks : Nat)

structure ScheduledTask where
  state : TaskState
  ticksInQuantum : Nat
  realtime : Option RealTimeTask

structure Scheduler where
  config : SchedulerConfig
  runQueue : List TaskId
  tasks : BTreeMap TaskId ScheduledTask
  currentTask : Option TaskId
  currentTicks : Nat
  auditLog : List ScheduleEvent

namespace Scheduler

def withConfig (config : SchedulerConfig) : Scheduler where
  config
  runQueue := []
  tasks := ∅
  currentTask := none
  currentTicks := 0
  auditLog := []

def new : Scheduler := withConfig .default

variable (s : Scheduler)

def taskState (taskId : TaskId) : Option TaskState := s.tasks[taskId]?.map ScheduledTask.state

def hasRunnableTasks : Bool := !s.runQueue.isEmpty

def record (event : ScheduleEvent) : Scheduler := { s with auditLog := s.auditLog ++ [event] }

/-! ## The run queue -/

def taskDeadline (taskId : TaskId) : Option Nat :=
  (s.tasks[taskId]?.bind ScheduledTask.realtime).map RealTimeTask.nextDeadline

def insertPosition (deadline : Nat) : Nat :=
  s.runQueue.findIdx fun existing => (s.taskDeadline existing).any fun d => deadline < d

def enqueueRunnable (taskId : TaskId) : Scheduler :=
  match s.config.realtimePolicy with
  | .none => { s with runQueue := s.runQueue ++ [taskId] }
  | .earliestDeadlineFirst =>
    match s.taskDeadline taskId with
    | some deadline => { s with runQueue := s.runQueue.insertIdx (s.insertPosition deadline) taskId }
    | none => { s with runQueue := s.runQueue ++ [taskId] }

def removeFromQueue (taskId : TaskId) : Scheduler :=
  { s with runQueue := s.runQueue.filter fun id => id != taskId }

def earlier (deadlineOf : TaskId → Option Nat) (best : Option Nat × Nat) (e : TaskId × Nat) : Option Nat × Nat :=
  match deadlineOf e.1 with
  | some deadline => if deadline < best.2 then (some e.2, deadline) else best
  | none => best

/-- The index of the first task with the least deadline. A deadline of `u64::MAX` does not count. -/
def earliestIndex (deadlineOf : TaskId → Option Nat) (queue : List TaskId) : Option Nat :=
  (queue.zipIdx.foldl (earlier deadlineOf) (none, 2 ^ 64 - 1)).1

def dequeue : List TaskId → Option (TaskId × List TaskId)
  | [] => none
  | taskId :: queue => some (taskId, queue)

def dequeueEarliestDeadline (deadlineOf : TaskId → Option Nat) (queue : List TaskId) : Option (TaskId × List TaskId) :=
  match earliestIndex deadlineOf queue with
  | some index => queue[index]?.map fun taskId => (taskId, queue.eraseIdx index)
  | none => dequeue queue

/-! ## Operations -/

def enqueue (taskId : TaskId) : Scheduler :=
  { s with tasks := s.tasks.insert taskId ⟨.runnable, 0, none⟩ }.enqueueRunnable taskId

def nextTask : Option (TaskId × List TaskId) :=
  match s.config.realtimePolicy with
  | .none => dequeue s.runQueue
  | .earliestDeadlineFirst => dequeueEarliestDeadline s.taskDeadline s.runQueue

def dequeueNext : Option TaskId × Scheduler :=
  match s.nextTask with
  | some (taskId, runQueue) =>
    (some taskId, { s with
      runQueue
      tasks := s.tasks.modify taskId fun info => { info with ticksInQuantum := 0 }
      currentTask := some taskId }.record (.taskSelected taskId s.currentTicks))
  | none => (none, { s with currentTask := none })

/-- The loop of `refresh_deadlines` over the periods that have passed. Each round moves the deadline on by a
period, so there are at most `current_ticks + 1`; at the greatest tick count the deadline saturates and the
loop does not end. -/
def refreshDeadline (taskId : TaskId) (currentTicks : Nat) :
    Nat → RealTimeTask → Option (RealTimeTask × List ScheduleEvent)
  | 0, _ => none
  | fuel + 1, t =>
    if t.nextDeadline ≤ currentTicks then do
      let missed : Bool := t.remainingBudget > 0
      let t' := if missed then { t with deadlineMisses := t.deadlineMisses + 1 } else t
      let (t'', events) ← refreshDeadline taskId currentTicks fuel t'.resetForNextPeriod
      some (t'', if missed then .deadlineMissed taskId t.nextDeadline currentTicks :: events else events)
    else some (t, [])

def refreshTask (taskId : TaskId) : Option Scheduler :=
  match s.tasks[taskId]? with
  | some info =>
    match info.realtime with
    | some realtime =>
      if realtime.params.periodTicks = 0 then some s
      else do
        let (realtime, events) ← refreshDeadline taskId s.currentTicks (s.currentTicks + 2) realtime
        some { s with
          tasks := s.tasks.insert taskId { info with realtime := some realtime }
          auditLog := s.auditLog ++ events }
    | none => some s
  | none => some s

def refreshDeadlines (order : HashOrder TaskId) : Option Scheduler :=
  (order.order s.tasks.keys).foldlM refreshTask s

def unblockTask (taskId : TaskId) : Scheduler :=
  match s.tasks[taskId]? with
  | some info =>
    match info.state with
    | .blocked _ =>
      let info := { info with state := .runnable, ticksInQuantum := 0 }
      { s with tasks := s.tasks.insert taskId info }.enqueueRunnable taskId
    | _ => s
  | none => s

def readyToWake (taskId : TaskId) : Bool :=
  match s.taskState taskId with
  | some (.blocked wakeTick) => s.currentTicks ≥ wakeTick
  | _ => false

def wakeReadyTasks (order : HashOrder TaskId) : Scheduler :=
  ((order.order s.tasks.keys).filter s.readyToWake).foldl unblockTask s

def chargeCurrent (deltaTicks : Nat) : Scheduler :=
  match s.currentTask with
  | some taskId =>
    { s with tasks := s.tasks.modify taskId fun info =>
      { info with
        ticksInQuantum := info.ticksInQuantum + deltaTicks
        realtime := info.realtime.map fun t => { t with remainingBudget := t.remainingBudget - deltaTicks } } }
  | none => s

def onTickAdvanced (order : HashOrder TaskId) (deltaTicks : Nat) : Option Scheduler := do
  let currentTicks ← checkedAdd s.currentTicks deltaTicks
  let s ← ({ s with currentTicks }.chargeCurrent deltaTicks).refreshDeadlines order
  some (s.wakeReadyTasks order)

def utilizationPpmWith (taskId : TaskId) (params : RealTimeParams) : Nat :=
  (s.tasks.toList.map fun (id, info) =>
    if id = taskId then params.ppm else (info.realtime.map fun t => t.params.ppm).getD 0).sum % 2 ^ 64

def setRealTimeParams (taskId : TaskId) (params : RealTimeParams) : Except SchedulerError Unit × Scheduler :=
  if params.periodTicks = 0 ∨ params.budgetTicks = 0 ∨ params.budgetTicks > params.periodTicks then
    (.error .admissionControlFailed, s)
  else if s.utilizationPpmWith taskId params > 1000000 then (.error .admissionControlFailed, s)
  else
    match s.tasks[taskId]? with
    | none => (.error (.taskNotFound taskId), s)
    | some info =>
      let realtime := some (RealTimeTask.new params s.currentTicks)
      let s := { s with tasks := s.tasks.insert taskId { info with realtime } }
      if info.state = .runnable ∧ s.currentTask ≠ some taskId then
        (.ok (), (s.removeFromQueue taskId).enqueueRunnable taskId)
      else (.ok (), s)

def shouldPreempt (taskId : TaskId) : Bool :=
  match s.tasks[taskId]? with
  | some info => (info.realtime.any fun t => t.remainingBudget == 0) || info.ticksInQuantum ≥ s.config.quantumTicks
  | none => false

def preemptCurrent : Bool × Scheduler :=
  match s.currentTask with
  | none => (false, s)
  | some taskId =>
    let s := { s with currentTask := none }
    match s.tasks[taskId]? with
    | some info =>
      if info.state = .runnable then
        match info.realtime.filter fun t => t.remainingBudget == 0 with
        | some realtime =>
          let info := { info with state := .blocked realtime.nextDeadline, ticksInQuantum := 0 }
          (true, { s with tasks := s.tasks.insert taskId info }.record
            (.taskPreempted taskId .budgetExhausted s.currentTicks))
        | none =>
          let info := { info with ticksInQuantum := 0 }
          (true, ({ s with tasks := s.tasks.insert taskId info }.enqueueRunnable taskId).record
            (.taskPreempted taskId .quantumExpired s.currentTicks))
      else (false, s)
    | none => (false, s)

def unschedule (taskId : TaskId) : Scheduler :=
  let s := s.removeFromQueue taskId
  if s.currentTask = some taskId then { s with currentTask := none } else s

def blockTask (taskId : TaskId) (wakeTick : Nat) : Scheduler :=
  { s with tasks := s.tasks.modify taskId fun info =>
    { info with state := .blocked wakeTick, ticksInQuantum := 0 } }.unschedule taskId

def exitTask (taskId : TaskId) : Scheduler :=
  ({ s with tasks := s.tasks.modify taskId fun info => { info with state := .exited } }.unschedule taskId).record
    (.taskExited taskId .normal s.currentTicks)

def cancelTask (taskId : TaskId) : Scheduler :=
  ({ s with tasks := s.tasks.modify taskId fun info => { info with state := .cancelled } }.unschedule taskId).record
    (.taskExited taskId .resourceExhaustion s.currentTicks)

/-! ## Runs -/

inductive Call where
  | enqueue (taskId : TaskId)
  | dequeueNext
  | onTickAdvanced (order : HashOrder TaskId) (deltaTicks : Nat)
  | wakeReadyTasks (order : HashOrder TaskId)
  | setRealTimeParams (taskId : TaskId) (params : RealTimeParams)
  | preemptCurrent
  | blockTask (taskId : TaskId) (wakeTick : Nat)
  | unblockTask (taskId : TaskId)
  | exitTask (taskId : TaskId)
  | cancelTask (taskId : TaskId)

inductive Answer where
  | done
  | dequeued (taskId : Option TaskId)
  | admitted (result : Except SchedulerError Unit)
  | preempted (taken : Bool)
  deriving DecidableEq

def machine : Machine Scheduler Call Answer where
  step s
    | .enqueue taskId => some (.done, s.enqueue taskId)
    | .dequeueNext => some (.dequeued s.dequeueNext.1, s.dequeueNext.2)
    | .onTickAdvanced order deltaTicks => do some (.done, ← s.onTickAdvanced order deltaTicks)
    | .wakeReadyTasks order => some (.done, s.wakeReadyTasks order)
    | .setRealTimeParams taskId params =>
      some (.admitted (s.setRealTimeParams taskId params).1, (s.setRealTimeParams taskId params).2)
    | .preemptCurrent => some (.preempted s.preemptCurrent.1, s.preemptCurrent.2)
    | .blockTask taskId wakeTick => some (.done, s.blockTask taskId wakeTick)
    | .unblockTask taskId => some (.done, s.unblockTask taskId)
    | .exitTask taskId => some (.done, s.exitTask taskId)
    | .cancelTask taskId => some (.done, s.cancelTask taskId)

end Scheduler

end PandaGen.Kernel
