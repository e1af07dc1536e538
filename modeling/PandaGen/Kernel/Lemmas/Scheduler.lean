import PandaGen.Kernel.Scheduler
import PandaGen.Lib.Occupancy

/-!
# What an operation of the scheduler does to the tasks

Each operation is described by the states of the tasks and by the places they have: in the run queue and as
the current task.
-/

namespace PandaGen.Kernel.Scheduler

open Lib Option Scheduler ScheduledTask Nat

variable {s s' : Scheduler} {t : TaskId} {queue : List TaskId}

def places (s : Scheduler) (a : TaskId) : Nat := occupancy s.runQueue s.currentTask a

/-! ## The run queue -/

structure Queued (s : Scheduler) (t : TaskId) (s' : Scheduler) : Prop where
  tasks : s'.tasks = s.tasks
  currentTask : s'.currentTask = s.currentTask
  currentTicks : s'.currentTicks = s.currentTicks
  config : s'.config = s.config
  runQueue : s'.runQueue.Perm (t :: s.runQueue)

theorem queued_enqueueRunnable (s : Scheduler) (t) : Queued s t (s.enqueueRunnable t) := by
  have hlast : (s.runQueue ++ [t]).Perm (t :: s.runQueue) := List.perm_append_singleton t s.runQueue
  rw [enqueueRunnable]
  split
  · exact ⟨rfl, rfl, rfl, rfl, hlast⟩
  · split
    · exact ⟨rfl, rfl, rfl, rfl, List.perm_insertIdx t s.runQueue List.findIdx_le_length⟩
    · exact ⟨rfl, rfl, rfl, rfl, hlast⟩

theorem Queued.taskState (h : Queued s t s') (a) : s'.taskState a = s.taskState a := by
  rw [Scheduler.taskState, h.tasks]
  rfl

theorem Queued.places (h : Queued s t s') (a) : s'.places a = s.places a + if t = a then 1 else 0 := by
  rw [Scheduler.places, h.currentTask]
  exact occupancy_push h.runQueue

structure Best (f : TaskId → Option Nat) (seen : List TaskId) (best : Option Nat × Nat) : Prop where
  le : ∀ a ∈ seen, ∀ d ∈ f a, best.2 ≤ d
  limit : best.1 = none → best.2 = 2 ^ 64 - 1
  first : ∀ i ∈ best.1, ∃ pre t post, seen = pre ++ t :: post ∧ pre.length = i ∧ f t = some best.2 ∧
    ∀ a ∈ pre, ∀ d ∈ f a, best.2 < d

theorem Best.concat {f best} (h : Best f queue best) (t) (ht : ∀ d ∈ f t, best.2 ≤ d) : Best f (queue ++ [t]) best := by
  refine ⟨fun a ha => ?_, h.limit, fun i hi => ?_⟩
  · rw [List.mem_append, List.mem_singleton] at ha
    exact ha.elim (h.le a) fun heq => heq ▸ ht
  · obtain ⟨pre, t', post, rfl, hlength, ht', hpre⟩ := h.first i hi
    exact ⟨pre, t', post ++ [t], by simp, hlength, ht', hpre⟩

theorem best_earlier {f best} (h : Best f queue best) (t) :
    Best f (queue ++ [t]) (earlier f best (t, queue.length)) := by
  rw [earlier]
  split
  · rename_i d hd
    split
    · rename_i hlt
      have hall (a) (ha : a ∈ queue) (d') (hd' : d' ∈ f a) : d < d' := lt_of_lt_of_le hlt (h.le a ha d' hd')
      refine ⟨fun a ha d' hd' => ?_, nofun, ?_⟩
      · rw [List.mem_append, List.mem_singleton] at ha
        obtain ha | rfl := ha
        · exact le_of_lt (hall a ha d' hd')
        · exact le_of_eq (some.inj (hd.symm.trans hd'))
      · rintro _ ⟨⟩
        exact ⟨queue, t, [], rfl, rfl, hd, hall⟩
    · rename_i hle
      refine h.concat t fun d' hd' => ?_
      cases hd.symm.trans hd'
      exact Nat.le_of_not_lt hle
  · rename_i hnone
    exact h.concat t fun d hd => nomatch hnone.symm.trans hd

theorem best_foldl (f queue) : Best f queue (queue.zipIdx.foldl (earlier f) (none, 2 ^ 64 - 1)) := by
  induction queue using List.reverseRecOn with
  | nil => exact ⟨nofun, fun _ => rfl, nofun⟩
  | append_singleton queue t ih =>
    rw [List.zipIdx_append, List.foldl_append, zero_add]
    exact best_earlier ih t

theorem earliestIndex_lt {f i} (h : earliestIndex f queue = some i) : i < queue.length := by
  obtain ⟨pre, t, post, hqueue, rfl, -⟩ := (best_foldl f queue).first i h
  simp [hqueue]

theorem dequeue_perm {queue'} (h : dequeue queue = some (t, queue')) : queue.Perm (t :: queue') := by
  cases queue with
  | nil => cases h
  | cons => cases h; rfl

theorem dequeueEarliestDeadline_perm {f queue'} (h : dequeueEarliestDeadline f queue = some (t, queue')) :
    queue.Perm (t :: queue') := by
  rw [dequeueEarliestDeadline] at h
  split at h
  · rename_i i hi
    have hlt := earliestIndex_lt hi
    rw [List.getElem?_eq_getElem hlt] at h
    cases h
    exact (List.getElem_cons_eraseIdx_perm hlt).symm
  · exact dequeue_perm h

theorem dequeueEarliestDeadline_eq_none {f} (h : dequeueEarliestDeadline f queue = none) : queue = [] := by
  rw [dequeueEarliestDeadline] at h
  split at h
  · rename_i i hi
    rw [List.getElem?_eq_getElem (earliestIndex_lt hi)] at h
    cases h
  · cases queue with
    | nil => rfl
    | cons => cases h

/-! ## Selection -/

theorem taskState_modify {f} (a) : ((s.tasks.modify t f)[a]?).map state =
      if t = a then s.tasks[a]?.map fun info => (f info).state else s.taskState a := by
  rw [BTreeMap.getElem?_modify]
  split
  · rw [map_map]
    rfl
  · rfl

structure Dequeued (s : Scheduler) (next : Option TaskId) (s' : Scheduler) : Prop where
  taskState : ∀ a, s'.taskState a = s.taskState a
  places : ∀ a, s'.places a = s.runQueue.count a
  currentTask : s'.currentTask = next
  mem : ∀ t ∈ next, t ∈ s.runQueue

theorem nextTask_perm (h : s.nextTask = some (t, queue)) : s.runQueue.Perm (t :: queue) := by
  rw [nextTask] at h
  split at h
  · exact dequeue_perm h
  · exact dequeueEarliestDeadline_perm h

theorem nextTask_eq_none (h : s.nextTask = none) : s.runQueue = [] := by
  rw [nextTask] at h
  split at h
  · cases hq : s.runQueue with
    | nil => rfl
    | cons =>
      rw [hq] at h
      cases h
  · exact dequeueEarliestDeadline_eq_none h

theorem dequeued_dequeueNext (s) : Dequeued s s.dequeueNext.1 s.dequeueNext.2 := by
  rw [dequeueNext]
  cases hnext : s.nextTask with
  | none =>
    exact ⟨fun _ => rfl, occupancy_none s.runQueue, rfl, (fun _ h => nomatch h)⟩
  | some e =>
    have hperm := nextTask_perm hnext
    constructor
    case taskState =>
      intro a
      refine (taskState_modify a).trans ?_
      split <;> rfl
    case places => exact fun a => occupancy_select hperm
    case currentTask => rfl
    case mem =>
      rintro _ ⟨⟩
      exact hperm.mem_iff.mpr List.mem_cons_self

/-! ## Arrival and departure -/

theorem taskState_insert (s : Scheduler) (t) (info : ScheduledTask) (a) :
    ((s.tasks.insert t info)[a]?).map state = if t = a then some info.state else s.taskState a := by
  rw [BTreeMap.getElem?_insert]
  split <;> rfl

theorem taskState_enqueue (s : Scheduler) (t a) :
    (s.enqueue t).taskState a = if t = a then some .runnable else s.taskState a := by
  rw [enqueue, (queued_enqueueRunnable _ t).taskState]
  exact taskState_insert s t _ a

theorem places_enqueue (s : Scheduler) (t a) : (s.enqueue t).places a = s.places a + if t = a then 1 else 0 := by
  rw [enqueue, (queued_enqueueRunnable _ t).places]
  rfl

@[simp]
theorem taskState_unschedule (s : Scheduler) (t a) : (s.unschedule t).taskState a = s.taskState a := by
  simp only [unschedule]
  split <;> rfl

theorem places_unschedule (s : Scheduler) (t a) : (s.unschedule t).places a = if t = a then 0 else s.places a := by
  rw [places, places, ← occupancy_remove]
  by_cases hcurrent : s.currentTask = some t <;> simp [unschedule, removeFromQueue, hcurrent]

structure Stopped (s : Scheduler) (t : TaskId) (state : TaskState) (s' : Scheduler) : Prop where
  taskState : ∀ a, s'.taskState a = if t = a then (s.taskState a).map fun _ => state else s.taskState a
  places : ∀ a, s'.places a = if t = a then 0 else s.places a
  currentTask : s'.currentTask = if s.currentTask = some t then none else s.currentTask

theorem stopped_unschedule (s : Scheduler) (t) {state f} (hf : ∀ info, (f info).state = state) :
    Stopped s t state ({ s with tasks := s.tasks.modify t f }.unschedule t) := by
  constructor
  · intro a
    rw [taskState_unschedule]
    refine (taskState_modify a).trans ?_
    simp only [hf, taskState, map_map]
    rfl
  · intro a
    rw [places_unschedule]
    rfl
  · by_cases hcurrent : s.currentTask = some t <;> simp [unschedule, removeFromQueue, hcurrent]

theorem stopped_blockTask (s t wakeTick) :
    Stopped s t (.blocked wakeTick) (s.blockTask t wakeTick) := stopped_unschedule s t fun _ => rfl

theorem stopped_exitTask (s t) : Stopped s t .exited (s.exitTask t) :=
  have h := stopped_unschedule s t (f := fun info => { info with state := .exited }) fun _ => rfl
  { h with }

theorem stopped_cancelTask (s t) : Stopped s t .cancelled (s.cancelTask t) :=
  have h := stopped_unschedule s t (f := fun info => { info with state := .cancelled }) fun _ => rfl
  { h with }

/-! ## Time -/

def Due (s : Scheduler) (now : Nat) (a : TaskId) : Prop := ∃ wakeTick ≤ now, s.taskState a = some (.blocked wakeTick)

/-- The tasks that are called and were blocked are runnable now, with one place more; all else stays. -/
structure Woken (called : TaskId → Prop) (s s' : Scheduler) : Prop where
  task : ∀ a, s'.taskState a = s.taskState a ∧ s'.places a = s.places a ∨
    (∃ wakeTick, s.taskState a = some (.blocked wakeTick)) ∧ s'.taskState a = some .runnable ∧
      s'.places a = s.places a + 1 ∧ called a
  awake : ∀ a wakeTick, called a → s'.taskState a ≠ some (.blocked wakeTick)
  currentTask : s'.currentTask = s.currentTask
  currentTicks : s'.currentTicks = s.currentTicks
  config : s'.config = s.config

variable {called called' called'' : TaskId → Prop}

theorem Woken.trans {s''} (h : Woken called s s') (h' : Woken called' s' s'')
    (hcalled : ∀ a, called'' a ↔ called a ∨ called' a) : Woken called'' s s'' where
  task a := by
    rw [hcalled]
    cases h.task a with
    | inl hsame =>
      rw [← hsame.1, ← hsame.2]
      exact (h'.task a).imp_right fun hwoken => { hwoken with right.right.right := .inr hwoken.2.2.2 }
    | inr hwoken =>
      cases h'.task a with
      | inl hsame => exact .inr ⟨hwoken.1, hsame.1.trans hwoken.2.1, hsame.2.trans hwoken.2.2.1, .inl hwoken.2.2.2⟩
      | inr hwoken' =>
        obtain ⟨wakeTick, hblocked⟩ := hwoken'.1
        cases hwoken.2.1.symm.trans hblocked
  awake a wakeTick ha := by
    obtain ha | ha := (hcalled a).mp ha
    · cases h'.task a with
      | inl hsame => exact hsame.1 ▸ h.awake a wakeTick ha
      | inr hwoken => simp [hwoken.2.1]
    · exact h'.awake a wakeTick ha
  currentTask := h'.currentTask.trans h.currentTask
  currentTicks := h'.currentTicks.trans h.currentTicks
  config := h'.config.trans h.config

theorem woken_of_tasks (htasks : ∀ a, s'.taskState a = s.taskState a) (hqueue : s'.runQueue = s.runQueue)
    (hcurrent : s'.currentTask = s.currentTask) (hticks : s'.currentTicks = s.currentTicks)
    (hconfig : s'.config = s.config) : Woken (fun _ => False) s s' := by
  refine ⟨fun a => .inl ⟨htasks a, ?_⟩, fun _ _ h => h.elim, hcurrent, hticks, hconfig⟩
  rw [places, places, hqueue, hcurrent]

theorem Woken.refl (s) : Woken (fun _ => False) s s := woken_of_tasks (fun _ => rfl) rfl rfl rfl rfl

theorem woken_unblockTask (s : Scheduler) (t) : Woken (· = t) s (s.unblockTask t) := by
  have hawake (hstate : ∀ wakeTick, s.taskState t ≠ some (.blocked wakeTick)) : Woken (· = t) s s :=
    { Woken.refl s with
      task := fun _ => .inl ⟨rfl, rfl⟩
      awake := fun a wakeTick ha => ha ▸ hstate wakeTick }
  rw [unblockTask]
  split
  · rename_i info hinfo
    split
    · rename_i wakeTick hstate
      have hq := queued_enqueueRunnable
        { s with tasks := s.tasks.insert t { info with state := .runnable, ticksInQuantum := 0 } } t
      have htask (a) := taskState_insert s t { info with state := .runnable, ticksInQuantum := 0 } a
      refine ⟨fun a => ?_, ?_, hq.currentTask, hq.currentTicks, hq.config⟩
      · rw [hq.taskState, hq.places]
        by_cases ha : t = a
        · subst ha
          refine .inr ⟨⟨wakeTick, ?_⟩, (htask t).trans (if_pos rfl), by rw [if_pos rfl]; rfl, rfl⟩
          rw [taskState, hinfo, map_some, hstate]
        · rw [if_neg ha]
          exact .inl ⟨(htask a).trans (if_neg ha), rfl⟩
      · rintro a wakeTick rfl
        rw [hq.taskState]
        exact fun h => nomatch ((htask a).trans (if_pos rfl)).symm.trans h
    · rename_i hstate
      refine hawake fun wakeTick h => hstate wakeTick ?_
      rw [taskState, hinfo] at h
      exact some.inj h
  · rename_i hinfo
    exact hawake fun wakeTick h => by simp [taskState, hinfo] at h

theorem woken_foldl_unblockTask (ids : List TaskId) (s) : Woken (· ∈ ids) s (ids.foldl unblockTask s) := by
  induction ids generalizing s with
  | nil => exact (Woken.refl s).trans (.refl s) (by simp)
  | cons t ids ih => exact (woken_unblockTask s t).trans (ih _) fun a => List.mem_cons

theorem woken_wakeReadyTasks (s : Scheduler) (order) : Woken (s.Due s.currentTicks) s (s.wakeReadyTasks order) := by
  refine (Woken.refl s).trans (woken_foldl_unblockTask _ s) fun a => ?_
  rw [false_or, List.mem_filter, order.mem_order, Std.ExtTreeMap.mem_keys, readyToWake, Due]
  constructor
  · rintro ⟨wakeTick, hle, hstate⟩
    obtain ⟨info, hinfo, -⟩ := map_eq_some_iff.mp hstate
    exact ⟨Std.ExtTreeMap.mem_iff_isSome_getElem?.mpr (by rw [hinfo]; rfl), by simpa [hstate] using hle⟩
  · rintro ⟨-, hready⟩
    split at hready
    · rename_i wakeTick hstate
      exact ⟨wakeTick, of_decide_eq_true hready, hstate⟩
    · cases hready

theorem woken_chargeCurrent (s : Scheduler) (deltaTicks : Nat) :
    Woken (fun _ => False) s (s.chargeCurrent deltaTicks) := by
  rw [chargeCurrent]
  split
  · refine woken_of_tasks (fun a => ?_) rfl rfl rfl rfl
    refine (taskState_modify a).trans ?_
    split <;> rfl
  · exact .refl s

theorem woken_refreshTask (h : s.refreshTask t = some s') : Woken (fun _ => False) s s' := by
  rw [refreshTask] at h
  split at h
  · rename_i info hinfo
    split at h
    · split at h
      · cases h
        exact .refl s
      · obtain ⟨⟨realtime, events⟩, -, heq⟩ := bind_eq_some_iff.mp h
        cases heq
        refine woken_of_tasks (fun a => ?_) rfl rfl rfl rfl
        refine (taskState_insert s _ _ a).trans ?_
        split
        · rename_i ha
          subst ha
          rw [taskState, hinfo]
          rfl
        · rfl
    · cases h
      exact .refl s
  · cases h
    exact .refl s

theorem woken_foldlM_refreshTask {ids : List TaskId} (h : ids.foldlM refreshTask s = some s') :
    Woken (fun _ => False) s s' := by
  induction ids generalizing s with
  | nil =>
    cases h
    exact .refl _
  | cons t ids ih =>
    obtain ⟨s1, h1, h⟩ := bind_eq_some_iff.mp h
    exact (woken_refreshTask h1).trans (ih h) (by simp)

theorem woken_onTickAdvanced {order} {deltaTicks : Nat} (h : s.onTickAdvanced order deltaTicks = some s') :
    Woken (s.Due (s.currentTicks + deltaTicks)) { s with currentTicks := s.currentTicks + deltaTicks } s' := by
  obtain ⟨ticks, hticks, h⟩ := bind_eq_some_iff.mp h
  obtain ⟨-, rfl⟩ := checkedAdd_eq_some.mp hticks
  obtain ⟨s1, hrefresh, ⟨⟩⟩ := bind_eq_some_iff.mp h
  have h1 : Woken (fun _ => False) { s with currentTicks := s.currentTicks + deltaTicks } s1 :=
    (woken_chargeCurrent _ deltaTicks).trans (woken_foldlM_refreshTask hrefresh) (by simp)
  refine h1.trans (woken_wakeReadyTasks s1 order) fun a => ?_
  have hstate : s1.taskState a = s.taskState a := (h1.task a).elim And.left fun h => h.2.2.2.elim
  rw [false_or, Due, Due, hstate, h1.currentTicks]

/-! ## Preemption -/

/-- The current task leaves the processor: to the queue, to sleep until its next period, or, where it cannot
run any more, to nowhere. -/
inductive Preempted (s : Scheduler) (t : TaskId) (s' : Scheduler) : Prop
  | requeued (state : s.taskState t = some .runnable) (taskState : ∀ a, s'.taskState a = s.taskState a)
      (places : ∀ a, s'.places a = s.places a)
  | slept (state : s.taskState t = some .runnable) (wakeTick : Nat)
      (taskState : ∀ a, s'.taskState a = if t = a then some (.blocked wakeTick) else s.taskState a)
      (places : ∀ a, s'.places a = s.runQueue.count a)
  | dropped (state : s.taskState t ≠ some .runnable) (taskState : ∀ a, s'.taskState a = s.taskState a)
      (places : ∀ a, s'.places a = s.runQueue.count a)

theorem preempted_preemptCurrent (ht : s.currentTask = some t) :
    Preempted s t s.preemptCurrent.2 ∧ s.preemptCurrent.2.currentTask = none := by
  simp only [preemptCurrent, ht]
  cases hinfo : s.tasks[t]? with
  | none =>
    refine ⟨.dropped ?_ (fun _ => rfl) fun a => occupancy_none _ a, rfl⟩
    simp [taskState, hinfo]
  | some info =>
    have htask : s.taskState t = some info.state := by rw [taskState, hinfo, map_some]
    dsimp only
    split
    · rename_i hrun
      rw [hrun] at htask
      split
      · rename_i realtime _
        exact ⟨.slept htask realtime.nextDeadline (taskState_insert s t _) fun a => occupancy_none _ a, rfl⟩
      · have hq := queued_enqueueRunnable
          { s with currentTask := none, tasks := s.tasks.insert t { info with ticksInQuantum := 0 } } t
        refine ⟨.requeued htask (fun a => ?_) (fun a => ?_), hq.currentTask⟩
        · refine (hq.taskState a).trans ((taskState_insert s t _ a).trans ?_)
          split
          · rename_i ha
            rw [← ha, htask, hrun]
          · rfl
        · have hback : s.places a = occupancy s.runQueue (some t) a := by rw [places, ht]
          rw [hback]
          exact (congrArg (occupancy _ · a) hq.currentTask).trans (occupancy_requeue hq.runQueue)
    · rename_i hrun
      refine ⟨.dropped ?_ (fun _ => rfl) fun a => occupancy_none _ a, rfl⟩
      rw [htask]
      exact fun h => hrun (some.inj h)

theorem preemptCurrent_of_none (h : s.currentTask = none) : s.preemptCurrent = (false, s) := by
  rw [preemptCurrent, h]

/-- The states of the tasks stay. A runnable task that is not current ends with one place in the queue. -/
theorem setRealTimeParams_spec (s : Scheduler) (t params) :
    (∀ a, (s.setRealTimeParams t params).2.taskState a = s.taskState a) ∧
      ((∀ a, (s.setRealTimeParams t params).2.places a = s.places a) ∨ s.taskState t = some .runnable ∧
          ∀ a, (s.setRealTimeParams t params).2.places a = if t = a then 1 else s.places a) := by
  rw [setRealTimeParams]
  split
  · exact ⟨fun _ => rfl, .inl fun _ => rfl⟩
  split
  · exact ⟨fun _ => rfl, .inl fun _ => rfl⟩
  cases hinfo : s.tasks[t]? with
  | none => exact ⟨fun _ => rfl, .inl fun _ => rfl⟩
  | some info =>
    have htask : s.taskState t = some info.state := by rw [taskState, hinfo, map_some]
    have hstate : ∀ realtime a, ((s.tasks.insert t { info with realtime })[a]?).map state = s.taskState a := by
      intro realtime a
      rw [taskState_insert]
      split
      · rename_i ha
        rw [← ha, htask]
      · rfl
    dsimp only
    split
    · rename_i hrun
      generalize hs1 : removeFromQueue { s with
        tasks := s.tasks.insert t { info with realtime := some (RealTimeTask.new params s.currentTicks) } } t = s1
      have hq := queued_enqueueRunnable s1 t
      refine ⟨fun a => ?_, .inr ⟨htask.trans (congrArg some hrun.1), fun a => ?_⟩⟩
      · rw [hq.taskState, ← hs1]
        exact hstate _ a
      · have hplaces : s1.places a = if t = a then 0 else s.places a := by
          rw [← hs1, places, places, ← occupancy_remove, if_neg hrun.2]
          rfl
        rw [hq.places, hplaces]
        split <;> rfl
    · exact ⟨hstate _, .inl fun _ => rfl⟩

/-! ## Calls -/

namespace Call

def enqueues (t : TaskId) : Call → Bool
  | .enqueue a => a = t
  | _ => false

def putsToSleep (t : TaskId) : Call → Bool
  | .blockTask a _ => a = t
  | _ => false

def unblocks (t : TaskId) : Call → Bool
  | .unblockTask a => a = t
  | _ => false

def wakesUpTo (s : Scheduler) : Call → Option Nat
  | .onTickAdvanced _ deltaTicks => some (s.currentTicks + deltaTicks)
  | .wakeReadyTasks _ => some s.currentTicks
  | _ => none

def stops (t : TaskId) : Call → Option TaskState
  | .blockTask a wakeTick => if a = t then some (.blocked wakeTick) else none
  | .exitTask a => if a = t then some .exited else none
  | .cancelTask a => if a = t then some .cancelled else none
  | _ => none

end Call

inductive Fate (s : Scheduler) (call : Call) (s' : Scheduler) (a : TaskId) : Prop
  | kept (state : s'.taskState a = s.taskState a) (places : s'.places a ≤ s.places a)
  | enqueued (call : call.enqueues a = true) (state : s'.taskState a = some .runnable)
  | woken (call : call.unblocks a = true ∨ ∃ now ∈ call.wakesUpTo s, s.Due now a)
      (asleep : ∃ wakeTick, s.taskState a = some (.blocked wakeTick)) (state : s'.taskState a = some .runnable)
  | ran (before : s.taskState a = some .runnable)
      (state : s'.taskState a = some .runnable ∨ ∃ wakeTick, s'.taskState a = some (.blocked wakeTick))
  | stopped {state : TaskState} (call : call.stops a = some state)
      (state : s'.taskState a = (s.taskState a).map fun _ => state) (places : s'.places a = 0)

variable {call : Call}

theorem count_le_places (s : Scheduler) (a) : s.runQueue.count a ≤ s.places a := le_add_right _ _

theorem Woken.fate (h : Woken called s s') (a)
    (hcall : called a → call.unblocks a = true ∨ ∃ now ∈ call.wakesUpTo s, s.Due now a) : Fate s call s' a := by
  obtain ⟨hstate, hplaces⟩ | ⟨hasleep, hstate, -, ha⟩ := h.task a
  · exact .kept hstate hplaces.le
  · exact .woken (hcall ha) hasleep hstate

theorem Stopped.fate {state} (h : Stopped s t state s') (hcall : call.stops t = some state) (a) : Fate s call s' a := by
  have hstate := h.taskState a
  have hplaces := h.places a
  by_cases ha : t = a
  · subst ha
    exact .stopped hcall (hstate.trans (if_pos rfl)) (hplaces.trans (if_pos rfl))
  · exact .kept (hstate.trans (if_neg ha)) (hplaces.trans (if_neg ha)).le

theorem Preempted.fate (h : Preempted s t s') (a) : Fate s call s' a := by
  cases h with
  | requeued _ hstate hplaces => exact .kept (hstate a) (hplaces a).le
  | slept hrunnable wakeTick hstate hplaces =>
    by_cases ha : t = a
    · subst ha
      exact .ran hrunnable (.inr ⟨wakeTick, (hstate t).trans (if_pos rfl)⟩)
    · exact .kept ((hstate a).trans (if_neg ha)) ((hplaces a).trans_le (count_le_places s a))
  | dropped _ hstate hplaces => exact .kept (hstate a) ((hplaces a).trans_le (count_le_places s a))

theorem step_fate {answer} (hs : machine.step s call = some (answer, s')) (a) : Fate s call s' a := by
  cases call with
  | enqueue t =>
    cases hs
    have hstate := taskState_enqueue s t a
    have hplaces := places_enqueue s t a
    by_cases ha : t = a
    · exact .enqueued (decide_eq_true ha) (hstate.trans (if_pos ha))
    · rw [if_neg ha] at hstate hplaces
      exact .kept hstate hplaces.le
  | dequeueNext =>
    cases hs
    have hd := dequeued_dequeueNext s
    exact .kept (hd.taskState a) ((hd.places a).trans_le (count_le_places s a))
  | onTickAdvanced order deltaTicks =>
    obtain ⟨s1, htick, ⟨⟩⟩ := bind_eq_some_iff.mp hs
    have hwoken := woken_onTickAdvanced htick
    obtain ⟨hstate, hplaces⟩ | ⟨hasleep, hstate, -, hdue⟩ := hwoken.task a
    · exact .kept hstate hplaces.le
    · exact .woken (.inr ⟨_, rfl, hdue⟩) hasleep hstate
  | wakeReadyTasks order =>
    cases hs
    exact (woken_wakeReadyTasks s order).fate a fun hdue => .inr ⟨_, rfl, hdue⟩
  | setRealTimeParams t params =>
    cases hs
    obtain ⟨hstate, hplaces | ⟨hrunnable, hplaces⟩⟩ := setRealTimeParams_spec s t params
    · exact .kept (hstate a) (hplaces a).le
    · by_cases ha : t = a
      · subst ha
        exact .ran hrunnable (.inl ((hstate t).trans hrunnable))
      · exact .kept (hstate a) ((hplaces a).trans (if_neg ha)).le
  | preemptCurrent =>
    cases hs
    cases hcurrent : s.currentTask with
    | none =>
      rw [preemptCurrent_of_none hcurrent]
      exact .kept rfl (le_refl _)
    | some t => exact (preempted_preemptCurrent hcurrent).1.fate a
  | blockTask t wakeTick =>
    cases hs
    exact (stopped_blockTask s t wakeTick).fate (by simp [Call.stops]) a
  | unblockTask t =>
    cases hs
    exact (woken_unblockTask s t).fate a fun ha => .inl (decide_eq_true ha.symm)
  | exitTask t =>
    cases hs
    exact (stopped_exitTask s t).fate (by simp [Call.stops]) a
  | cancelTask t =>
    cases hs
    exact (stopped_cancelTask s t).fate (by simp [Call.stops]) a

end PandaGen.Kernel.Scheduler
