import PandaGen.Kernel.Lemmas.Scheduler

/-!
# Tasks that are dead, asleep or due
-/

namespace PandaGen.Kernel.Scheduler

open Lib Option List

variable {s s' : Scheduler} {t : TaskId} {call : Call}

/-! ## The task with the earliest deadline runs next -/

variable {queue : List TaskId}

/-- The task comes before the others of the queue: by its deadline, or as the first where none has one. -/
structure Precedes (s : Scheduler) (pre : List TaskId) (t : TaskId) (post : List TaskId) : Prop where
  before : ∀ d ∈ s.taskDeadline t, ∀ a ∈ pre, ∀ d' ∈ s.taskDeadline a, d < d'
  after : ∀ d ∈ s.taskDeadline t, ∀ a ∈ post, ∀ d' ∈ s.taskDeadline a, d ≤ d'
  plain : s.taskDeadline t = none → pre = [] ∧ ∀ a ∈ post, s.taskDeadline a = none

theorem dequeueEarliestDeadline_precedes (hmax : ∀ a ∈ s.runQueue, ∀ d ∈ s.taskDeadline a, d < 2 ^ 64 - 1)
    (h : dequeueEarliestDeadline s.taskDeadline s.runQueue = some (t, queue)) :
    ∃ pre post, s.runQueue = pre ++ t :: post ∧ queue = pre ++ post ∧ s.Precedes pre t post := by
  have hbest := best_foldl s.taskDeadline s.runQueue
  rw [dequeueEarliestDeadline] at h
  split at h
  · rename_i i hi
    obtain ⟨pre, t', post, hqueue, rfl, hd, hpre⟩ := hbest.first i hi
    simp only [hqueue, getElem?_append_right (Nat.le_refl _), Nat.sub_self, getElem?_cons_zero,
      Option.map_some, eraseIdx_append_of_length_le (Nat.le_refl _), eraseIdx_cons_zero] at h
    cases h
    refine ⟨pre, post, hqueue, rfl, ?_, ?_, fun hnone => by cases hnone.symm.trans hd⟩
    · intro d hd'
      cases hd.symm.trans hd'
      exact hpre
    · intro d hd' a ha
      cases hd.symm.trans hd'
      exact hbest.le a (hqueue ▸ mem_append_right pre (mem_cons_of_mem t ha))
  · rename_i hi
    -- no deadline is below the limit of the search, so no task has one
    have hnone (a) (ha : a ∈ s.runQueue) : s.taskDeadline a = none := by
      refine Option.eq_none_iff_forall_not_mem.mpr fun d hd => ?_
      have hle := hbest.le a ha d hd
      rw [hbest.limit hi] at hle
      exact Nat.not_le_of_lt (hmax a ha d hd) hle
    cases hqueue : s.runQueue with
    | nil => rw [hqueue] at h; cases h
    | cons t' post =>
      rw [hqueue] at h hnone
      cases h
      have ht := hnone t mem_cons_self
      refine ⟨[], queue, rfl, rfl, ?_, ?_, fun _ => ⟨rfl, fun a ha => hnone a (mem_cons_of_mem t ha)⟩⟩
      · exact fun d hd => by cases ht.symm.trans hd
      · exact fun d hd => by cases ht.symm.trans hd

theorem dequeueNext_earliest {s : Scheduler} (hpolicy : s.config.realtimePolicy = .earliestDeadlineFirst)
    (hmax : ∀ a ∈ s.runQueue, ∀ d ∈ s.taskDeadline a, d < 2 ^ 64 - 1) : (s.dequeueNext.1 = none ↔ s.runQueue = []) ∧
      ∀ t, s.dequeueNext.1 = some t → ∃ pre post,
        s.runQueue = pre ++ t :: post ∧ s.dequeueNext.2.runQueue = pre ++ post ∧ s.Precedes pre t post := by
  have hnext : s.nextTask = dequeueEarliestDeadline s.taskDeadline s.runQueue := by rw [nextTask, hpolicy]
  rw [dequeueNext]
  cases h : s.nextTask with
  | none => exact ⟨iff_of_true rfl (nextTask_eq_none h), by simp⟩
  | some e =>
    obtain ⟨pre, post, hqueue, hleft, hfirst⟩ := dequeueEarliestDeadline_precedes hmax (hnext.symm.trans h)
    refine ⟨iff_of_false (by simp) (by simp [hqueue]), ?_⟩
    rintro _ ⟨⟩
    exact ⟨pre, post, hqueue, hleft, hfirst⟩

theorem dequeueNext_earliest_behind :
    let s := (((withConfig ⟨10, .earliestDeadlineFirst⟩).enqueue ⟨1⟩).enqueue ⟨2⟩).setRealTimeParams ⟨2⟩ ⟨9, 3⟩
    s.2.runQueue = [⟨1⟩, ⟨2⟩] ∧ s.2.dequeueNext.1 = some ⟨2⟩ ∧ ∃ pre post,
      s.2.runQueue = pre ++ ⟨2⟩ :: post ∧ s.2.dequeueNext.2.runQueue = pre ++ post ∧ s.2.Precedes pre ⟨2⟩ post :=
  ⟨by decide +kernel, by decide +kernel,
    (dequeueNext_earliest rfl (by decide +kernel)).2 ⟨2⟩ (by decide +kernel)⟩

/-! ## Sleepers wake on time -/

variable {wakeTick : Nat}

def LetsSleep (t : TaskId) (wakeTick : Nat) (s : Scheduler) (call : Call) : Prop :=
  call.enqueues t = false ∧ call.unblocks t = false ∧ call.stops t = none ∧ ∀ now ∈ call.wakesUpTo s, now < wakeTick

instance (t : TaskId) (wakeTick : Nat) (s : Scheduler) (call : Call) : Decidable (LetsSleep t wakeTick s call) :=
  inferInstanceAs (Decidable (_ ∧ _ ∧ _ ∧ _))

structure Asleep (s : Scheduler) (t : TaskId) (wakeTick : Nat) : Prop where
  state : s.taskState t = some (.blocked wakeTick)
  places : s.places t = 0

theorem Asleep.due_iff (h : s.Asleep t wakeTick) {now} : s.Due now t ↔ wakeTick ≤ now := by
  simp [Due, h.state]

theorem Asleep.step {answer} (h : s.Asleep t wakeTick) (hs : machine.step s call = some (answer, s'))
    (hl : LetsSleep t wakeTick s call) : s'.Asleep t wakeTick := by
  obtain ⟨henqueues, hunblocks, hstops, hwakes⟩ := hl
  cases step_fate hs t with
  | kept hstate hplaces => exact ⟨hstate.trans h.state, Nat.le_zero.mp (hplaces.trans h.places.le)⟩
  | enqueued hcall => cases henqueues.symm.trans hcall
  | woken hcall =>
    obtain hcall | ⟨now, hnow, hdue⟩ := hcall
    · cases hunblocks.symm.trans hcall
    · exact absurd (h.due_iff.mp hdue) (Nat.not_le_of_lt (hwakes now hnow))
  | ran hstate => cases hstate.symm.trans h.state
  | stopped hcall => cases hstops.symm.trans hcall

/-- A task that sleeps and has no place keeps sleeping until the first advance that reaches its tick. -/
theorem sleeper_wakes {s s' s'' : Scheduler} {t : TaskId} {wakeTick : Nat} {tr : List (Call × Answer)}
    (hstate : s.taskState t = some (.blocked wakeTick)) (hplace : t ∉ s.runQueue ∧ s.currentTask ≠ some t)
    (hrun : machine.Run (fun s call _ => LetsSleep t wakeTick s call) s tr s') {order : HashOrder TaskId}
    {deltaTicks : Nat} (htick : s'.onTickAdvanced order deltaTicks = some s'') :
    (s''.currentTicks < wakeTick → s''.taskState t = some (.blocked wakeTick) ∧ t ∉ s''.runQueue) ∧
    (wakeTick ≤ s''.currentTicks → s''.taskState t = some .runnable ∧ s''.runQueue.count t = 1) := by
  have h : s'.Asleep t wakeTick := hrun.invariantTrace (P := fun _ s => s.Asleep t wakeTick)
    (fun _ _ _ _ _ h hs hl => h.step hs hl) [] ⟨hstate, occupancy_eq_zero.mpr hplace⟩
  have hwoken := woken_onTickAdvanced htick
  rw [hwoken.currentTicks]
  refine ⟨fun hlt => ?_, fun hle => ?_⟩
  · obtain ⟨hstate, hplaces⟩ | ⟨-, -, -, hdue⟩ := hwoken.task t
    · exact ⟨hstate.trans h.state, (occupancy_eq_zero.mp (hplaces.trans h.places)).1⟩
    · exact absurd (h.due_iff.mp hdue) (Nat.not_le_of_lt hlt)
  · have hawake := hwoken.awake t wakeTick (h.due_iff.mpr hle)
    obtain ⟨hstate, -⟩ | ⟨-, hstate, hplaces, -⟩ := hwoken.task t
    · exact absurd (hstate.trans h.state) hawake
    · have hone : s''.places t = 1 := hplaces.trans (congrArg (· + 1) h.places)
      have hcurrent : s''.currentTask ≠ some t := hwoken.currentTask ▸ (occupancy_eq_zero.mp h.places).2
      obtain ⟨hcurrent', -⟩ | ⟨-, hcount⟩ := occupancy_eq_one.mp hone
      · exact absurd hcurrent' hcurrent
      · exact ⟨hstate, hcount⟩

theorem sleeper_wakes_at_six : ∃ tr s' s'', machine.Run (fun s call _ => LetsSleep ⟨1⟩ 5 s call)
    (((new.enqueue ⟨1⟩).enqueue ⟨2⟩).blockTask ⟨1⟩ 5) tr s' ∧ s'.currentTicks = 3 ∧
    s'.onTickAdvanced .listed 3 = some s'' ∧ s''.taskState ⟨1⟩ = some .runnable ∧ s''.runQueue.count ⟨1⟩ = 1 := by
  obtain ⟨tr, s', hrun, hticks, hsix⟩ : ∃ tr s', machine.Run (fun s call _ => LetsSleep ⟨1⟩ 5 s call)
      (((new.enqueue ⟨1⟩).enqueue ⟨2⟩).blockTask ⟨1⟩ 5) tr s' ∧ s'.currentTicks = 3 ∧
      (s'.onTickAdvanced .listed 3).map Scheduler.currentTicks = some 6 :=
    Machine.exists_run [.dequeueNext, .onTickAdvanced .listed 3, .preemptCurrent] (by decide +kernel)
  obtain ⟨s'', htick, hnow⟩ := Option.map_eq_some_iff.mp hsix
  exact ⟨tr, s', s'', hrun, hticks, htick,
    (sleeper_wakes (by decide +kernel) (by decide +kernel) hrun htick).2 (by rw [hnow]; decide)⟩

/-- A task that is enqueued twice uses up its real-time budget. It sleeps, and its other place stays. -/
theorem exhausted_task_queued : ∃ tr s, machine.FreeRun new tr s ∧
    s.taskState ⟨1⟩ = some (.blocked 9) ∧ (s.onTickAdvanced .listed 1).map (fun s' =>
      (s'.currentTicks, s'.taskState ⟨1⟩, s'.runQueue)) = some (2, some (.blocked 9), [⟨1⟩]) :=
  Machine.exists_run [.enqueue ⟨1⟩, .enqueue ⟨1⟩, .dequeueNext, .setRealTimeParams ⟨1⟩ ⟨9, 1⟩,
    .onTickAdvanced .listed 1, .preemptCurrent] (by decide +kernel)

/-! ## Dead tasks -/

def Dead (s : Scheduler) (t : TaskId) : Prop := s.taskState t = some .exited ∨ s.taskState t = some .cancelled

instance (s : Scheduler) (t : TaskId) : Decidable (s.Dead t) :=
  inferInstanceAs (Decidable (s.taskState t = some .exited ∨ s.taskState t = some .cancelled))

theorem Dead.congr (h : s'.taskState t = s.taskState t) : s'.Dead t ↔ s.Dead t := by
  rw [Dead, Dead, h]

theorem not_dead_of_runnable (h : s.taskState t = some .runnable) : ¬ s.Dead t := by
  simp [Dead, h]

theorem not_dead_of_blocked {wakeTick} (h : s.taskState t = some (.blocked wakeTick)) : ¬ s.Dead t := by
  simp [Dead, h]

def DeadUnplaced (s : Scheduler) : Prop := ∀ a, s.Dead a → s.places a = 0

theorem DeadUnplaced.step {answer} (h : s.DeadUnplaced) (hs : machine.step s call = some (answer, s')) :
    s'.DeadUnplaced := by
  intro a hd
  cases step_fate hs a with
  | kept hstate hplaces =>
    have := h a ((Dead.congr hstate).mp hd)
    omega
  | enqueued _ hstate | woken _ _ hstate => exact absurd hd (not_dead_of_runnable hstate)
  | ran _ hstate =>
    obtain hstate | ⟨wakeTick, hstate⟩ := hstate
    · exact absurd hd (not_dead_of_runnable hstate)
    · exact absurd hd (not_dead_of_blocked hstate)
  | stopped _ _ hplaces => exact hplaces

def LeavesDead (t : TaskId) (call : Call) : Prop := call.enqueues t = false ∧ call.putsToSleep t = false

instance (t : TaskId) (call : Call) : Decidable (LeavesDead t call) :=
  inferInstanceAs (Decidable (call.enqueues t = false ∧ call.putsToSleep t = false))

theorem Dead.step {answer} (hd : s.Dead t) (hs : machine.step s call = some (answer, s')) (hl : LeavesDead t call) :
    s'.Dead t := by
  cases step_fate hs t with
  | kept hstate => exact (Dead.congr hstate).mpr hd
  | enqueued hcall => exact absurd hcall (by simp [hl.1])
  | woken _ hasleep =>
    obtain ⟨wakeTick, hstate⟩ := hasleep
    exact absurd hd (not_dead_of_blocked hstate)
  | ran hstate => exact absurd hd (not_dead_of_runnable hstate)
  | stopped hcall hstate =>
    obtain ⟨state, hsome⟩ : ∃ state, s.taskState t = some state := hd.elim (fun h => ⟨_, h⟩) fun h => ⟨_, h⟩
    rw [hsome, map_some] at hstate
    rw [Dead, hstate]
    cases call with
    | blockTask a => exact absurd hl.2 (by simpa [Call.putsToSleep] using (ite_none_right_eq_some.mp hcall).1)
    | exitTask | cancelTask =>
      obtain ⟨-, ⟨⟩⟩ := ite_none_right_eq_some.mp hcall
      simp
    | _ => cases hcall

theorem not_dequeued_of_dead (h : s.DeadUnplaced) (hd : s.Dead t) :
    machine.step s call ≠ some (.dequeued (some t), s') := by
  intro hs
  have hnext : s.dequeueNext.1 = some t := by
    cases call with
    | dequeueNext =>
      simp only [machine, some.injEq, Prod.mk.injEq, Answer.dequeued.injEq] at hs
      exact hs.1
    | onTickAdvanced order deltaTicks =>
      obtain ⟨s1, -, ⟨⟩⟩ := bind_eq_some_iff.mp hs
    | _ => cases hs
  have hmem := (dequeued_dequeueNext s).mem t hnext
  exact (occupancy_pos_of_mem hmem).ne' (h t hd)

theorem deadUnplaced_withConfig (config) : (withConfig config).DeadUnplaced := by
  intro a _
  simp [places, withConfig, occupancy]

/-- A task that has exited or was cancelled stays so and is never selected, as long as it is not enqueued again
and nothing puts it to sleep. -/
theorem dead_stays_dead {config : SchedulerConfig} {tr tr' : List (Call × Answer)} {s s' : Scheduler} {t : TaskId}
    (h : machine.FreeRun (withConfig config) tr s) (hd : s.Dead t)
    (h' : machine.Run (fun _ call _ => LeavesDead t call) s tr' s') :
    s'.Dead t ∧ ∀ call, (call, Answer.dequeued (some t)) ∉ tr' := by
  have hinv : s.DeadUnplaced :=
    h.invariantTrace (P := fun _ s => s.DeadUnplaced) (fun _ _ _ _ _ hu hs _ => hu.step hs) []
      (deadUnplaced_withConfig config)
  let P (tr : List (Call × Answer)) (s : Scheduler) : Prop :=
    s.DeadUnplaced ∧ s.Dead t ∧ ∀ call, (call, Answer.dequeued (some t)) ∉ tr
  have hstep : ∀ tr s call answer s', P tr s → machine.step s call = some (answer, s') → LeavesDead t call →
      P (tr ++ [(call, answer)]) s' := by
    intro tr s call answer s' hP hs hl
    obtain ⟨hu, hd, hnever⟩ := hP
    refine ⟨hu.step hs, hd.step hs hl, ?_⟩
    intro call' hmem
    cases List.mem_append.mp hmem with
    | inl hbefore => exact hnever call' hbefore
    | inr hnow =>
      cases List.mem_singleton.mp hnow
      exact not_dequeued_of_dead hu hd hs
  have := h'.invariantTrace (P := P) hstep [] ⟨hinv, hd, fun _ => List.not_mem_nil⟩
  exact this.2

theorem dead_stays_dead_cancelled_asleep : ∃ tr s tr' s', machine.FreeRun new tr s ∧ s.Dead ⟨1⟩ ∧
      machine.Run (fun _ call _ => LeavesDead ⟨1⟩ call) s tr' s' ∧ s'.currentTicks = 10 ∧
      s'.Dead ⟨1⟩ ∧ ∀ call, (call, Answer.dequeued (some ⟨1⟩)) ∉ tr' := by
  obtain ⟨tr, s, hrun, hd, tr', s', hrun', hticks⟩ : ∃ tr s, machine.FreeRun new tr s ∧ s.Dead ⟨1⟩ ∧
      ∃ tr' s', machine.exec (fun _ call _ => decide (LeavesDead ⟨1⟩ call)) s
        [.dequeueNext, .onTickAdvanced .listed 10, .preemptCurrent, .unblockTask ⟨1⟩, .dequeueNext] = some (tr', s') ∧
      s'.currentTicks = 10 :=
    Machine.exists_run [.enqueue ⟨1⟩, .enqueue ⟨2⟩, .dequeueNext, .blockTask ⟨1⟩ 5, .cancelTask ⟨1⟩] (by decide +kernel)
  have hrun' := Machine.exec_guarded hrun'
  exact ⟨tr, s, tr', s', hrun, hd, hrun', hticks, dead_stays_dead hrun hd hrun'⟩

/-- A task that has exited is put to sleep; the clock makes it runnable and it is selected. -/
theorem exited_task_selected : ∃ tr s tr' s' s'',
    machine.FreeRun new tr s ∧ s.taskState ⟨1⟩ = some .exited ∧
      machine.Run (fun _ call _ => call.enqueues ⟨1⟩ = false) s tr' s' ∧ s'.taskState ⟨1⟩ = some .runnable ∧
      machine.step s' .dequeueNext = some (.dequeued (some ⟨1⟩), s'') := by
  obtain ⟨tr, s, hrun, hexited, tr', s', hrun', hrunnable, s'', hnext⟩ : ∃ tr s,
      machine.FreeRun new tr s ∧ s.taskState ⟨1⟩ = some .exited ∧
      ∃ tr' s', machine.exec (fun _ call _ => decide (call.enqueues ⟨1⟩ = false)) s
        [.blockTask ⟨1⟩ 0, .onTickAdvanced .listed 1] = some (tr', s') ∧ s'.taskState ⟨1⟩ = some .runnable ∧
      ∃ s'', machine.step s' .dequeueNext = some (.dequeued (some ⟨1⟩), s'') :=
    Machine.exists_run [.enqueue ⟨1⟩, .dequeueNext, .exitTask ⟨1⟩] (by decide +kernel)
  exact ⟨tr, s, tr', s', s'', hrun, hexited, Machine.exec_guarded hrun', hrunnable, hnext⟩

end PandaGen.Kernel.Scheduler
