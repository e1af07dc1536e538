import PandaGen.Kernel.Lemmas.Identity
import PandaGen.Kernel.Lemmas.OnePlace

/-!
# No runnable task is lost on one core
-/

namespace PandaGen.Kernel

open Lib Option Nat

namespace SimulatedKernel

open Scheduler

/-- There is one core. It knows no task but those drawn, each runnable task has one place, and a task whose
identity is cancelled does not run again. -/
structure OneCore (drawn : List TaskId) (k : SimulatedKernel) : Prop where
  smp : k.smp = none
  orderly : k.scheduler.Orderly
  known : ∀ a, a ∉ drawn → k.scheduler.taskState a = none
  spent : ∀ (t : TaskId) e, k.taskToIdentity[t]? = some e → e ∈ k.cancelledIdentities → ¬ k.scheduler.Live t

variable {drawn : List TaskId} {executions : List ExecutionId} {k k' : SimulatedKernel}

section

variable (h : OneCore drawn k)
include h

theorem OneCore.of_tame (hsmp : k'.smp = k.smp) (horderly : k'.scheduler.Orderly)
    (htame : Tame k.scheduler k'.scheduler)
    (hidentity : ∀ (t : TaskId) e, k'.taskToIdentity[t]? = some e → k.taskToIdentity[t]? = some e)
    (hcancelled : k'.cancelledIdentities = k.cancelledIdentities) : OneCore drawn k' where
  smp := hsmp.trans h.smp
  orderly := horderly
  known a ha := htame.known a (h.known a ha)
  spent t e ht he hlive := h.spent t e (hidentity t e ht) (hcancelled ▸ he) (htame.live t hlive)

theorem OneCore.congr (hsmp : k'.smp = k.smp) (hscheduler : k'.scheduler = k.scheduler)
    (hidentity : k'.taskToIdentity = k.taskToIdentity)
    (hcancelled : k'.cancelledIdentities = k.cancelledIdentities) : OneCore drawn k' :=
  h.of_tame hsmp (hscheduler ▸ h.orderly) (tame_of_taskState fun _ => by rw [hscheduler])
    (fun t e ht => by rwa [hidentity] at ht) hcancelled

theorem OneCore.of_untouched (hu : Untouched k k') : OneCore drawn k' :=
  h.congr hu.smp hu.scheduler hu.taskToIdentity hu.cancelledIdentities

/-! ## Calls -/

theorem OneCore.of_advanced (ha : Advanced k k') : OneCore drawn k' := by
  obtain ⟨order, ticks, hticks⟩ := ha.scheduler
  exact h.of_tame ha.smp (h.orderly.onTickAdvanced hticks) { (woken_onTickAdvanced hticks).tame with }
    (fun t e ht => by rwa [ha.taskToIdentity] at ht) ha.cancelledIdentities

theorem OneCore.yieldNow : OneCore drawn k.yieldNow ∧ k.yieldNow.scheduler.currentTask = none := by
  obtain ⟨horderly, hnone⟩ := h.orderly.preemptCurrent
  exact ⟨h.of_tame rfl horderly (tame_preemptCurrent k.scheduler) (fun _ _ ht => ht) rfl, hnone⟩

theorem OneCore.blockCurrent (wakeTick) : OneCore drawn (k.blockCurrent wakeTick) := by
  rw [SimulatedKernel.blockCurrent]
  split
  · rename_i t ht
    have hlive : k.scheduler.Live t := .inl (h.orderly.runnable_of_current ht)
    exact h.of_tame rfl (h.orderly.blockTask t wakeTick) ((stopped_blockTask _ t wakeTick).tame (.inl hlive))
      (fun _ _ ht => ht) rfl
  · exact h

theorem OneCore.terminateTaskWithReason (orders t reason) :
    OneCore drawn (k.terminateTaskWithReason orders t reason) := by
  obtain ⟨_, _, _, heq, -⟩ := terminateTaskWithReason_parts k orders t reason
  have hexit : k.exitTask t reason = { k with scheduler := k.scheduler.exitTask t } := by
    rw [SimulatedKernel.exitTask, h.smp]
  rw [heq, hexit]
  have hstopped := stopped_exitTask k.scheduler t
  refine h.of_tame rfl (h.orderly.exitTask t) ?_ ?_ rfl
  · exact hstopped.tame (.inr (hstopped.not_live (.inl rfl)))
  · intro u e hu
    rw [BTreeMap.getElem?_erase] at hu
    split at hu
    · cases hu
    · exact hu

theorem OneCore.admitTask (hid : Identified executions k) {ids d i}
    (hspawned : k.admitTask ids d i = some k') (htask : ids.task ∉ drawn) (hexecution : ids.execution ∉ executions) :
    OneCore (ids.task :: drawn) k' := by
  obtain ⟨k1, _, _, henqueue, -, rfl⟩ := admitTask_parts hspawned
  rw [enqueueTask, h.smp] at henqueue
  cases henqueue
  have hstate : ∀ a, ids.task ≠ a → (k.scheduler.enqueue ids.task).taskState a = k.scheduler.taskState a := by
    intro a ha
    exact (taskState_enqueue k.scheduler ids.task a).trans (if_neg ha)
  constructor
  case smp => rfl
  case orderly => exact h.orderly.enqueue (h.known _ htask)
  case known =>
    intro a ha
    rw [List.mem_cons, not_or] at ha
    exact (hstate a (Ne.symm ha.1)).trans (h.known a ha.2)
  case spent =>
    intro t e ht he hlive
    rw [BTreeMap.getElem?_insert] at ht
    split at ht
    · cases ht
      exact hexecution (hid.cancelled _ he)
    · rename_i hne
      rw [Live, hstate t hne] at hlive
      exact h.spent t e ht he hlive

theorem OneCore.cancelIdentity (hid : Identified executions k) (orders e reason) :
    OneCore drawn (k.cancelIdentity orders e reason) ∧
      (∀ t : TaskId, k.taskToIdentity[t]? = some e → ¬ (k.cancelIdentity orders e reason).scheduler.Live t) ∧
      ∀ a ∈ (k.cancelIdentity orders e reason).scheduler.currentTask, a ∈ k.scheduler.currentTask := by
  obtain ⟨k1, _, hparts, hschedule⟩ := cancelIdentity_parts k orders e reason
  -- the scheduler is in order, and the task of the identity is gone
  obtain ⟨hsmp, horderly, htame, hgone, hcurrent⟩ : k1.smp = k.smp ∧ k1.scheduler.Orderly ∧
      Tame k.scheduler k1.scheduler ∧ (∀ t : TaskId, k.taskToIdentity[t]? = some e → ¬ k1.scheduler.Live t) ∧
      ∀ a ∈ k1.scheduler.currentTask, a ∈ k.scheduler.currentTask := by
    obtain ⟨t, ht, rfl⟩ | ⟨hnone, rfl⟩ := hschedule
    · have hstopped := stopped_cancelTask k.scheduler t
      have hnot := hstopped.not_live (.inr rfl)
      rw [cancelTask, h.smp]
      refine ⟨rfl, h.orderly.cancelTask t, hstopped.tame (.inr hnot), ?_, ?_⟩
      · intro u hu
        exact hid.distinct t u e ht hu ▸ hnot
      · intro a ha
        rw [hstopped.currentTask] at ha
        split at ha
        · cases ha
        · exact ha
    · exact ⟨rfl, h.orderly, tame_of_taskState fun _ => rfl, fun t ht => absurd ht (hnone t), fun _ ha => ha⟩
  rw [hparts]
  refine ⟨⟨hsmp.trans h.smp, horderly, fun a ha => htame.known a (h.known a ha), ?_⟩, hgone, hcurrent⟩
  intro t e' ht he
  rw [Std.ExtTreeMap.mem_insert, Std.LawfulEqOrd.compare_eq_iff_eq] at he
  obtain rfl | he := he
  · exact hgone t ht
  · exact fun hlive => h.spent t e' ht he (htame.live t hlive)

/-! ## The run loops -/

structure Executing (drawn : List TaskId) (executions : List ExecutionId) (t : TaskId)
    (k : SimulatedKernel) : Prop where
  core : OneCore drawn k
  identified : Identified executions k
  current : ∀ a ∈ k.scheduler.currentTask, a = t

variable {orders : HashOrders} {t : TaskId}

omit h in
theorem Executing.chargeCpu (h : Executing drawn executions t k) {ticks failed}
    (hk : k.chargeCpu orders t ticks = some (failed, k')) :
    Executing drawn executions t k' ∧ (failed = true → k'.isRunnable t = false) := by
  have hid := (runRule_identified executions).loopRule.charge hk h.identified
  obtain ⟨rfl, hu⟩ | ⟨rfl, e, he, ⟨hcancelled, rfl⟩ | ⟨k1, reason, hu, rfl⟩⟩ := chargeCpu_cases hk
  · exact ⟨⟨h.core.of_untouched hu, hid, hu.scheduler ▸ h.current⟩, fun hfailed => nomatch hfailed⟩
  · exact ⟨h, fun _ => decide_eq_false fun hrunnable => h.core.spent t e he hcancelled (.inl hrunnable)⟩
  · obtain ⟨hcore, hgone, hcurrent⟩ :=
      (h.core.of_untouched hu).cancelIdentity (h.identified.of_untouched hu) orders e reason
    rw [hu.scheduler] at hcurrent
    rw [hu.taskToIdentity] at hgone
    exact ⟨⟨hcore, hid, fun a ha => h.current a (hcurrent a ha)⟩,
      fun _ => decide_eq_false fun hrunnable => hgone t he (.inl hrunnable)⟩

omit h in
theorem Executing.executeTick (h : Executing drawn executions t k) {n failed}
    (hk : k.executeTick orders t = some (n, failed, k')) :
    Executing drawn executions t k' ∧ (failed = true → k'.isRunnable t = false) := by
  obtain ⟨k1, hadvance, hk⟩ := bind_eq_some_iff.mp hk
  obtain ⟨⟨failed, k2⟩, hcharge, ⟨⟩⟩ := bind_eq_some_iff.mp hk
  have ha := advanced_advanceTime hadvance
  obtain ⟨order, ticks, hticks⟩ := ha.scheduler
  have h1 : Executing drawn executions t k1 := by
    refine ⟨h.core.of_advanced ha, (runRule_identified executions).advance hadvance h.identified, ?_⟩
    rw [(woken_onTickAdvanced hticks).currentTask]
    exact h.current
  exact h1.chargeCpu hcharge

omit h in
theorem Executing.current_eq_none (h : Executing drawn executions t k) (hrunnable : k.isRunnable t = false) :
    k.scheduler.currentTask = none := by
  cases hcurrent : k.scheduler.currentTask with
  | none => rfl
  | some a =>
    cases h.current a hcurrent
    exact absurd (h.core.orderly.runnable_of_current hcurrent) (of_decide_eq_false hrunnable)

theorem OneCore.dequeueNext (hid : Identified executions k)
    (hcurrent : k.scheduler.currentTask = none) {next} (hk : k.dequeueNext = (next, k')) :
    OneCore drawn k' ∧ Identified executions k' ∧ k'.scheduler.currentTask = next := by
  obtain rfl : k.scheduler.dequeueNext.1 = next := congrArg Prod.fst hk
  obtain rfl : { k with scheduler := k.scheduler.dequeueNext.2 } = k' := congrArg Prod.snd hk
  have hd := dequeued_dequeueNext k.scheduler
  exact ⟨h.of_tame rfl (h.orderly.dequeueNext hcurrent) (tame_of_taskState hd.taskState) (fun _ _ ht => ht) rfl,
    hid.congr (fun _ => .rfl) rfl rfl, hd.currentTask⟩

theorem executing_of_dequeueNext (hid : Identified executions k)
    (hcurrent : k.scheduler.currentTask = none) (hk : k.dequeueNext = (some t, k')) :
    Executing drawn executions t k' := by
  obtain ⟨h', hid', hcurrent'⟩ := h.dequeueNext hid hcurrent hk
  refine ⟨h', hid', fun a ha => ?_⟩
  rw [hcurrent'] at ha
  exact (some.inj ha).symm

omit h in
theorem Executing.runQuantum (h : Executing drawn executions t k) {quantum ticks fuel n taskTicks consumed}
    (hk : runQuantum orders t quantum ticks fuel n k = some ((taskTicks, consumed), k')) :
    Executing drawn executions t k' ∧ (k'.isRunnable t = true → quantum ≤ taskTicks ∨ ticks ≤ consumed) := by
  induction fuel generalizing n k with
  | zero => cases hk
  | succ fuel ih =>
    rw [SimulatedKernel.runQuantum] at hk
    split at hk
    · obtain ⟨⟨advanced, failed, k1⟩, htick, hk⟩ := bind_eq_some_iff.mp hk
      obtain ⟨h1, hfailed⟩ := h.executeTick htick
      dsimp only at hk
      split at hk
      · rename_i hf
        cases hk
        exact ⟨h1, fun hrunnable => by cases (hfailed hf).symm.trans hrunnable⟩
      · exact ih h1 hk
    · rename_i hend
      cases hk
      refine ⟨h, fun hrunnable => ?_⟩
      by_contra hleft
      rw [not_or, not_le, not_le] at hleft
      exact hend ⟨hleft.1, hleft.2, hrunnable⟩

theorem OneCore.runForTicksLoop (hid : Identified executions k) {ticks fuel rounds n n'}
    (hcurrent : n.2 < ticks → k.scheduler.hasRunnableTasks = true → k.scheduler.currentTask = none)
    (hk : runForTicksLoop orders ticks fuel rounds n k = some (n', k')) : OneCore drawn k' := by
  induction rounds generalizing n k with
  | zero => cases hk
  | succ rounds ih =>
    rw [SimulatedKernel.runForTicksLoop] at hk
    split at hk
    · rename_i hmore
      have hidle := hcurrent hmore.1 hmore.2
      split at hk
      · rename_i t k1 hnext
        obtain ⟨⟨⟨taskTicks, consumed1⟩, k2⟩, hquantum, hk⟩ := bind_eq_some_iff.mp hk
        obtain ⟨h2, hdone⟩ := (executing_of_dequeueNext h hid hidle hnext).runQuantum hquantum
        dsimp only at hk
        split at hk
        · obtain ⟨h3, hnone⟩ := h2.core.yieldNow
          exact ih h3 (h2.identified.congr (fun _ => .rfl) rfl rfl) (fun _ _ => hnone) hk
        · rename_i hyield
          refine ih h2.core h2.identified (fun hleft _ => h2.current_eq_none ?_) hk
          -- the quantum is not over, so the task stopped for another reason
          rw [Bool.eq_false_iff]
          intro hrunnable
          cases hdone hrunnable with
          | inl hquantum => exact hyield ⟨hrunnable, hquantum⟩
          | inr hticks => exact absurd hleft (not_lt.mpr hticks)
      · rename_i k1 hnext
        cases hk
        exact (h.dequeueNext hid hidle hnext).1
    · cases hk
      exact h

theorem OneCore.runForStepsLoop (hid : Identified executions k) {steps n n'}
    (hcurrent : 0 < steps → k.scheduler.hasRunnableTasks = true → k.scheduler.currentTask = none)
    (hk : runForStepsLoop orders steps n k = some (n', k')) : OneCore drawn k' := by
  induction steps generalizing n k with
  | zero =>
    cases hk
    exact h
  | succ steps ih =>
    rw [SimulatedKernel.runForStepsLoop] at hk
    split at hk
    · rename_i hmore
      have hidle := hcurrent (succ_pos steps) hmore
      split at hk
      · rename_i t k1 hnext
        obtain ⟨k2, hquantum, hk⟩ := bind_eq_some_iff.mp hk
        have h2 := stepQuantum_keeps (fun h htick => (h.executeTick htick).1)
          (executing_of_dequeueNext h hid hidle hnext) hquantum
        split at hk
        · obtain ⟨h3, hnone⟩ := h2.core.yieldNow
          exact ih h3 (h2.identified.congr (fun _ => .rfl) rfl rfl) (fun _ _ => hnone) hk
        · rename_i hstopped
          exact ih h2.core h2.identified (fun _ _ => h2.current_eq_none (Bool.eq_false_iff.mpr hstopped)) hk
      · rename_i k1 hnext
        obtain ⟨h1, hid1, hcurrent1⟩ := h.dequeueNext hid hidle hnext
        exact ih h1 hid1 (fun _ _ => hcurrent1) hk
    · cases hk
      exact h

end

end SimulatedKernel

namespace Session

open SimulatedKernel

def Call.runs : Call → Bool
  | .runForTicks _ _ ticks => 0 < ticks
  | .runForSteps _ steps => 0 < steps
  | _ => false

/-- A run does not select a task while another one is in the middle of its quantum. -/
def LetsFinish (w : Session) (call : Call) : Prop :=
  call.runs = true → w.kernel.scheduler.hasRunnableTasks = true → w.kernel.scheduler.currentTask = none

instance (w : Session) (call : Call) : Decidable (w.LetsFinish call) :=
  inferInstanceAs (Decidable (_ → _ → _))

theorem Effect.oneCore {k k' call answer} (h : Effect k call answer k') {drawn executions} (hk : OneCore drawn k)
    (hid : SimulatedKernel.Identified executions k)
    (hfresh : ∀ ids ∈ call.drawn, ids.task ∉ drawn ∧ ids.execution ∉ executions)
    (hfinish : call.runs = true → k.scheduler.hasRunnableTasks = true → k.scheduler.currentTask = none) :
    OneCore ((call.drawn.map SpawnIds.task).toList ++ drawn) k' := by
  have hmono : ∀ {k'}, OneCore drawn k' → OneCore ((call.drawn.map SpawnIds.task).toList ++ drawn) k' := by
    intro k' h'
    exact { h' with known := fun a ha => h'.known a fun hmem => ha (List.mem_append_right _ hmem) }
  cases h with
  | untouched h => exact hmono (hk.of_untouched h)
  | cancelled h => exact hmono ((hk.of_untouched h).cancelIdentity (hid.of_untouched h) _ _ _).1
  | identity | granted | dropped | revoked | accessGranted => exact hmono (hk.congr rfl rfl rfl rfl)
  | spawned hdrawn _ hspawned =>
    obtain ⟨htask, hexecution⟩ := hfresh _ hdrawn
    rw [hdrawn]
    exact hk.admitTask hid hspawned htask hexecution
  | terminated => exact hmono (hk.terminateTaskWithReason _ _ _)
  | timed h =>
    cases h with
    | advanced h => exact hmono (hk.of_advanced (advanced_advanceTime h))
    | slept h =>
      obtain ⟨ticks, -, h⟩ := bind_eq_some_iff.mp h
      obtain ⟨wakeTick, -, h⟩ := bind_eq_some_iff.mp h
      exact hmono ((hk.blockCurrent wakeTick).of_advanced (advanced_advanceTime h))
    | yielded => exact hmono hk.yieldNow.1
    | ranTicks h =>
      rw [runForTicks, hk.smp] at h
      exact hmono (hk.runForTicksLoop hid (fun hticks => hfinish (decide_eq_true hticks)) h)
    | ranSteps h =>
      rw [runForSteps, hk.smp] at h
      exact hmono (hk.runForStepsLoop hid (fun hsteps => hfinish (decide_eq_true hsteps)) h)
    | idled h => exact hmono (runUntilIdle_keeps (fun hk h => hk.of_advanced (advanced_advanceTime h)) hk h)
  | delegated _ _ _ hnoted => obtain rfl | ⟨_, _, rfl⟩ := hnoted <;> exact hmono (hk.congr rfl rfl rfl rfl)
  | accessRevoked =>
    obtain ⟨_, heq⟩ := revokeChannelAccess_parts k _ _
    rw [heq]
    exact hmono (hk.congr rfl rfl rfl rfl)

theorem oneCore_start {setup} (h : setup.coreCount = none) : OneCore [] (start setup).kernel := by
  rw [start, setup.boot_eq, h]
  constructor
  case smp => rfl
  case orderly => exact Scheduler.orderly_withConfig _
  case known =>
    intro a _
    simp [Scheduler.taskState, Scheduler.withConfig]
  case spent =>
    intro t e ht
    simp [withTickResolution] at ht

/-- On one core every runnable task is current or once in the run queue, and not both, in every run in which no
task is selected while another one is in the middle of its quantum. Selections reach a task in the queue, and
the current task once it has yielded. -/
theorem runnable_task_has_one_place {setup : Setup} (hcore : setup.coreCount = none) {tr : Trace}
    {w : Session} (h : machine.Run (fun w call _ => w.LetsFinish call) (start setup) tr w) {t : TaskId}
    (ht : w.kernel.scheduler.taskState t = some .runnable) :
    (w.kernel.scheduler.currentTask = some t ∧ t ∉ w.kernel.scheduler.runQueue ∧
      w.kernel.scheduler.preemptCurrent.2.Selectable t) ∨
    (w.kernel.scheduler.currentTask ≠ some t ∧ w.kernel.scheduler.runQueue.count t = 1 ∧
      w.kernel.scheduler.Selectable t) := by
  have hw := h.invariantTrace (P := fun _ (w : Session) => w.Identified ∧ OneCore w.drawnTasks w.kernel) ?_ []
    ⟨identified_start setup, oneCore_start hcore⟩
  · have hplaces := hw.2.orderly.places t
    rw [ht, if_pos rfl, Scheduler.places, occupancy_eq_one] at hplaces
    obtain ⟨hcurrent, hqueue⟩ | ⟨hcurrent, hcount⟩ := hplaces
    · exact .inl ⟨hcurrent, hqueue, hw.2.orderly.selectable_preemptCurrent hcurrent⟩
    · have hmem : t ∈ w.kernel.scheduler.runQueue := List.count_pos_iff.mp (by omega)
      exact .inr ⟨hcurrent, hcount, Scheduler.selectable_of_mem hmem⟩
  · intro _ w call answer w' hw hs hg
    obtain ⟨hfresh, -, hdrawn, -⟩ := step_perform hs
    refine ⟨hw.1.step hs, ?_⟩
    rw [hdrawn]
    exact (step_effect hs).oneCore hw.2 hw.1 hfresh hg

theorem runnable_task_has_one_place_slept : ∃ (tr : Trace) (w : Session),
    machine.Run (fun w call _ => w.LetsFinish call) (start .default) tr w ∧
      w.kernel.scheduler.taskState ⟨1⟩ = some .runnable ∧ tr.length = 5 ∧
      ((w.kernel.scheduler.currentTask = some ⟨1⟩ ∧ ⟨1⟩ ∉ w.kernel.scheduler.runQueue ∧
          w.kernel.scheduler.preemptCurrent.2.Selectable ⟨1⟩) ∨
        (w.kernel.scheduler.currentTask ≠ some ⟨1⟩ ∧ w.kernel.scheduler.runQueue.count ⟨1⟩ = 1 ∧
          w.kernel.scheduler.Selectable ⟨1⟩)) := by
  obtain ⟨tr, w, hrun, hrunnable, hlength⟩ : ∃ tr w,
      machine.Run (fun w call _ => w.LetsFinish call) (start .default) tr w ∧
      w.kernel.scheduler.taskState ⟨1⟩ = some .runnable ∧ tr.length = 5 :=
    Machine.exists_run [.spawn 1, .spawn 2, .runForTicks .listed 100 5, .sleep .listed 3000,
      .runForTicks .listed 100 12] (by decide +kernel)
  exact ⟨tr, w, hrun, hrunnable, hlength, runnable_task_has_one_place rfl hrun hrunnable⟩

/-- Two runs of half a quantum each: the first task is runnable and has no place. -/
theorem runnable_task_lost : ∃ (tr : Trace) (w : Session),
    machine.FreeRun (start .default) tr w ∧ w.kernel.scheduler.taskState ⟨1⟩ = some .runnable ∧
      w.kernel.scheduler.currentTask = some ⟨2⟩ ∧ w.kernel.scheduler.runQueue = [] :=
  Machine.exists_run [.spawn 1, .spawn 2, .runForTicks .listed 100 5, .runForTicks .listed 100 5] (by decide +kernel)

end Session

end PandaGen.Kernel
