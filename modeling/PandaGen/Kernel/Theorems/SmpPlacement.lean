import PandaGen.Kernel.Lemmas.Identity
import PandaGen.Lib.Occupancy

/-!
# Every task has its place on one of several cores
-/

namespace PandaGen.Kernel

open Lib Option Std.ExtTreeMap MultiCoreScheduler List SmpRuntime

/-! ## The places of tasks on several cores -/

namespace CoreState

def places (a : TaskId) (c : CoreState) : Nat := occupancy c.runQueue c.currentTask a

theorem places_remove (c : CoreState) (t a) :
    (c.remove t).places a = if t = a then 0 else c.places a := occupancy_remove

end CoreState

namespace MultiCoreScheduler

def places (s : MultiCoreScheduler) (a : TaskId) : Nat := (s.cores.map (CoreState.places a)).sum

theorem places_new (config a) : (new config).places a = 0 := by
  rw [places, new, map_replicate, sum_replicate]
  simp [CoreState.places, CoreState.new, occupancy]

theorem places_enqueue {s s' : MultiCoreScheduler} {t} (h : s.enqueue t = some s') (a) :
    s'.places a = s.places a + if t = a then 1 else 0 := by
  obtain ⟨coreIdx, hidx, h⟩ := Option.bind_eq_some_iff.mp h
  obtain ⟨nextCore, -, ⟨⟩⟩ := Option.bind_eq_some_iff.mp h
  have hlt : coreIdx < s.cores.length := by
    rw [checkedMod] at hidx
    split at hidx
    · cases hidx
    · rename_i hne
      cases hidx
      exact Nat.mod_lt _ (Nat.pos_of_ne_zero hne)
  exact sum_map_modify hlt fun c => occupancy_push (perm_append_singleton t c.runQueue)

theorem places_dequeueNext {s : MultiCoreScheduler} {coreId : Nat} (h : s.coreCurrentTask coreId = none)
    (timestampTicks a) : (s.dequeueNext coreId timestampTicks).2.places a = s.places a := by
  rw [dequeueNext]
  split
  · rename_i t queue current ticks hcore
    have hcurrent : current = none := by
      rw [coreCurrentTask, hcore] at h
      exact h
    refine sum_map_set (d := 0) hcore ?_
    rw [CoreState.places, CoreState.places, hcurrent, occupancy_none]
    exact occupancy_select (.refl _)
  · rfl

variable (s : MultiCoreScheduler)

theorem places_onTickAdvanced (coreId delta a) : (s.onTickAdvanced coreId delta).places a = s.places a := by
  by_cases hlt : coreId < s.cores.length
  · refine sum_map_modify (d := 0) hlt fun c => ?_
    split <;> rfl
  · rw [places, onTickAdvanced, modify_eq_self (Nat.not_lt.mp hlt)]
    rfl

theorem places_preemptCurrent (coreId reason ticks a) :
    (s.preemptCurrent coreId reason ticks).places a = s.places a := by
  rw [preemptCurrent]
  split
  · rename_i queue t _ hcore
    exact sum_map_set (d := 0) hcore (occupancy_requeue (perm_append_singleton t queue))
  · rfl

theorem places_exitTaskAny (t reason) (ticks : Nat) (a) :
    (s.exitTaskAny t reason ticks).places a = if t = a then 0 else s.places a := by
  have hcores : (s.exitTaskAny t reason ticks).cores = s.cores.map (·.remove t) := by
    rw [exitTaskAny]
    split <;> rfl
  rw [places, hcores, List.map_map]
  simp only [Function.comp_def, CoreState.places_remove]
  split
  · simp
  · rfl

end MultiCoreScheduler

namespace SmpRuntime

theorem places_fillCore (acc coreId a) : (fillCore acc coreId).2.scheduler.places a = acc.2.scheduler.places a := by
  rw [fillCore]
  dsimp only
  split
  · rename_i hnone
    exact places_dequeueNext (Option.isNone_iff_eq_none.mp hnone) _ a
  · rfl

theorem places_tickCore (acc coreId a) : (tickCore acc coreId).2.scheduler.places a = acc.2.scheduler.places a := by
  rw [tickCore]
  dsimp only
  split
  · exact places_onTickAdvanced _ coreId 1 a
  · rfl

theorem places_foldl {β : Type} {f a}
    (hf : ∀ acc coreId, (f acc coreId).2.scheduler.places a = acc.2.scheduler.places a) (l : List Nat)
    (acc : β × SmpRuntime) : (l.foldl f acc).2.scheduler.places a = acc.2.scheduler.places a := by
  induction l generalizing acc with
  | nil => rfl
  | cons coreId l ih => rw [foldl_cons, ih, hf]

end SmpRuntime

namespace SimulatedKernel

def alive (k : SimulatedKernel) (t : TaskId) : Bool :=
  decide (t ∈ k.tasks) && k.taskToIdentity[t]?.all fun e => decide (e ∉ k.cancelledIdentities)

theorem not_alive_of_cancelled {k : SimulatedKernel} {t e} (ht : k.taskToIdentity[t]? = some e)
    (he : e ∈ k.cancelledIdentities) : k.alive t = false := by
  simp [alive, ht, he]

def corePlaces (k : SimulatedKernel) (a : TaskId) : Nat := k.smp.elim 0 fun r => r.scheduler.places a

theorem corePlaces_congr {k k' : SimulatedKernel} (h : k'.smp = k.smp) (a) : k'.corePlaces a = k.corePlaces a := by
  rw [corePlaces, corePlaces, h]

theorem corePlaces_modifyCores (k : SimulatedKernel) {f a} {g : Nat → Nat} (hg : g 0 = 0)
    (hf : ∀ s, (f s).places a = g (s.places a)) : (k.modifyCores f).corePlaces a = g (k.corePlaces a) := by
  rw [corePlaces, corePlaces, modifyCores]
  cases k.smp with
  | none => exact hg.symm
  | some smp => exact hf smp.scheduler

/-- There are cores. They have one place for each task that is alive, and no place for any other. -/
structure Placed (drawn : List TaskId) (k : SimulatedKernel) : Prop where
  smp : k.smp.isSome = true
  drawn : ∀ t ∈ k.tasks, t ∈ drawn
  places : ∀ a, k.corePlaces a = if k.alive a then 1 else 0

variable {drawn : List TaskId} {executions : List ExecutionId} {k k' : SimulatedKernel}

theorem Placed.congr (h : Placed drawn k) (hsmp : k'.smp.isSome = true)
    (hplaces : ∀ a, k'.corePlaces a = k.corePlaces a)
    (htasks : k'.tasks = k.tasks) (hidentity : k'.taskToIdentity = k.taskToIdentity)
    (hcancelled : k'.cancelledIdentities = k.cancelledIdentities) : Placed drawn k' where
  smp := hsmp
  drawn := htasks ▸ h.drawn
  places a := by rw [hplaces, h.places a, alive, alive, htasks, hidentity, hcancelled]

theorem Placed.of_smp (h : Placed drawn k) (hsmp : k'.smp = k.smp) (htasks : k'.tasks = k.tasks)
    (hidentity : k'.taskToIdentity = k.taskToIdentity)
    (hcancelled : k'.cancelledIdentities = k.cancelledIdentities) : Placed drawn k' :=
  h.congr (hsmp ▸ h.smp) (corePlaces_congr hsmp) htasks hidentity hcancelled

theorem Placed.of_untouched (h : Placed drawn k) (hu : Untouched k k') : Placed drawn k' :=
  h.of_smp hu.smp hu.tasks hu.taskToIdentity hu.cancelledIdentities

theorem Placed.of_advanced (h : Placed drawn k) (ha : Advanced k k') : Placed drawn k' :=
  h.of_smp ha.smp ha.tasks ha.taskToIdentity ha.cancelledIdentities

/-! ## Calls -/

section

variable (h : Placed drawn k) (hid : Identified executions k)
include h hid

theorem Placed.cancelIdentity (orders e reason) : Placed drawn (k.cancelIdentity orders e reason) := by
  obtain ⟨k1, _, hparts, hschedule⟩ := cancelIdentity_parts k orders e reason
  generalize k.cancelIdentity orders e reason = k' at hparts ⊢
  have halive : ∀ a, k.taskToIdentity[a]? ≠ some e → k'.alive a = k.alive a := by
    intro a ha
    rw [alive, alive, hparts]
    congr 1
    cases hentry : k.taskToIdentity[a]? with
    | none => rfl
    | some e' =>
      have hne : e ≠ e' := fun heq => ha (hentry.trans (congrArg some heq.symm))
      simp [hne]
  have hsmp' : k'.smp = k1.smp := by rw [hparts]
  have hdrawn : ∀ u ∈ k'.tasks, u ∈ drawn := by
    rw [hparts]
    exact h.drawn
  obtain ⟨smp, hsmp⟩ := isSome_iff_exists.mp h.smp
  obtain ⟨t, ht, rfl⟩ | ⟨hnone, rfl⟩ := hschedule
  · rw [cancelTask, hsmp] at hsmp'
    refine ⟨by rw [hsmp']; rfl, hdrawn, fun a => ?_⟩
    have hplaces : k'.corePlaces a = if t = a then 0 else k.corePlaces a := by
      rw [corePlaces, corePlaces, hsmp', hsmp]
      exact places_exitTaskAny ..
    rw [hplaces]
    by_cases ha : t = a
    · subst ha
      have hdead : k'.alive t = false := by
        rw [hparts]
        exact not_alive_of_cancelled ht mem_insert_self
      rw [if_pos rfl, hdead]
      rfl
    · rw [if_neg ha, h.places a, halive a fun hother => ha (hid.distinct t a e ht hother)]
  · refine ⟨hsmp' ▸ h.smp, hdrawn, fun a => ?_⟩
    rw [corePlaces_congr hsmp', h.places a, halive a (hnone a)]

omit h hid in
theorem Placed.terminateTaskWithReason (h : Placed drawn k) (orders t reason) :
    Placed drawn (k.terminateTaskWithReason orders t reason) := by
  obtain ⟨_, _, _, heq, -⟩ := terminateTaskWithReason_parts k orders t reason
  obtain ⟨smp, hsmp⟩ := isSome_iff_exists.mp h.smp
  rw [heq, exitTask, hsmp]
  refine ⟨rfl, fun u hu => h.drawn u (mem_of_mem_erase hu), fun a => ?_⟩
  refine Eq.trans (b := if t = a then 0 else k.corePlaces a) ?_ ?_
  · rw [corePlaces, corePlaces, hsmp]
    exact places_exitTaskAny ..
  · by_cases ha : t = a
    · simp [ha, alive]
    · rw [if_neg ha, h.places a, alive, alive, BTreeMap.getElem?_erase, if_neg ha]
      simp [ha]

theorem Placed.admitTask {ids d i}
    (hspawned : k.admitTask ids d i = some k') (htask : ids.task ∉ drawn) (hexecution : ids.execution ∉ executions) :
    Placed (ids.task :: drawn) k' := by
  obtain ⟨k1, _, _, henqueue, -, rfl⟩ := admitTask_parts hspawned
  obtain ⟨smp, hsmp⟩ := isSome_iff_exists.mp h.smp
  rw [enqueueTask, hsmp] at henqueue
  obtain ⟨scheduler, hscheduler, ⟨⟩⟩ := bind_eq_some_iff.mp henqueue
  refine ⟨rfl, fun u hu => ?_, fun a => ?_⟩
  · rw [mem_insert, Std.LawfulEqOrd.compare_eq_iff_eq] at hu
    obtain rfl | hu := hu
    · exact mem_cons_self
    · exact mem_cons_of_mem _ (h.drawn u hu)
  · refine Eq.trans (b := k.corePlaces a + if ids.task = a then 1 else 0) ?_ ?_
    · rw [corePlaces, corePlaces, hsmp]
      exact places_enqueue hscheduler a
    rw [h.places a, alive, alive, BTreeMap.getElem?_insert]
    by_cases ha : ids.task = a
    · subst ha
      have hnew : ids.task ∉ k.tasks := fun hmem => htask (h.drawn _ hmem)
      have hlive : ids.execution ∉ k.cancelledIdentities := fun hmem => hexecution (hid.cancelled _ hmem)
      simp [hnew, hlive]
    · simp [ha]

/-! ## The run loops -/

variable {orders : HashOrders}

theorem Placed.chargeCpu {t} {ticks : Nat} {failed} (hk : k.chargeCpu orders t ticks = some (failed, k')) :
    Placed drawn k' ∧ (failed = true → k'.alive t = false) := by
  obtain ⟨rfl, hu⟩ | ⟨rfl, e, he, ⟨hcancelled, rfl⟩ | ⟨k1, reason, hu, rfl⟩⟩ := chargeCpu_cases hk
  · exact ⟨h.of_untouched hu, fun hfailed => nomatch hfailed⟩
  · exact ⟨h, fun _ => not_alive_of_cancelled he hcancelled⟩
  · refine ⟨(h.of_untouched hu).cancelIdentity (hid.of_untouched hu) orders e reason, fun _ => ?_⟩
    obtain ⟨_, _, hparts, -⟩ := cancelIdentity_parts k1 orders e reason
    rw [hparts]
    exact not_alive_of_cancelled (hu.taskToIdentity ▸ he) mem_insert_self

theorem Placed.settleTicked {t} (hk : settleTicked orders k t = some k') : Placed drawn k' := by
  obtain ⟨⟨cancelled, k1⟩, hcharge, ⟨⟩⟩ := bind_eq_some_iff.mp hk
  obtain ⟨h1, hdead⟩ := h.chargeCpu hid hcharge
  have hsmp : ∀ f, (k1.modifyCores f).smp.isSome = true := by
    intro f
    rw [modifyCores, isSome_map]
    exact h1.smp
  split
  · rename_i hcancelled
    -- the task is not alive, so it has no place that it could lose
    refine h1.congr (hsmp _) (fun a => ?_) rfl rfl rfl
    refine (corePlaces_modifyCores k1 (ite_self 0) fun s =>
      s.places_exitTaskAny t.taskId .resourceExhaustion _ a).trans ?_
    by_cases ha : t.taskId = a
    · rw [if_pos ha, ← ha, h1.places, hdead hcancelled]
      rfl
    · rw [if_neg ha]
  · split
    · exact h1.congr (hsmp _) (fun a => corePlaces_modifyCores k1 (g := id) rfl fun s => s.places_preemptCurrent ..) rfl
        rfl rfl
    · exact h1

theorem Placed.tickCores {smp coreCount n}
    (hsmp : k.smp = some smp) (hk : k.tickCores orders smp coreCount = some (n, k')) :
    Placed drawn k' ∧ Identified executions k' := by
  obtain ⟨k1, hadvance, hk⟩ := bind_eq_some_iff.mp hk
  obtain ⟨k2, hsettle, ⟨⟩⟩ := bind_eq_some_iff.mp hk
  have hrule := runRule_identified executions
  have hfilled : ∀ a, ((range coreCount).foldl fillCore (0, smp)).2.scheduler.places a = k.corePlaces a := by
    intro a
    rw [places_foldl fun acc i => places_fillCore acc i a, corePlaces, hsmp]
    rfl
  generalize ((range coreCount).foldl fillCore (0, smp)).2 = filled at hadvance hsettle hfilled
  have h0 : Placed drawn { k with smp := some filled } := h.congr rfl hfilled rfl rfl rfl
  have h1 := h0.of_advanced (advanced_advanceTime hadvance)
  have hid1 := hrule.advance hadvance (hrule.schedule k k.scheduler (some filled) hid)
  have hsmp1 : k1.smp = some filled := (advanced_advanceTime hadvance).smp
  refine foldlM_settleTicked_keeps (P := fun k => Placed drawn k ∧ Identified executions k)
    (fun hk hsettle => ⟨hk.1.settleTicked hk.2 hsettle, hrule.loopRule.settleTicked hsettle hk.2⟩)
    ⟨?_, hrule.schedule k1 k1.scheduler _ hid1⟩ hsettle
  refine h1.congr rfl (fun a => ?_) rfl rfl rfl
  rw [corePlaces, corePlaces, hsmp1]
  exact places_foldl (fun acc i => places_tickCore acc i a) _ _

end

end SimulatedKernel

namespace Session

open SimulatedKernel

theorem Effect.placed {k k' call answer} (h : Effect k call answer k') {drawn executions} (hk : Placed drawn k)
    (hid : SimulatedKernel.Identified executions k)
    (hfresh : ∀ ids ∈ call.drawn, ids.task ∉ drawn ∧ ids.execution ∉ executions) :
    Placed ((call.drawn.map SpawnIds.task).toList ++ drawn) k' := by
  have hmono : ∀ {k'}, Placed drawn k' → Placed ((call.drawn.map SpawnIds.task).toList ++ drawn) k' := by
    intro k' h'
    exact { h' with drawn := fun t ht => mem_append_right _ (h'.drawn t ht) }
  obtain ⟨smp, hsmp⟩ := isSome_iff_exists.mp hk.smp
  cases h with
  | untouched h => exact hmono (hk.of_untouched h)
  | cancelled h => exact hmono ((hk.of_untouched h).cancelIdentity (hid.of_untouched h) _ _ _)
  | identity | granted | dropped | revoked | accessGranted => exact hmono (hk.of_smp rfl rfl rfl rfl)
  | spawned hdrawn _ hspawned =>
    obtain ⟨htask, hexecution⟩ := hfresh _ hdrawn
    rw [hdrawn]
    exact hk.admitTask hid hspawned htask hexecution
  | terminated => exact hmono (hk.terminateTaskWithReason _ _ _)
  | timed h =>
    cases h with
    | advanced h => exact hmono (hk.of_advanced (advanced_advanceTime h))
    | slept h =>
      obtain ⟨ticks, -, h⟩ := bind_eq_some_iff.mp h
      obtain ⟨wakeTick, -, h⟩ := bind_eq_some_iff.mp h
      have hblocked : Placed drawn (k.blockCurrent wakeTick) := by
        rw [blockCurrent]
        split
        · exact hk.of_smp rfl rfl rfl rfl
        · exact hk
      exact hmono (hblocked.of_advanced (advanced_advanceTime h))
    | yielded => exact hmono (hk.of_smp rfl rfl rfl rfl)
    | ranTicks h =>
      rw [runForTicks, hsmp] at h
      exact hmono (runForTicksSmp_keeps (P := fun k => Placed drawn k ∧ SimulatedKernel.Identified executions k)
        (fun hk => hk.1.tickCores hk.2) ⟨hk, hid⟩ h).1
    | ranSteps h =>
      rw [runForSteps, hsmp] at h
      exact hmono (runForStepsSmp_keeps (P := fun k => Placed drawn k ∧ SimulatedKernel.Identified executions k)
        (fun hk => hk.1.tickCores hk.2) ⟨hk, hid⟩ h).1
    | idled h => exact hmono (runUntilIdle_keeps (fun hk h => hk.of_advanced (advanced_advanceTime h)) hk h)
  | delegated _ _ _ hnoted => obtain rfl | ⟨_, _, rfl⟩ := hnoted <;> exact hmono (hk.of_smp rfl rfl rfl rfl)
  | accessRevoked =>
    obtain ⟨_, heq⟩ := revokeChannelAccess_parts k _ _
    rw [heq]
    exact hmono (hk.of_smp rfl rfl rfl rfl)

theorem placed_start {setup n} (h : setup.coreCount = some n) : Placed [] (start setup).kernel := by
  have hsmp : (start setup).kernel.smp = some (.new (.withCores n)) := by
    rw [start, setup.boot_eq, h]
    rfl
  have htasks : (start setup).kernel.tasks = ∅ := by
    rw [start, setup.boot_eq]
    rfl
  constructor
  case smp =>
    rw [hsmp]
    rfl
  case drawn =>
    intro t ht
    rw [htasks] at ht
    exact absurd ht not_mem_empty
  case places =>
    intro a
    rw [corePlaces, hsmp, alive, htasks]
    exact (places_new (.withCores n) a).trans (by simp)

/-- In every run on several cores, a task that is alive is on one core, current or once in its queue. A task
that has exited or was cancelled is on none, and no task is current on two cores. -/
theorem task_on_one_core {setup : Setup} {n : Nat} (hcores : setup.coreCount = some n) {tr : Trace}
    {w : Session} (h : machine.FreeRun (start setup) tr w) : ∃ smp, w.kernel.smp = some smp ∧ ∀ t,
      (w.kernel.alive t = true → ∃ (i : Nat) (core : CoreState), smp.scheduler.cores[i]? = some core ∧
        (core.currentTask = some t ∧ t ∉ core.runQueue ∨ core.currentTask ≠ some t ∧ core.runQueue.count t = 1) ∧
        ∀ (j : Nat) core', smp.scheduler.cores[j]? = some core' → j ≠ i →
          t ∉ core'.runQueue ∧ core'.currentTask ≠ some t) ∧
      (w.kernel.alive t = false → ∀ core ∈ smp.scheduler.cores, t ∉ core.runQueue ∧ core.currentTask ≠ some t) ∧
      ∀ (i j : Nat) core core', smp.scheduler.cores[i]? = some core → smp.scheduler.cores[j]? = some core' →
        core.currentTask = some t → core'.currentTask = some t → i = j := by
  have hw := h.invariantTrace (P := fun _ (w : Session) => w.Identified ∧ Placed w.drawnTasks w.kernel) ?_ []
    ⟨identified_start setup, placed_start hcores⟩
  · obtain ⟨smp, hsmp⟩ := isSome_iff_exists.mp hw.2.smp
    refine ⟨smp, hsmp, fun t => ?_⟩
    have hplaces := hw.2.places t
    rw [corePlaces, hsmp, elim_some] at hplaces
    have halive : w.kernel.alive t = true → ∃ (i : Nat) (core : CoreState), smp.scheduler.cores[i]? = some core ∧
        core.places t = 1 ∧ ∀ (j : Nat) core', smp.scheduler.cores[j]? = some core' → j ≠ i → core'.places t = 0 :=
      fun ha => exists_of_sum_map_eq_one (hplaces.trans (if_pos ha))
    have hdead : w.kernel.alive t = false → ∀ core ∈ smp.scheduler.cores, core.places t = 0 := by
      intro hd core hcore
      have hzero : smp.scheduler.places t = 0 := by
        rw [hplaces, hd]
        rfl
      exact List.sum_eq_zero_iff.mp hzero _ (List.mem_map_of_mem hcore)
    refine ⟨fun ha => ?_, fun hd core hcore => occupancy_eq_zero.mp (hdead hd core hcore), ?_⟩
    · obtain ⟨i, core, hcore, hone, hothers⟩ := halive ha
      exact ⟨i, core, hcore, occupancy_eq_one.mp hone,
        fun j core' hcore' hj => occupancy_eq_zero.mp (hothers j core' hcore' hj)⟩
    · intro i j core core' hcore hcore' hcurrent hcurrent'
      cases ha : w.kernel.alive t with
      | false => exact absurd hcurrent (occupancy_eq_zero.mp (hdead ha core (List.mem_of_getElem? hcore))).2
      | true =>
        obtain ⟨only, _, _, _, hothers⟩ := halive ha
        have honly : ∀ (i : Nat) core, smp.scheduler.cores[i]? = some core → core.currentTask = some t → i = only := by
          intro i core hcore hcurrent
          by_contra hne
          exact (occupancy_eq_zero.mp (hothers i core hcore hne)).2 hcurrent
        exact (honly i core hcore hcurrent).trans (honly j core' hcore' hcurrent').symm
  · intro _ w call answer w' hw hs _
    obtain ⟨hfresh, -, hdrawn, -⟩ := step_perform hs
    refine ⟨hw.1.step hs, ?_⟩
    rw [hdrawn]
    exact (step_effect hs).placed hw.2 hw.1 hfresh

theorem task_on_one_core_two_cores : ∃ (tr : Trace) (w : Session) (smp : SmpRuntime),
    machine.FreeRun (start { Setup.default with coreCount := some 2 }) tr w ∧
      w.kernel.smp = some smp ∧ w.kernel.alive ⟨1⟩ = true ∧ w.kernel.alive ⟨2⟩ = false ∧ w.kernel.alive ⟨3⟩ = false ∧
      (∃ (i : Nat) (core : CoreState), smp.scheduler.cores[i]? = some core ∧
        (core.currentTask = some ⟨1⟩ ∧ ⟨1⟩ ∉ core.runQueue ∨
          core.currentTask ≠ some ⟨1⟩ ∧ core.runQueue.count ⟨1⟩ = 1)) ∧
      ∀ core ∈ smp.scheduler.cores, ⟨2⟩ ∉ core.runQueue ∧ core.currentTask ≠ some ⟨2⟩ := by
  obtain ⟨tr, w, hrun, halive, hcancelled, hexited⟩ : ∃ tr w,
      machine.FreeRun (start { Setup.default with coreCount := some 2 }) tr w ∧
      w.kernel.alive ⟨1⟩ = true ∧ w.kernel.alive ⟨2⟩ = false ∧ w.kernel.alive ⟨3⟩ = false :=
    Machine.exists_run [.spawn 1, .spawn 2, .spawn 3,
      .updateIdentity ⟨2⟩ fun i => { i with budget := some { ResourceBudget.unlimited with cpuTicks := some 3 } },
      .runForTicks .listed 100 12, .terminateTask .listed ⟨3⟩ .normal, .runForSteps .listed 2] (by decide +kernel)
  obtain ⟨smp, hsmp, hplaces⟩ := task_on_one_core rfl hrun
  obtain ⟨i, core, hcore, hplace, -⟩ := (hplaces ⟨1⟩).1 halive
  exact ⟨tr, w, smp, hrun, hsmp, halive, hcancelled, hexited, ⟨i, core, hcore, hplace⟩, (hplaces ⟨2⟩).2.1 hcancelled⟩

end Session

end PandaGen.Kernel
