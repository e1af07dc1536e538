import PandaGen.Kernel.Lemmas.Scheduler

/-!
# Runnable tasks have one place

On a scheduler without real-time parameters every runnable task has one place and no other task has any.
-/

namespace PandaGen.Kernel.Scheduler

open Lib Option Scheduler List

def Plain (tasks : BTreeMap TaskId ScheduledTask) : Prop :=
  ∀ (a : TaskId) info, tasks[a]? = some info → info.realtime = none

theorem Plain.insert {tasks} (h : Plain tasks) (t) {info} (hinfo : info.realtime = none) :
    Plain (tasks.insert t info) := by
  intro a info' ha
  rw [BTreeMap.getElem?_insert] at ha
  split at ha
  · cases ha
    exact hinfo
  · exact h a info' ha

theorem Plain.modify {tasks} (h : Plain tasks) (t) {f}
    (hf : ∀ info, info.realtime = none → (f info).realtime = none) : Plain (tasks.modify t f) := by
  intro a info' ha
  rw [BTreeMap.getElem?_modify] at ha
  split at ha
  · obtain ⟨info, hinfo, rfl⟩ := map_eq_some_iff.mp ha
    exact hf info (h a info hinfo)
  · exact h a info' ha

structure Orderly (s : Scheduler) : Prop where
  places : ∀ a, s.places a = if s.taskState a = some .runnable then 1 else 0
  plain : Plain s.tasks

theorem orderly_withConfig (config) : (withConfig config).Orderly := by
  constructor
  · intro a
    simp [places, withConfig, occupancy, taskState]
  · intro a info ha
    simp [withConfig] at ha

variable {s s' : Scheduler}

theorem Orderly.runnable_of_current (h : s.Orderly) {t} (ht : s.currentTask = some t) :
    s.taskState t = some .runnable := by
  have hplaces := h.places t
  rw [Scheduler.places, occupancy, ht, if_pos rfl] at hplaces
  split at hplaces
  · assumption
  · omega

/-! ## Operations -/

theorem Orderly.enqueue (h : s.Orderly) {t} (ht : s.taskState t = none) : (s.enqueue t).Orderly := by
  constructor
  · intro a
    rw [places_enqueue, taskState_enqueue, h.places a]
    by_cases ha : t = a
    · subst ha
      simp [ht]
    · simp [ha]
  · rw [Scheduler.enqueue, (queued_enqueueRunnable _ t).tasks]
    exact h.plain.insert t rfl

theorem Orderly.dequeueNext (h : s.Orderly) (hcurrent : s.currentTask = none) : s.dequeueNext.2.Orderly := by
  have hd := dequeued_dequeueNext s
  constructor
  · intro a
    rw [hd.places, hd.taskState, ← h.places a, Scheduler.places, hcurrent, occupancy_none]
  · rw [Scheduler.dequeueNext]
    split
    · exact h.plain.modify _ fun _ hinfo => hinfo
    · exact h.plain

theorem Stopped.orderly {t state} (h : Stopped s t state s') (hs : s.Orderly) (hstate : state ≠ .runnable)
    (hplain : Plain s'.tasks) : s'.Orderly := by
  refine ⟨fun a => ?_, hplain⟩
  rw [h.places, h.taskState, hs.places a]
  by_cases ha : t = a
  · subst ha
    cases s.taskState t <;> simp [hstate]
  · simp [ha]

theorem tasks_unschedule (s : Scheduler) (t) : (s.unschedule t).tasks = s.tasks := by
  simp only [unschedule]
  split <;> rfl

theorem Orderly.blockTask (h : s.Orderly) (t) (wakeTick : Nat) : (s.blockTask t wakeTick).Orderly := by
  refine (stopped_blockTask s t wakeTick).orderly h (fun h => nomatch h) ?_
  rw [Scheduler.blockTask, tasks_unschedule]
  exact h.plain.modify t fun _ hinfo => hinfo

theorem Orderly.exitTask (h : s.Orderly) (t) : (s.exitTask t).Orderly := by
  refine (stopped_exitTask s t).orderly h (fun h => nomatch h) ?_
  rw [Scheduler.exitTask, record, tasks_unschedule]
  exact h.plain.modify t fun _ hinfo => hinfo

theorem Orderly.cancelTask (h : s.Orderly) (t) : (s.cancelTask t).Orderly := by
  refine (stopped_cancelTask s t).orderly h (fun h => nomatch h) ?_
  rw [Scheduler.cancelTask, record, tasks_unschedule]
  exact h.plain.modify t fun _ hinfo => hinfo

theorem Woken.places_eq {called} (h : Woken called s s') (hs : s.Orderly) (a) :
    s'.places a = if s'.taskState a = some .runnable then 1 else 0 := by
  cases h.task a with
  | inl hsame => rw [hsame.1, hsame.2, hs.places a]
  | inr hwoken =>
    obtain ⟨⟨wakeTick, hblocked⟩, hrunnable, hplaces, -⟩ := hwoken
    rw [hplaces, hrunnable, hs.places a, hblocked]
    simp

theorem refreshTask_of_plain (h : Plain s.tasks) (t) : s.refreshTask t = some s := by
  rw [refreshTask]
  split
  · rename_i info hinfo
    rw [h t info hinfo]
  · rfl

theorem foldlM_refreshTask_of_plain (h : Plain s.tasks) (ids : List TaskId) : ids.foldlM refreshTask s = some s := by
  induction ids with
  | nil => rfl
  | cons t ids ih => rw [foldlM_cons, refreshTask_of_plain h t, bind_eq_bind, bind_some, ih]

theorem plain_unblockTask (h : Plain s.tasks) (t) : Plain (s.unblockTask t).tasks := by
  rw [unblockTask]
  split
  · rename_i info hinfo
    split
    · rw [(queued_enqueueRunnable _ t).tasks]
      exact h.insert t (h t info hinfo)
    · exact h
  · exact h

theorem plain_foldl_unblockTask (h : Plain s.tasks) (ids : List TaskId) : Plain (ids.foldl unblockTask s).tasks := by
  induction ids generalizing s with
  | nil => exact h
  | cons t ids ih => exact ih (plain_unblockTask h t)

theorem Orderly.onTickAdvanced (h : s.Orderly) {order deltaTicks} (hs : s.onTickAdvanced order deltaTicks = some s') :
    s'.Orderly := by
  refine ⟨(woken_onTickAdvanced hs).places_eq ⟨h.places, h.plain⟩, ?_⟩
  obtain ⟨ticks, -, hs⟩ := bind_eq_some_iff.mp hs
  obtain ⟨s1, hrefresh, ⟨⟩⟩ := bind_eq_some_iff.mp hs
  have hcharged : Plain (chargeCurrent { s with currentTicks := ticks } deltaTicks).tasks := by
    rw [chargeCurrent]
    split
    · refine h.plain.modify _ fun info hinfo => ?_
      rw [hinfo]
      rfl
    · exact h.plain
  cases (foldlM_refreshTask_of_plain hcharged _).symm.trans hrefresh
  exact plain_foldl_unblockTask hcharged _

theorem tasks_preemptCurrent_plain (h : Plain s.tasks) : Plain s.preemptCurrent.2.tasks := by
  rw [preemptCurrent]
  split
  · exact h
  · rename_i t _
    dsimp only
    split
    · rename_i info hinfo
      have hplain := h t info hinfo
      split
      · split
        · exact h.insert t hplain
        · refine (congrArg Plain (queued_enqueueRunnable _ t).tasks).mpr ?_
          exact h.insert t hplain
      · exact h
    · exact h

theorem Orderly.preemptCurrent (h : s.Orderly) :
    s.preemptCurrent.2.Orderly ∧ s.preemptCurrent.2.currentTask = none := by
  cases hcurrent : s.currentTask with
  | none =>
    rw [preemptCurrent_of_none hcurrent]
    exact ⟨h, hcurrent⟩
  | some t =>
    obtain ⟨hpreempted, hnone⟩ := preempted_preemptCurrent hcurrent
    refine ⟨⟨fun a => ?_, tasks_preemptCurrent_plain h.plain⟩, hnone⟩
    -- the places of the current task, and of the others
    have hplaces : s.places a = s.runQueue.count a + if t = a then 1 else 0 := by
      rw [Scheduler.places, hcurrent, occupancy]
      simp
    cases hpreempted with
    | requeued _ hstate hsame => rw [hsame, hstate, h.places a]
    | slept hrunnable wakeTick hstate hcount =>
      rw [hcount, hstate]
      rw [h.places a] at hplaces
      by_cases ha : t = a
      · subst ha
        rw [hrunnable, if_pos rfl, if_pos rfl] at hplaces
        rw [if_pos rfl, if_neg (by simp)]
        omega
      · rw [if_neg ha, Nat.add_zero] at hplaces
        rw [if_neg ha]
        exact hplaces.symm
    | dropped hstate => exact absurd (h.runnable_of_current hcurrent) hstate

/-! ## Tasks that cannot run any more -/

def Live (s : Scheduler) (t : TaskId) : Prop :=
  s.taskState t = some .runnable ∨ ∃ wakeTick, s.taskState t = some (.blocked wakeTick)

structure Tame (s s' : Scheduler) : Prop where
  known : ∀ a, s.taskState a = none → s'.taskState a = none
  live : ∀ a, s'.Live a → s.Live a

theorem tame_of_taskState (h : ∀ a, s'.taskState a = s.taskState a) : Tame s s' where
  known a ha := (h a).trans ha
  live a ha := by
    rw [Live, h a] at ha
    exact ha

theorem Woken.tame {called} (h : Woken called s s') : Tame s s' := by
  constructor
  · intro a ha
    cases h.task a with
    | inl hsame => exact hsame.1.trans ha
    | inr hwoken =>
      obtain ⟨⟨wakeTick, hblocked⟩, -⟩ := hwoken
      cases ha.symm.trans hblocked
  · intro a ha
    cases h.task a with
    | inl hsame =>
      rw [Live, hsame.1] at ha
      exact ha
    | inr hwoken => exact .inr hwoken.1

theorem Stopped.tame {t state} (h : Stopped s t state s') (hstate : s.Live t ∨ ¬ s'.Live t) : Tame s s' := by
  have htask := h.taskState
  constructor
  · intro a ha
    rw [htask a, ha]
    split <;> rfl
  · intro a ha
    by_cases hta : t = a
    · subst hta
      exact hstate.resolve_right fun hnot => hnot ha
    · rw [Live, htask a, if_neg hta] at ha
      exact ha

theorem Stopped.not_live {t state} (h : Stopped s t state s') (hstate : state = .exited ∨ state = .cancelled) :
    ¬ s'.Live t := by
  rw [Live, h.taskState t, if_pos rfl]
  obtain rfl | rfl := hstate <;> cases s.taskState t <;> simp

theorem tame_preemptCurrent (s) : Tame s s.preemptCurrent.2 := by
  cases hcurrent : s.currentTask with
  | none =>
    rw [preemptCurrent_of_none hcurrent]
    exact tame_of_taskState fun _ => rfl
  | some t =>
    cases (preempted_preemptCurrent hcurrent).1 with
    | requeued _ hstate | dropped _ hstate => exact tame_of_taskState hstate
    | slept hrunnable wakeTick hstate =>
      constructor
      · intro a ha
        rw [hstate, if_neg, ha]
        rintro rfl
        cases hrunnable.symm.trans ha
      · intro a ha
        by_cases hta : t = a
        · exact hta ▸ .inl hrunnable
        · rw [Live, hstate, if_neg hta] at ha
          exact ha

/-! ## Selection -/

def Selectable (s : Scheduler) (t : TaskId) : Prop :=
  ∃ n, ((fun s => s.dequeueNext.2)^[n] s).dequeueNext.1 = some t

theorem selectable_of_mem {t} (h : t ∈ s.runQueue) : s.Selectable t := by
  -- each selection takes one task out of the queue
  induction hn : s.runQueue.length generalizing s with
  | zero => exact absurd h (by rw [eq_nil_of_length_eq_zero hn]; exact not_mem_nil)
  | succ n ih =>
    cases hnext : s.nextTask with
    | none => exact absurd h (by rw [nextTask_eq_none hnext]; exact not_mem_nil)
    | some e =>
      obtain ⟨u, queue⟩ := e
      have hperm := nextTask_perm hnext
      obtain ⟨hselected, hqueue⟩ : s.dequeueNext.1 = some u ∧ s.dequeueNext.2.runQueue = queue := by
        rw [dequeueNext, hnext]
        exact ⟨rfl, rfl⟩
      obtain rfl | hmem := mem_cons.mp (hperm.mem_iff.mp h)
      · exact ⟨0, hselected⟩
      · have hlength : queue.length = n := by
          have := hperm.length_eq
          rw [hn, length_cons] at this
          omega
        obtain ⟨m, hm⟩ := ih (hqueue ▸ hmem) (hqueue ▸ hlength)
        exact ⟨m + 1, hm⟩

theorem Orderly.selectable_preemptCurrent (h : s.Orderly) {t} (ht : s.currentTask = some t) :
    s.preemptCurrent.2.Selectable t := by
  apply selectable_of_mem
  have hrunnable := h.runnable_of_current ht
  simp only [Scheduler.preemptCurrent, ht]
  obtain ⟨info, hinfo, hstate⟩ := map_eq_some_iff.mp hrunnable
  simp only [hinfo, hstate, if_true, h.plain t info hinfo, filter_none]
  exact (queued_enqueueRunnable _ t).runQueue.mem_iff.mpr mem_cons_self

end PandaGen.Kernel.Scheduler
