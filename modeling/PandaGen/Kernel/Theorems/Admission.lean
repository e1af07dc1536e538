import Mathlib.Data.Rat.Defs
import Mathlib.Tactic.FieldSimp
import Mathlib.Tactic.Linarith
import PandaGen.Kernel.Lemmas.Scheduler

/-!
# Admission of real-time tasks
-/

namespace PandaGen.Kernel.Scheduler

open Lib Option BTreeMap Nat List

variable {s s' : Scheduler} {t : TaskId} {info : ScheduledTask} {params : RealTimeParams}

/-! ## Sums over the tasks -/

section Total

variable {M : Type} [AddCommMonoid M] (f : ScheduledTask → M)

def total (s : Scheduler) : M := (s.tasks.toList.map fun e => f e.2).sum

def others (s : Scheduler) (t : TaskId) : M := ((s.tasks.toList.filter fun e => e.1 != t).map fun e => f e.2).sum

theorem total_eq (h : s.tasks[t]? = some info) : s.total f = f info + s.others f t := by
  rw [total, ((toList_perm_of_getElem? h).map _).sum_eq, map_cons, sum_cons, others]

theorem others_insert (h : s'.tasks = s.tasks.insert t info) : s'.others f t = s.others f t := by
  rw [others, h, ((filter_toList_insert_perm s.tasks t info).map _).sum_eq, others]

theorem total_insert (h : s'.tasks = s.tasks.insert t info) : s'.total f = f info + s.others f t := by
  rw [← others_insert f h]
  exact total_eq f (by rw [h, Std.ExtTreeMap.getElem?_insert_self])

end Total

/-! ## The shares of the tasks -/

def ppm (info : ScheduledTask) : Nat := (info.realtime.map fun t => t.params.ppm).getD 0

def share (info : ScheduledTask) : ℚ :=
  (info.realtime.map fun t => (t.params.budgetTicks / t.params.periodTicks : ℚ)).getD 0

def rounded (info : ScheduledTask) : Nat :=
  (info.realtime.map fun t =>
    if t.params.budgetTicks * 1000000 % t.params.periodTicks = 0 then 0 else 1).getD 0

/-- The exact sum of `budget_ticks / period_ticks` over the tasks with real-time parameters. -/
def utilization (s : Scheduler) : ℚ := s.total share

def roundedTasks (s : Scheduler) : Nat := s.total rounded

theorem quotient_le {budget period quotient rest : Nat} (hpos : 0 < period)
    (h : budget * 1000000 ≤ (quotient + rest) * period) : (budget / period : ℚ) ≤ (quotient + rest) / 1000000 := by
  rw [div_le_div_iff₀ (by exact_mod_cast hpos) (by norm_num)]
  exact_mod_cast h

theorem share_le (info) : share info ≤ (ppm info + rounded info) / 1000000 := by
  rw [share, ppm, rounded]
  cases info.realtime with
  | none => simp
  | some t =>
    -- the kernel would unfold the product with a million to compare the sides of a definitional step
    rw [map_some, map_some, map_some, getD_some, getD_some, getD_some, RealTimeParams.ppm]
    split
    · rename_i hpos
      apply quotient_le hpos
      generalize t.params.budgetTicks * 1000000 = n
      split
      · rename_i hmod
        rw [add_zero, Nat.div_mul_cancel (Nat.dvd_of_mod_eq_zero hmod)]
      · rw [Nat.mul_comm _ t.params.periodTicks]
        exact (Nat.lt_mul_div_succ n hpos).le
    · rename_i hzero
      rw [Nat.eq_zero_of_not_pos hzero, Nat.cast_zero, div_zero]
      positivity

theorem utilization_le_ppm (s : Scheduler) : s.utilization ≤ (s.total ppm + s.roundedTasks) / 1000000 := by
  rw [utilization, roundedTasks, total, total, total]
  induction s.tasks.toList with
  | nil => simp
  | cons e tasks ih =>
    have := share_le e.2
    simp only [map_cons, sum_cons, cast_add]
    linarith

/-! ## Runs -/

theorem ppm_le_million (h : params.budgetTicks ≤ params.periodTicks) : params.ppm ≤ 1000000 := by
  rw [RealTimeParams.ppm]
  split
  · exact Nat.div_le_of_le_mul (Nat.mul_le_mul_right 1000000 h)
  · omega

theorem others_ppm_le (s : Scheduler) (t) : s.others ppm t ≤ s.total ppm :=
  (filter_sublist.map _).sum_le_sum fun _ _ => zero_le _

/-- The sum does not overflow where the tasks that were admitted before have at most a million together. -/
theorem utilizationPpmWith_eq (h : s.tasks[t]? = some info) (hs : s.total ppm ≤ 1000000)
    (hp : params.budgetTicks ≤ params.periodTicks) : s.utilizationPpmWith t params = params.ppm + s.others ppm t := by
  have hsum : (s.tasks.toList.map fun e =>
      if e.1 = t then params.ppm else (e.2.realtime.map fun t => t.params.ppm).getD 0).sum =
        params.ppm + s.others ppm t := by
    rw [((toList_perm_of_getElem? h).map _).sum_eq, map_cons, sum_cons, others]
    dsimp only
    rw [if_pos rfl]
    congr 2
    apply map_congr_left
    intro e he
    have hne : e.1 ≠ t := by simpa using (mem_filter.mp he).2
    rw [if_neg hne, ppm]
  have hppm := ppm_le_million hp
  have hothers := others_ppm_le s t
  change _ % 2 ^ 64 = _
  rw [hsum]
  omega

theorem total_ppm_setRealTimeParams (hs : s.total ppm ≤ 1000000) :
    (s.setRealTimeParams t params).2.total ppm ≤ 1000000 := by
  rw [setRealTimeParams]
  split
  · exact hs
  split
  · exact hs
  rename_i hfits
  cases hinfo : s.tasks[t]? with
  | none => exact hs
  | some info =>
    have hle : ∀ s' : Scheduler,
        s'.tasks = s.tasks.insert t { info with realtime := some (RealTimeTask.new params s.currentTicks) } →
        s'.total ppm ≤ 1000000 := by
      intro s' h
      rw [utilizationPpmWith_eq hinfo hs (by omega)] at hfits
      rw [total_insert ppm h]
      exact not_lt.mp hfits
    dsimp only
    split
    · exact hle _ (queued_enqueueRunnable _ t).tasks
    · exact hle _ rfl

def Call.admits : Call → Bool
  | .enqueue _ | .setRealTimeParams _ _ => true
  | _ => false

/-- Each task whose share is rounded lets the tasks have one part per million too much. -/
theorem utilization_le_of_admitted {config : SchedulerConfig} {tr : List (Call × Answer)}
    (h : machine.Run (fun _ call _ => call.admits = true) (withConfig config) tr s) :
    s.utilization ≤ 1 + s.roundedTasks / 1000000 := by
  have hstep : ∀ (tr : List (Call × Answer)) s call answer s', s.total ppm ≤ 1000000 →
      machine.step s call = some (answer, s') → call.admits = true → s'.total ppm ≤ 1000000 := by
    intro _ s call answer s' hs hcall hadmits
    cases call with
    | enqueue t =>
      cases hcall
      rw [enqueue, total_insert ppm (queued_enqueueRunnable _ t).tasks]
      exact (zero_add _).le.trans ((others_ppm_le s t).trans hs)
    | setRealTimeParams t params => cases hcall; exact total_ppm_setRealTimeParams hs
    | _ => cases hadmits
  have hppm : s.total ppm ≤ 1000000 :=
    h.invariantTrace (P := fun _ s => s.total ppm ≤ 1000000) hstep []
      (zero_le 1000000)
  have hle := utilization_le_ppm s
  have hcast : ((s.total ppm : Nat) : ℚ) ≤ 1000000 := by exact_mod_cast hppm
  linarith

theorem utilization_le_of_admitted_halves : ∃ tr s,
    machine.Run (fun _ call _ => call.admits = true) new tr s ∧ s.roundedTasks = 0 ∧
      s.utilization ≤ 1 + s.roundedTasks / 1000000 := by
  obtain ⟨tr, s, hrun, hrounded⟩ : ∃ tr s, machine.Run (fun _ call _ => call.admits = true) new tr s ∧
      s.roundedTasks = 0 := Machine.exists_run [.enqueue ⟨1⟩, .enqueue ⟨2⟩, .setRealTimeParams ⟨1⟩ ⟨2, 1⟩,
    .setRealTimeParams ⟨2⟩ ⟨8, 4⟩] (by decide +kernel)
  exact ⟨tr, s, hrun, hrounded, utilization_le_of_admitted hrun⟩

/-- Three tasks with a third each and one more with a millionth. -/
theorem admitted_over_one : ∃ tr s, machine.Run (fun _ call _ => call.admits = true) new tr s ∧
      (tr.map Prod.snd).getLast? = some (.admitted (.ok ())) ∧ 1 < s.utilization :=
  Machine.exists_run [.enqueue ⟨1⟩, .enqueue ⟨2⟩, .enqueue ⟨3⟩, .enqueue ⟨4⟩, .setRealTimeParams ⟨1⟩ ⟨3, 1⟩,
    .setRealTimeParams ⟨2⟩ ⟨3, 1⟩, .setRealTimeParams ⟨3⟩ ⟨3, 1⟩, .setRealTimeParams ⟨4⟩ ⟨1000000, 1⟩]
    (by decide +kernel)

end PandaGen.Kernel.Scheduler
