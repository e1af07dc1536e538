import PandaGen.Kernel.Lemmas.Capability

/-!
# Tasks, leases and the clock
-/

namespace PandaGen.Kernel

open Lib Std.ExtTreeMap Option

variable {k k' : SimulatedKernel}

namespace SimulatedKernel

def Clock (k : SimulatedKernel) : Prop :=
  k.currentTime = k.timerTicks * k.nanosPerTick

theorem leasePassed_mono {info : CapabilityMetadata} {now now' : Nat} (h : info.leasePassed now = true)
    (hle : now ≤ now') : info.leasePassed now' = true := by
  rw [CapabilityMetadata.leasePassed] at h ⊢
  obtain ⟨expiresAt, hlease, hpassed⟩ := (any_eq_true _ _).mp h
  rw [hlease, any_some, decide_eq_true_iff]
  exact (of_decide_eq_true hpassed).trans hle

structure SameTime (k k' : SimulatedKernel) : Prop where
  timerTicks : k'.timerTicks = k.timerTicks
  currentTime : k'.currentTime = k.currentTime
  nanosPerTick : k'.nanosPerTick = k.nanosPerTick

theorem SameTime.clock (h : SameTime k k') (hk : k.Clock) : k'.Clock := by
  rw [Clock, h.currentTime, h.timerTicks, h.nanosPerTick]
  exact hk

structure Elapsed (k k' : SimulatedKernel) : Prop where
  clock : k'.Clock
  currentTime : k.currentTime ≤ k'.currentTime
  tasks : k'.tasks = k.tasks
  entry : ∀ c : Nat, k'.capabilityTable[c]? = k.capabilityTable[c]? ∨ ∃ info, k.capabilityTable[c]? = some info ∧
    info.leasePassed k'.currentTime = true ∧ k'.capabilityTable[c]? = some (ended info)

theorem Elapsed.of_sameTime (h : k.Clock) (htime : SameTime k k') (htasks : k'.tasks = k.tasks)
    (htable : k'.capabilityTable = k.capabilityTable) : Elapsed k k' where
  clock := htime.clock h
  currentTime := htime.currentTime.ge
  tasks := htasks
  entry c := .inl (by rw [htable])

theorem Elapsed.of_spared (h : k.Clock) (hs : Spared k k') : Elapsed k k' :=
  .of_sameTime h { hs with } hs.tasks hs.capabilityTable

theorem Elapsed.trans {k''} (h : Elapsed k k') (h' : Elapsed k' k'') : Elapsed k k'' where
  clock := h'.clock
  currentTime := h.currentTime.trans h'.currentTime
  tasks := h'.tasks.trans h.tasks
  entry c := by
    obtain hkept | ⟨info, hinfo, hpassed, hended⟩ := h.entry c
    · rw [← hkept]
      exact h'.entry c
    · have hpassed := leasePassed_mono hpassed h'.currentTime
      obtain hkept' | ⟨info', hinfo', -, hended'⟩ := h'.entry c
      · exact .inr ⟨info, hinfo, hpassed, hkept'.trans hended⟩
      · cases hended.symm.trans hinfo'
        exact .inr ⟨info, hinfo, hpassed, hended'⟩

theorem Elapsed.of_advanced (h : k.Clock) (ha : Advanced k k') : Elapsed k k' where
  clock := ha.currentTime
  currentTime := by
    rw [h, ha.currentTime, ha.nanosPerTick]
    exact Nat.mul_le_mul_right _ ha.timerTicks
  tasks := ha.tasks
  entry c := by
    rw [ha.entry c]
    cases k.capabilityTable[c]? with
    | none => exact .inl rfl
    | some info =>
      rw [map_some]
      split
      · rename_i hover
        exact .inr ⟨info, rfl, hover.2, rfl⟩
      · exact .inl rfl

theorem runRule_elapsed : RunRule fun k k' => k.Clock → Elapsed k k' where
  refl _ h := .of_sameTime h ⟨rfl, rfl, rfl⟩ rfl rfl
  trans h h' hk := (h hk).trans (h' (h hk).clock)
  schedule _ _ _ h := .of_sameTime h ⟨rfl, rfl, rfl⟩ rfl rfl
  advance h hk := .of_advanced hk (advanced_advanceTime h)
  used hu hk := .of_spared hk hu.spared

end SimulatedKernel

namespace Session

open SimulatedKernel

variable {call : Call} {answer : Answer} {w : Session}

/-! ## The changes of a call -/

inductive Stored (k : SimulatedKernel) (c : Nat) : CapabilityMetadata → Call → Prop
  | granted {call t lease} : call.grant = some (t, c) → Stored k c ⟨c, t, "Generic", .valid, none, false, lease⟩ call
  | delegated {t t' info} : k.capabilityTable[c]? = some info → k.UsableBy info t → t' ∈ k.tasks →
      Stored k c { info with owner := t' } (.delegateCapability c t t')
  | dropped {t info} : k.capabilityTable[c]? = some info → k.UsableBy info t →
      Stored k c (ended info) (.dropCapability c t)
  | revoked {t reason info} : k.capabilityTable[c]? = some info → k.UsableBy info t →
      Stored k c (ended { info with revoked := true }) (.revokeCapability c t reason)

inductive Change (k : SimulatedKernel) (call : Call) (answer : Answer) (k' : SimulatedKernel) : Prop
  | elapsed (elapsed : Elapsed k k')
  | spawned {ids info} (drawn : call.drawn = some ids) (time : SameTime k k')
      (tasks : k'.tasks = k.tasks.insert ids.task info) (table : k'.capabilityTable = k.capabilityTable)
  | terminated {orders t reason} (call : call = .terminateTask orders t reason) (terminated : Terminated k t k')
  | stored {c info} (stored : Stored k c info call) (ok : answer.isErr = false) (time : SameTime k k')
      (tasks : k'.tasks = k.tasks) (table : k'.capabilityTable = k.capabilityTable.insert c info)

theorem Effect.change (h : Effect k call answer k') (hclock : k.Clock) : Change k call answer k' := by
  cases h with
  | untouched h => exact .elapsed (.of_spared hclock h.spared)
  | cancelled h mem => exact .elapsed (runRule_elapsed.used (.cancelled h mem) hclock)
  | identity | accessGranted => exact .elapsed (.of_sameTime hclock ⟨rfl, rfl, rfl⟩ rfl rfl)
  | spawned hdrawn _ h =>
    obtain ⟨_, _, _, -, -, rfl⟩ := admitTask_parts h
    exact .spawned hdrawn ⟨rfl, rfl, rfl⟩ rfl rfl
  | terminated => exact .terminated rfl (terminated_terminateTaskWithReason ..)
  | timed h => exact .elapsed (runRule_elapsed.timed h hclock)
  | granted hgrant => exact .stored (.granted hgrant) rfl ⟨rfl, rfl, rfl⟩ rfl rfl
  | delegated hinfo husable hto hnoted =>
    obtain rfl | ⟨_, _, rfl⟩ := hnoted <;>
      exact .stored (.delegated hinfo husable hto) rfl ⟨rfl, rfl, rfl⟩ rfl rfl
  | dropped hinfo husable => exact .stored (.dropped hinfo husable) rfl ⟨rfl, rfl, rfl⟩ rfl rfl
  | revoked hinfo husable => exact .stored (.revoked hinfo husable) rfl ⟨rfl, rfl, rfl⟩ rfl rfl
  | accessRevoked =>
    obtain ⟨_, heq⟩ := revokeChannelAccess_parts k _ _
    rw [heq]
    exact .elapsed (.of_sameTime hclock ⟨rfl, rfl, rfl⟩ rfl rfl)

namespace Change

variable {k k' : SimulatedKernel} {call : Call} {answer : Answer}

theorem clock (h : Change k call answer k') (hclock : k.Clock) : k'.Clock := by
  cases h with
  | elapsed h => exact h.clock
  | spawned _ time | stored _ _ time => exact time.clock hclock
  | terminated _ h => exact SameTime.clock { h with } hclock

theorem currentTime (h : Change k call answer k') : k.currentTime ≤ k'.currentTime := by
  cases h with
  | elapsed h => exact h.currentTime
  | spawned _ time | stored _ _ time => exact time.currentTime.ge
  | terminated _ h => exact h.currentTime.ge

theorem mem_tasks (h : Change k call answer k') {t} (ht : t ∈ k'.tasks) :
    t ∈ k.tasks ∨ ∃ ids ∈ call.drawn, ids.task = t := by
  cases h with
  | elapsed h => exact .inl (h.tasks ▸ ht)
  | spawned hdrawn _ tasks =>
    rw [tasks, mem_insert, Std.LawfulEqOrd.compare_eq_iff_eq] at ht
    obtain rfl | ht := ht
    · exact .inr ⟨_, hdrawn, rfl⟩
    · exact .inl ht
  | terminated _ h =>
    rw [h.tasks] at ht
    exact .inl (mem_of_mem_erase ht)
  | stored _ _ _ tasks => exact .inl (tasks ▸ ht)

end Change

structure Sound (w : Session) : Prop where
  clock : w.kernel.Clock
  drawn : ∀ t ∈ w.kernel.tasks, t ∈ w.drawnTasks

theorem sound_start (setup) : (start setup).Sound := by
  rw [start, setup.boot_eq]
  constructor
  · exact (Nat.zero_mul _).symm
  · intro t ht
    exact absurd ht not_mem_empty

theorem Sound.step {w'} (h : w.Sound) (hs : machine.step w call = some (answer, w')) :
    w'.Sound ∧ Change w.kernel call answer w'.kernel := by
  obtain ⟨-, -, hdrawn, -⟩ := step_perform hs
  have hchange := (step_effect hs).change h.clock
  refine ⟨⟨hchange.clock h.clock, fun t ht => ?_⟩, hchange⟩
  rw [hdrawn]
  obtain ht | ⟨ids, hids, rfl⟩ := hchange.mem_tasks ht
  · exact List.mem_append_right _ (h.drawn t ht)
  · rw [mem_def.mp hids]
    exact List.mem_append_left _ (List.mem_singleton.mpr rfl)

theorem sound_of_run {setup tr} (h : machine.FreeRun (start setup) tr w) : w.Sound :=
  h.invariantTrace (P := fun _ (w : Session) => w.Sound) (fun _ _ _ _ _ hw hs _ => (hw.step hs).1) []
    (sound_start setup)

end Session

end PandaGen.Kernel
