import PandaGen.Kernel.Lemmas.Capability

/-!
# Identities

Every identity the kernel knows was drawn, and no two tasks share one.
-/

namespace PandaGen.Kernel

open Lib List Std.ExtTreeMap

namespace SimulatedKernel

/-- A charge for the processor fails only if the identity of the task is cancelled, then or before. -/
theorem chargeCpu_cases {k k' orders t ticks failed} (h : k.chargeCpu orders t ticks = some (failed, k')) :
    failed = false ∧ Untouched k k' ∨ failed = true ∧ ∃ e, k.taskToIdentity[t]? = some e ∧
      (e ∈ k.cancelledIdentities ∧ k' = k ∨ ∃ k1 reason, Untouched k k1 ∧ k' = k1.cancelIdentity orders e reason) := by
  rw [chargeCpu] at h
  split at h
  · rename_i e he
    obtain ⟨⟨r, k1⟩, hcall, ⟨⟩⟩ := Option.bind_eq_some_iff.mp h
    have hconsumed := (tryConsume_consumed orders k e _).of_call hcall
    cases r with
    | ok => exact .inl ⟨rfl, hconsumed.untouched⟩
    | error =>
      cases hconsumed with
      | refused hcancelled => exact .inr ⟨rfl, e, he, .inl ⟨hcancelled, rfl⟩⟩
      | exhausted => exact .inr ⟨rfl, e, he, .inr ⟨_, _, untouched_parts k .., rfl⟩⟩
  · cases h
    exact .inl ⟨rfl, .refl k⟩

structure Identified (drawn : List ExecutionId) (k : SimulatedKernel) : Prop where
  identity : ∀ e ∈ k.identityTable, e ∈ drawn
  task : ∀ (t : TaskId) e, k.taskToIdentity[t]? = some e → e ∈ drawn
  cancelled : ∀ e ∈ k.cancelledIdentities, e ∈ drawn
  distinct : ∀ (t u : TaskId) e, k.taskToIdentity[t]? = some e → k.taskToIdentity[u]? = some e → t = u

variable {drawn : List ExecutionId} {k k' : SimulatedKernel}

section

variable (h : Identified drawn k)
include h

theorem Identified.congr (hidentities : ∀ e, e ∈ k'.identityTable ↔ e ∈ k.identityTable)
    (htasks : k'.taskToIdentity = k.taskToIdentity) (hcancelled : k'.cancelledIdentities = k.cancelledIdentities) :
    Identified drawn k' where
  identity e he := h.identity e ((hidentities e).mp he)
  task := htasks ▸ h.task
  cancelled := hcancelled ▸ h.cancelled
  distinct := htasks ▸ h.distinct

theorem Identified.of_untouched (hu : Untouched k k') : Identified drawn k' :=
  h.congr hu.identities hu.taskToIdentity hu.cancelledIdentities

theorem Identified.cancelIdentity (orders) {e} (he : e ∈ drawn) (reason) :
    Identified drawn (k.cancelIdentity orders e reason) := by
  obtain ⟨_, _, heq, -⟩ := cancelIdentity_parts k orders e reason
  rw [heq]
  refine ⟨h.identity, h.task, fun a ha => ?_, h.distinct⟩
  rw [mem_insert, Std.LawfulEqOrd.compare_eq_iff_eq] at ha
  obtain rfl | ha := ha
  · exact he
  · exact h.cancelled a ha

omit h in
theorem runRule_identified (drawn) : RunRule fun k k' => Identified drawn k → Identified drawn k' where
  refl _ := id
  trans h h' := h' ∘ h
  schedule _ _ _ h := h.congr (fun _ => .rfl) rfl rfl
  advance hk h := by
    have ha := advanced_advanceTime hk
    exact h.congr (fun _ => by rw [ha.identityTable]) ha.taskToIdentity ha.cancelledIdentities
  used hu h := by
    cases hu with
    | untouched hu => exact h.of_untouched hu
    | cancelled hu mem => exact (h.of_untouched hu).cancelIdentity _ (h.identity _ mem) _

theorem Identified.mono {drawn'} (hsub : ∀ e ∈ drawn, e ∈ drawn') : Identified drawn' k :=
  ⟨fun e he => hsub e (h.identity e he), fun t e ht => hsub e (h.task t e ht),
    fun e he => hsub e (h.cancelled e he), h.distinct⟩

theorem Identified.admitTask {ids d i} (hspawned : k.admitTask ids d i = some k')
    (hfresh : ids.execution ∉ drawn) : Identified (ids.execution :: drawn) k' := by
  obtain ⟨_, _, _, -, -, rfl⟩ := admitTask_parts hspawned
  have htask : ∀ (t : TaskId) e, (k.taskToIdentity.insert ids.task ids.execution)[t]? = some e →
      ids.task = t ∧ ids.execution = e ∨ k.taskToIdentity[t]? = some e := by
    intro t e ht
    rw [BTreeMap.getElem?_insert] at ht
    split at ht
    · rename_i hids
      exact .inl ⟨hids, Option.some.inj ht⟩
    · exact .inr ht
  constructor
  case identity =>
    intro e he
    rw [mem_insert, Std.LawfulEqOrd.compare_eq_iff_eq] at he
    obtain rfl | he := he
    · exact mem_cons_self
    · exact mem_cons_of_mem _ (h.identity e he)
  case task =>
    intro t e ht
    obtain ⟨-, rfl⟩ | ht := htask t e ht
    · exact mem_cons_self
    · exact mem_cons_of_mem _ (h.task t e ht)
  case cancelled => exact fun e he => mem_cons_of_mem _ (h.cancelled e he)
  case distinct =>
    intro t u e ht hu
    obtain ⟨rfl, rfl⟩ | ht := htask t e ht
    · obtain ⟨hu, -⟩ | hu := htask u _ hu
      · exact hu
      · exact absurd (h.task u _ hu) hfresh
    · obtain ⟨-, rfl⟩ | hu := htask u e hu
      · exact absurd (h.task t _ ht) hfresh
      · exact h.distinct t u e ht hu

theorem Identified.terminated {t} (ht : Terminated k t k') : Identified drawn k' := by
  have herase : ∀ (u : TaskId) e, k'.taskToIdentity[u]? = some e → k.taskToIdentity[u]? = some e := by
    intro u e hu
    rw [ht.taskToIdentity, BTreeMap.getElem?_erase] at hu
    split at hu
    · cases hu
    · exact hu
  constructor
  case identity => exact ht.identityTable ▸ h.identity
  case task => exact fun u e hu => h.task u e (herase u e hu)
  case cancelled => exact ht.cancelledIdentities ▸ h.cancelled
  case distinct => exact fun u v e hu hv => h.distinct u v e (herase u e hu) (herase v e hv)

end

end SimulatedKernel

namespace Session

open SimulatedKernel

abbrev Identified (w : Session) : Prop := SimulatedKernel.Identified w.drawnExecutions w.kernel

theorem executions_of_drawn {call : Call} {ids : SpawnIds} (h : call.drawn = some ids) :
    call.executions = [ids.execution] := by
  cases call <;> cases h <;> rfl

theorem Effect.identified {k k'} {call : Call} {answer} (h : Effect k call answer k') {drawn}
    (hk : SimulatedKernel.Identified drawn k) (hfresh : ∀ ids ∈ call.drawn, ids.execution ∉ drawn) :
    SimulatedKernel.Identified (call.executions ++ drawn) k' := by
  have hmono : ∀ {k'}, SimulatedKernel.Identified drawn k' →
      SimulatedKernel.Identified (call.executions ++ drawn) k' := fun h => h.mono fun _ => mem_append_right _
  have hrule := runRule_identified drawn
  cases h with
  | untouched h => exact hmono (hk.of_untouched h)
  | cancelled h mem => exact hmono (hrule.used (.cancelled h mem) hk)
  | @identity i =>
    refine ⟨fun e he => ?_, fun t e ht => mem_cons_of_mem _ (hk.task t e ht),
      fun e he => mem_cons_of_mem _ (hk.cancelled e he), hk.distinct⟩
    rw [mem_insert, Std.LawfulEqOrd.compare_eq_iff_eq] at he
    obtain rfl | he := he
    · exact mem_cons_self
    · exact mem_cons_of_mem _ (hk.identity e he)
  | spawned hdrawn _ hspawned =>
    rw [executions_of_drawn hdrawn]
    exact hk.admitTask hspawned (hfresh _ hdrawn)
  | terminated => exact hmono (hk.terminated (terminated_terminateTaskWithReason ..))
  | timed h => exact hmono (hrule.timed h hk)
  | granted | dropped | revoked | accessGranted => exact hmono (hk.congr (fun _ => .rfl) rfl rfl)
  | delegated _ _ _ hnoted =>
    obtain rfl | ⟨_, _, rfl⟩ := hnoted <;> exact hmono (hk.congr (fun _ => .rfl) rfl rfl)
  | accessRevoked =>
    obtain ⟨_, heq⟩ := revokeChannelAccess_parts k _ _
    rw [heq]
    exact hmono (hk.congr (fun _ => .rfl) rfl rfl)

theorem identified_start (setup) : (start setup).Identified := by
  rw [start, setup.boot_eq]
  constructor <;> simp [withTickResolution]

theorem Identified.step {w w' call answer} (h : w.Identified) (hs : machine.step w call = some (answer, w')) :
    w'.Identified := by
  obtain ⟨hfresh, -, -, hexecutions⟩ := step_perform hs
  rw [Identified, hexecutions]
  exact (step_effect hs).identified h fun ids hids => (hfresh ids hids).2

end Session

end PandaGen.Kernel
