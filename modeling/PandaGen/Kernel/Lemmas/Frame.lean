import PandaGen.Kernel.Session

/-!
# What the methods of the kernel leave alone

Messages, memory, services and the use of resources do not touch the tables that say who may run and who owns
what, unless a budget is exhausted: then the identity is cancelled.
-/

namespace PandaGen.Kernel

theorem Setup.boot_eq (c : Setup) : c.boot = { SimulatedKernel.withTickResolution c.tickDuration with
      scheduler := .withConfig c.schedulerConfig
      channelCapacity := max c.channelCapacity 1
      faultInjector := c.faultPlan.map .new
      policyEngine := c.policyEngine
      smp := c.coreCount.map fun n => .new (.withCores n) } := by
  rw [boot]
  cases c.faultPlan <;> cases c.policyEngine <;> cases c.coreCount <;> rfl

namespace SimulatedKernel

open Lib Proc Option Std.ExtTreeMap

structure Untouched (k k' : SimulatedKernel) : Prop where
  timerTicks : k'.timerTicks = k.timerTicks
  currentTime : k'.currentTime = k.currentTime
  nanosPerTick : k'.nanosPerTick = k.nanosPerTick
  tasks : k'.tasks = k.tasks
  channelAccess : k'.channelAccess = k.channelAccess
  capabilityTable : k'.capabilityTable = k.capabilityTable
  capabilityAudit : k'.capabilityAudit = k.capabilityAudit
  identities : ∀ e, e ∈ k'.identityTable ↔ e ∈ k.identityTable
  taskToIdentity : k'.taskToIdentity = k.taskToIdentity
  cancelledIdentities : k'.cancelledIdentities = k.cancelledIdentities
  scheduler : k'.scheduler = k.scheduler
  smp : k'.smp = k.smp

theorem Untouched.refl (k) : Untouched k k :=
  ⟨rfl, rfl, rfl, rfl, rfl, rfl, rfl, fun _ => .rfl, rfl, rfl, rfl, rfl⟩

theorem untouched_parts
    (k channels services servicePolicies faultInjector delayedMessages exitNotifications resourceAudit
      currentReceiveTask addressSpaceManager) :
    Untouched k { k with
      channels, services, servicePolicies, faultInjector, delayedMessages
      exitNotifications, resourceAudit, currentReceiveTask, addressSpaceManager } :=
  ⟨rfl, rfl, rfl, rfl, rfl, rfl, rfl, fun _ => .rfl, rfl, rfl, rfl, rfl⟩

theorem Untouched.trans {k k' k''} (h : Untouched k k') (h' : Untouched k' k'') : Untouched k k'' where
  timerTicks := h'.timerTicks.trans h.timerTicks
  currentTime := h'.currentTime.trans h.currentTime
  nanosPerTick := h'.nanosPerTick.trans h.nanosPerTick
  tasks := h'.tasks.trans h.tasks
  channelAccess := h'.channelAccess.trans h.channelAccess
  capabilityTable := h'.capabilityTable.trans h.capabilityTable
  capabilityAudit := h'.capabilityAudit.trans h.capabilityAudit
  identities := fun e => (h'.identities e).trans (h.identities e)
  taskToIdentity := h'.taskToIdentity.trans h.taskToIdentity
  cancelledIdentities := h'.cancelledIdentities.trans h.cancelledIdentities
  scheduler := h'.scheduler.trans h.scheduler
  smp := h'.smp.trans h.smp

theorem untouched_usage {k e identity} (h : k.identityTable[e]? = some identity) (identity' resourceAudit) :
    Untouched k { k with identityTable := k.identityTable.insert e identity', resourceAudit } := by
  refine ⟨rfl, rfl, rfl, rfl, rfl, rfl, rfl, fun a => ?_, rfl, rfl, rfl, rfl⟩
  have hmem : e ∈ k.identityTable := mem_iff_isSome_getElem?.mpr (by rw [h]; rfl)
  rw [mem_insert, Std.LawfulEqOrd.compare_eq_iff_eq]
  exact or_iff_right_of_imp fun ha => ha ▸ hmem

/-! ## Resources -/

/-- The check against the limit, or the sum it reports, is past the largest number. -/
def Consumption.Overflows (c : Consumption) (budget : ResourceBudget) (usage : Nat) : Prop :=
  match c.passedLimit budget usage with
  | none => True
  | some none => False
  | some (some _) => 2 ^ 64 ≤ usage + c.amount

inductive Consumed (orders : HashOrders) (k : SimulatedKernel) (e : ExecutionId) (c : Consumption) :
    Except (Fault KernelError) Unit → SimulatedKernel → Prop
  | refused {error} (cancelled : e ∈ k.cancelledIdentities) : Consumed orders k e c (.error (.err error)) k
  | free (active : e ∉ k.cancelledIdentities) (unmetered : k.identityTable[e]?.bind IdentityMetadata.budget = none) :
      Consumed orders k e c (.ok ()) k
  | spent {identity budget resourceAudit} (active : e ∉ k.cancelledIdentities)
      (known : k.identityTable[e]? = some identity) (metered : identity.budget = some budget)
      (within : c.passedLimit budget (c.usage identity.usage) = some none) :
      Consumed orders k e c (.ok ()) { k with
        identityTable := k.identityTable.insert e { identity with usage := c.consume identity.usage }
        resourceAudit }
  | exhausted {identity budget limit error resourceAudit} (active : e ∉ k.cancelledIdentities)
      (known : k.identityTable[e]? = some identity) (metered : identity.budget = some budget)
      (passed : c.passedLimit budget (c.usage identity.usage) = some (some limit))
      (fits : ¬ c.Overflows budget (c.usage identity.usage)) :
      Consumed orders k e c (.error (.err error)) ({ k with resourceAudit }.cancelIdentity orders e c.resourceType)
  | overflow {identity budget} (active : e ∉ k.cancelledIdentities) (known : k.identityTable[e]? = some identity)
      (metered : identity.budget = some budget) (overflows : c.Overflows budget (c.usage identity.usage)) :
      Consumed orders k e c (.error .panic) k

variable (orders : HashOrders)

theorem tryConsume_consumed (k e c) : (tryConsume orders e c).Post k (Consumed orders k e c) := by
  rw [tryConsume]
  simp only [post_bind, post_get, post_failIf]
  split
  · rename_i hcancelled
    exact .refused (of_decide_eq_true hcancelled)
  rename_i hactive
  have hactive : e ∉ k.cancelledIdentities := fun hmem => hactive (decide_eq_true hmem)
  cases hidentity : k.identityTable[e]? with
  | none => exact .free hactive (by rw [hidentity]; rfl)
  | some identity =>
    dsimp only
    cases hbudget : identity.budget with
    | none => exact .free hactive (by rw [hidentity]; exact hbudget)
    | some budget =>
      simp only [post_bind, post_okOrPanic]
      cases hpassed : c.passedLimit budget (c.usage identity.usage) with
      | none => exact .overflow hactive hidentity hbudget (by rw [Consumption.Overflows, hpassed]; trivial)
      | some passed =>
        cases passed with
        | none =>
          rw [← hbudget]
          exact .spent hactive hidentity hbudget hpassed
        | some limit =>
          simp only [post_bind, post_okOrPanic, checkedAdd]
          by_cases hfits : c.usage identity.usage + c.amount < 2 ^ 64
          · rw [if_pos hfits]
            refine .exhausted hactive hidentity hbudget hpassed ?_
            rw [Consumption.Overflows, hpassed]
            exact Nat.not_le.mpr hfits
          · rw [if_neg hfits]
            refine .overflow hactive hidentity hbudget ?_
            rw [Consumption.Overflows, hpassed]
            exact Nat.not_lt.mp hfits

inductive Used (orders : HashOrders) (k : SimulatedKernel) : SimulatedKernel → Prop
  | untouched {k'} : Untouched k k' → Used orders k k'
  | cancelled {e k₁ reason} : Untouched k k₁ → e ∈ k.identityTable → Used orders k (k₁.cancelIdentity orders e reason)

theorem Consumed.untouched {orders k k' e c} (h : Consumed orders k e c (.ok ()) k') : Untouched k k' := by
  cases h with
  | free => exact .refl k
  | spent _ known => exact untouched_usage known _ _

theorem Consumed.used {orders k k' e c r} (h : Consumed orders k e c r k') : Used orders k k' := by
  cases h with
  | refused | free | overflow => exact .untouched (.refl k)
  | spent _ known => exact .untouched (untouched_usage known _ _)
  | exhausted _ known =>
    have hmem : e ∈ k.identityTable := mem_iff_isSome_getElem?.mpr (by rw [known]; rfl)
    exact .cancelled (untouched_parts k ..) hmem

/-! ## Messages -/

def Mailing (k k' : SimulatedKernel) : Prop :=
  ∃ channels faultInjector delayedMessages, k' = { k with channels, faultInjector, delayedMessages }

variable {k k' k'' : SimulatedKernel}

theorem Mailing.refl (k) : Mailing k k := ⟨_, _, _, rfl⟩

theorem Mailing.trans (h : Mailing k k') (h' : Mailing k' k'') : Mailing k k'' := by
  obtain ⟨_, _, _, rfl⟩ := h
  obtain ⟨_, _, _, rfl⟩ := h'
  exact ⟨_, _, _, rfl⟩

theorem Mailing.untouched (h : Mailing k k') : Untouched k k' := by
  obtain ⟨_, _, _, rfl⟩ := h
  exact untouched_parts k ..

theorem injectFaults_mailing (k c m) : (injectFaults c m).Post k fun _ k' => Mailing k k' := by
  rw [injectFaults, post_get_bind]
  cases k.faultInjector with
  | none => exact .refl k
  | some injector =>
    rw [post_failIf_bind]
    split
    · exact .refl k
    · simp only [post_bind, post_set]
      split <;> exact ⟨_, _, _, rfl⟩

theorem enqueueMessage_mailing (k c m) : (enqueueMessage c m).Post k fun _ k' => Mailing k k' := by
  rw [enqueueMessage, post_get_bind, post_okOr_bind]
  cases k.channels[c]? with
  | none => exact .refl k
  | some queue =>
    dsimp only
    rw [post_okOr_bind]
    cases queue.push m with
    | none => exact .refl k
    | some queue =>
      cases k.faultInjector with
      | none => exact ⟨_, _, _, rfl⟩
      | some injector =>
        simp only [post_bind, post_okOrPanic]
        cases injector.applyReordering queue.messages <;> exact ⟨_, _, _, rfl⟩

theorem postMessage_mailing (k c m) : (postMessage c m).Post k fun _ k' => Mailing k k' := by
  refine (injectFaults_mailing k c m).bind (fun _ _ h => h) fun passage k1 h1 => ?_
  cases passage with
  | dropped => exact h1
  | delayed duration =>
    rw [post_get_bind, post_okOrPanic_bind]
    cases checkedAdd k1.currentTime duration with
    | none => exact h1
    | some deliverAt => exact h1.trans ⟨_, _, _, rfl⟩
  | queued => exact (enqueueMessage_mailing k1 c m).mono fun _ _ h => h1.trans h

theorem dequeueMessage_mailing (k c) : (dequeueMessage c).Post k fun _ k' => Mailing k k' := by
  rw [dequeueMessage, post_get_bind, post_failIf_bind]
  split
  · exact .refl k
  rw [post_okOr_bind]
  cases k.channels[c]? with
  | none => exact .refl k
  | some queue =>
    dsimp only
    cases queue.pop with
    | none => exact .refl k
    | some popped =>
      cases k.faultInjector.mapM FaultInjector.recordMessageProcessed with
      | none => exact .refl k
      | some injector => exact ⟨_, _, _, rfl⟩

/-! ## Services and memory -/

theorem registerService_post (k s c) : (registerService s c).Post k fun _ k' => Untouched k k' := by
  rw [registerService]
  simp only [post_bind, post_get, post_failIf]
  split
  · exact .refl k
  · exact untouched_parts k ..

theorem createAddressSpace_post (k s e) : (createAddressSpace s e).Post k fun _ k' => Untouched k k' := by
  rw [createAddressSpace]
  simp only [post_bind, post_get, post_okOrPanic]
  cases k.addressSpaceManager.createAddressSpace s e k.currentTime with
  | none => exact .refl k
  | some created => exact untouched_parts k ..

/-- How the charge for an allocation ends. -/
inductive MemoryTaken (k : SimulatedKernel) (e : ExecutionId) (size : Nat) :
    Except (Fault MemoryError) Unit → SimulatedKernel → Prop
  | free (unmetered : ∀ identity ∈ k.identityTable[e]?, identity.budget.bind ResourceBudget.memoryUnits = none) :
      MemoryTaken k e size (.ok ()) k
  | refused {f resourceAudit} : MemoryTaken k e size (.error f) { k with resourceAudit }
  | taken {identity limit} (known : k.identityTable[e]? = some identity)
      (metered : identity.budget.bind ResourceBudget.memoryUnits = some limit)
      (within : memoryUnits size = 0 ∨ identity.usage.memoryUnits + memoryUnits size ≤ limit) :
      MemoryTaken k e size (.ok ()) { k with
        identityTable := k.identityTable.insert e
          { identity with usage := identity.usage.consumeMemoryUnits (memoryUnits size) } }

theorem MemoryTaken.untouched {e size a} (h : MemoryTaken k e size a k') : Untouched k k' := by
  cases h with
  | free => exact .refl k
  | refused => exact untouched_parts k ..
  | taken known => exact untouched_usage known _ _

/-- The sum that `allocate_region_op` compares with the limit is past the largest number. -/
def MemoryOverflows (k : SimulatedKernel) (e : ExecutionId) (size : Nat) : Prop :=
  ∃ identity ∈ k.identityTable[e]?, (identity.budget.bind ResourceBudget.memoryUnits).isSome = true ∧
    2 ^ 64 ≤ identity.usage.memoryUnits + memoryUnits size

def MemoryAccepted (k : SimulatedKernel) (e : ExecutionId) (size : Nat) : Prop :=
  ∀ identity ∈ k.identityTable[e]?, ∀ limit ∈ identity.budget.bind ResourceBudget.memoryUnits,
    identity.usage.memoryUnits + memoryUnits size ≤ limit

theorem chargeMemory_taken (k e size) : (chargeMemory e size).Post k fun a k' =>
      (a ≠ .error .panic ∧ (a = .ok () ↔ memoryUnits size = 0 ∨ k.MemoryAccepted e size)) ∧
        MemoryTaken k e size a k' := by
  rw [chargeMemory, post_get_bind, MemoryAccepted]
  cases hidentity : k.identityTable[e]? with
  | none =>
    rw [post_pure]
    exact ⟨by simp, .free (by simp [hidentity])⟩
  | some identity =>
    dsimp only
    cases hlimit : identity.budget.bind ResourceBudget.memoryUnits with
    | none =>
      rw [post_pure]
      exact ⟨by simp [hlimit], .free (by rw [hidentity]; rintro _ ⟨⟩; exact hlimit)⟩
    | some limit =>
      rw [post_failIf_bind]
      split
      · refine ⟨⟨by simp, ?_⟩, .refused⟩
        simp only [Option.mem_some_iff, forall_eq', hlimit, reduceCtorEq, false_iff]
        omega
      · rw [post_set]
        refine ⟨⟨by simp, ?_⟩, .taken hidentity hlimit (by omega)⟩
        simp only [Option.mem_some_iff, forall_eq', hlimit, true_iff]
        omega

theorem chargeMemoryOp_taken (k e size) : (chargeMemoryOp e size).Post k fun a k' =>
      ((a = .error .panic ↔ k.MemoryOverflows e size) ∧
        (a = .ok () ↔ ¬ k.MemoryOverflows e size ∧ k.MemoryAccepted e size)) ∧ MemoryTaken k e size a k' := by
  rw [chargeMemoryOp, post_get_bind, MemoryOverflows, MemoryAccepted]
  cases hidentity : k.identityTable[e]? with
  | none =>
    rw [post_pure]
    exact ⟨by simp, .free (by simp [hidentity])⟩
  | some identity =>
    dsimp only
    cases hlimit : identity.budget.bind ResourceBudget.memoryUnits with
    | none =>
      rw [post_pure]
      exact ⟨by simp [hlimit], .free (by rw [hidentity]; rintro _ ⟨⟩; exact hlimit)⟩
    | some limit =>
      rw [post_okOrPanic_bind, checkedAdd]
      simp only [Option.mem_some_iff, exists_eq_left', forall_eq', hlimit, Option.isSome_some, true_and, Nat.not_le]
      by_cases hsum : identity.usage.memoryUnits + memoryUnits size < 2 ^ 64
      · rw [if_pos hsum]
        dsimp only
        split
        · simp only [post_bind, post_set, post_throw]
          exact ⟨⟨by simpa using hsum, by simpa using fun _ => ‹_›⟩, .refused⟩
        · rw [post_set]
          exact ⟨⟨by simpa using hsum, by simpa using ⟨hsum, Nat.not_lt.mp ‹_›⟩⟩, .taken hidentity hlimit (by omega)⟩
      · rw [if_neg hsum]
        exact ⟨⟨by simpa using hsum, iff_of_false (by simp) fun h => hsum h.1⟩, .refused⟩

theorem post_get_onAddressSpaces {α : Type} (k : SimulatedKernel) (m : Nat → Proc AddressSpaceManager MemoryError α) :
    (do let k ← get; onAddressSpaces (m k.currentTime)).Post k fun _ k' => Untouched k k' := by
  exact untouched_parts k ..

theorem post_charge_onAddressSpaces {α : Type} {k charge}
    (h : charge.Post k fun _ k' => Untouched k k') (m : Nat → Proc AddressSpaceManager MemoryError α) :
    (do charge; let k ← get; onAddressSpaces (m k.currentTime)).Post k fun _ k' => Untouched k k' := by
  refine h.bind (fun _ _ h => h) fun _ k1 h1 => ?_
  exact (post_get_onAddressSpaces k1 m).mono fun _ _ h => h1.trans h

/-! ## Tasks -/

theorem cancelIdentity_parts (k : SimulatedKernel) (orders) (e : ExecutionId) (reason) :
    ∃ k1 resourceAudit, k.cancelIdentity orders e reason = { k with
        cancelledIdentities := k.cancelledIdentities.insert e reason
        resourceAudit
        scheduler := k1.scheduler
        smp := k1.smp } ∧
      ((∃ t, k.taskToIdentity[t]? = some e ∧ k1 = k.cancelTask t) ∨
        (∀ t : TaskId, k.taskToIdentity[t]? ≠ some e) ∧ k1 = k) := by
  rw [cancelIdentity]
  split
  · rename_i t ht
    have hfound := List.find?_some ht
    refine ⟨k.cancelTask t, (k.recordResource (.cancelledDueToExhaustion e reason)).resourceAudit, ?_,
      .inl ⟨t, of_decide_eq_true hfound, rfl⟩⟩
    rw [cancelTask, cancelTask]
    dsimp only [recordResource]
    split <;> rfl
  · rename_i hnone
    refine ⟨k, _, rfl, .inr ⟨fun t ht => ?_, rfl⟩⟩
    have hmem : t ∈ (orders.identities k.timerTicks).order k.taskToIdentity.keys := by
      rw [HashOrder.mem_order, mem_keys, mem_iff_isSome_getElem?, ht]
      rfl
    exact List.find?_eq_none.mp hnone t hmem (decide_eq_true ht)

/-- A charge may take a task off the processor. It changes neither what there is nor who may do what. -/
structure Spared (k k' : SimulatedKernel) : Prop where
  timerTicks : k'.timerTicks = k.timerTicks
  currentTime : k'.currentTime = k.currentTime
  nanosPerTick : k'.nanosPerTick = k.nanosPerTick
  tasks : k'.tasks = k.tasks
  channelAccess : k'.channelAccess = k.channelAccess
  capabilityTable : k'.capabilityTable = k.capabilityTable
  capabilityAudit : k'.capabilityAudit = k.capabilityAudit

theorem Untouched.spared {k k'} (h : Untouched k k') : Spared k k' :=
  { h with }

theorem Used.spared {orders k k'} (h : Used orders k k') : Spared k k' := by
  cases h with
  | untouched h => exact h.spared
  | cancelled h =>
    obtain ⟨_, _, heq, -⟩ := cancelIdentity_parts _ _ _ _
    rw [heq]
    exact { h with }

theorem admitTask_parts {k k' : SimulatedKernel} {ids : SpawnIds} {d identity}
    (h : k.admitTask ids d identity = some k') : ∃ k1 cap addressSpaceManager, k.enqueueTask ids.task = some k1 ∧
      k.addressSpaceManager.createAddressSpace ids.space ids.execution k.currentTime =
        some (cap, addressSpaceManager) ∧
      k' = { k with
        identityTable := k.identityTable.insert ids.execution identity
        taskToIdentity := k.taskToIdentity.insert ids.task ids.execution
        tasks := k.tasks.insert ids.task ⟨d, ids.execution⟩
        scheduler := k1.scheduler
        smp := k1.smp
        addressSpaceManager } := by
  obtain ⟨k1, henqueue, h⟩ := bind_eq_some_iff.mp h
  obtain ⟨⟨cap, manager⟩, hcreate, ⟨⟩⟩ := bind_eq_some_iff.mp h
  rw [enqueueTask] at henqueue ⊢
  dsimp only at henqueue
  split at henqueue
  · obtain ⟨scheduler, hscheduler, heq⟩ := bind_eq_some_iff.mp henqueue
    cases heq
    rw [hscheduler]
    exact ⟨_, cap, manager, rfl, hcreate, rfl⟩
  · cases henqueue
    exact ⟨_, cap, manager, rfl, hcreate, rfl⟩

theorem releaseIdentity_parts (k : SimulatedKernel) (t reason) : ∃ exitNotifications, k.releaseIdentity t reason =
      { k with
        taskToIdentity := k.taskToIdentity.erase t
        exitNotifications
        addressSpaceManager := (k.taskToIdentity[t]?).elim k.addressSpaceManager fun e =>
          k.addressSpaceManager.destroyAddressSpace e k.currentTime } := by
  rw [releaseIdentity]
  split
  · rename_i hsome
    exact ⟨_, by rw [hsome]; rfl⟩
  · rename_i hnone
    have herase : k.taskToIdentity.erase t = k.taskToIdentity := by
      refine ext_getElem? fun a => ?_
      rw [BTreeMap.getElem?_erase]
      split
      · rename_i ha
        rw [← ha, hnone]
      · rfl
    exact ⟨k.exitNotifications, by rw [herase, hnone]; rfl⟩

theorem revokeChannelAccess_parts (k : SimulatedKernel) (c t) :
    ∃ channelAccess, k.revokeChannelAccess c t = { k with channelAccess } := by
  rw [revokeChannelAccess]
  split
  · dsimp only
    split <;> exact ⟨_, rfl⟩
  · exact ⟨k.channelAccess, rfl⟩

end SimulatedKernel

end PandaGen.Kernel
