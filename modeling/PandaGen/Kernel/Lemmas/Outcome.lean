import PandaGen.Kernel.Lemmas.Footprint
import PandaGen.Kernel.Lemmas.Memory

/-!
# What a call does to accounts, messages and memory

Spawns, charges, messages, allocations and the passing of time, each said once.
-/

namespace PandaGen.Kernel

open Lib Proc AddressSpaceManager Option

namespace SimulatedKernel

variable {k k' : SimulatedKernel} {orders : HashOrders}

def Mailed (k k' : SimulatedKernel) : Prop := ∃ k₁, Accounting k k₁ ∧ Charges k k₁ ∧ Mailing k₁ k'

theorem Mailed.refl (k) : Mailed k k := ⟨k, .refl k, .refl k, .refl k⟩

theorem sendMessage_mailed (orders k c m) : (sendMessage orders c m).Post k fun _ k' => Mailed k k' :=
  post_exchange (chargeSource_charged orders k m) (fun _ => .refl k)
    (fun _ k1 h => ⟨k1, h.accounting, h.charges, .refl k1⟩)
    fun _ k1 h => (postMessage_mailing k1 c m).mono fun _ _ h' => ⟨k1, h.accounting, h.charges, h'⟩

theorem receiveMessage_mailed (orders k c) : (receiveMessage orders c).Post k fun _ k' => Mailed k k' :=
  post_exchange (chargeReceiver_charged orders k) (fun _ => .refl k)
    (fun _ k1 h => ⟨k1, h.accounting, h.charges, .refl k1⟩)
    fun _ k1 h => (dequeueMessage_mailing k1 c).mono fun _ _ h' => ⟨k1, h.accounting, h.charges, h'⟩

structure Passed (k k' : SimulatedKernel) : Prop where
  charges : Charges k k'
  faultInjector : k'.faultInjector = k.faultInjector
  taskToIdentity : k'.taskToIdentity = k.taskToIdentity
  addressSpaceManager : k'.addressSpaceManager = k.addressSpaceManager
  channelCapacity : k'.channelCapacity = k.channelCapacity

theorem loopRule_passed : LoopRule Passed where
  refl k := ⟨.refl k, rfl, rfl, rfl, rfl⟩
  trans h h' :=
    ⟨h.charges.trans h'.charges, h'.faultInjector.trans h.faultInjector, h'.taskToIdentity.trans h.taskToIdentity,
      h'.addressSpaceManager.trans h.addressSpaceManager, h'.channelCapacity.trans h.channelCapacity⟩
  schedule _ _ _ := ⟨.of_eq rfl rfl, rfl, rfl, rfl, rfl⟩
  advance h := by
    obtain ⟨_, _, _, _, rfl, -⟩ := advanceTime_parts h
    exact ⟨.of_eq rfl rfl, rfl, rfl, rfl, rfl⟩
  charge h := by
    obtain ⟨haccounting, hcharges⟩ := chargeCpu_accounting h
    obtain ⟨_, _, _, _, _, rfl⟩ := haccounting
    exact ⟨hcharges, rfl, rfl, rfl, rfl⟩

structure Allocated (k : SimulatedKernel) (cap : AddressSpaceCap) (region : MemoryRegion) (e : ExecutionId)
    (r : Except (Fault MemoryError) MemoryRegionCap) (k' : SimulatedKernel) : Prop where
  charged : MemoryCharged e k k'
  parts : ∃ k₁ addressSpaceManager, Accounting k k₁ ∧ k' = { k₁ with addressSpaceManager }
  manager : match r with
    | .ok cap' => (AddressSpaceManager.allocateRegion cap region e k.currentTime).call k.addressSpaceManager =
        some (.ok cap', k'.addressSpaceManager)
    | .error (.err _) => k'.addressSpaceManager = k.addressSpaceManager
    | .error .panic => True

theorem allocateRegion_call (m cap region e now) :
    (AddressSpaceManager.allocateRegion cap region e now).Post m fun r m' => match r with
      | .ok cap' => (AddressSpaceManager.allocateRegion cap region e now).call m = some (.ok cap', m')
      | .error (.err _) => m' = m
      | .error .panic => True := by
  have hpost := AddressSpaceManager.allocateRegion_post m cap region e now
  rw [Post] at hpost ⊢
  rcases hexec : (AddressSpaceManager.allocateRegion cap region e now).exec m with ⟨r, m'⟩
  rw [hexec] at hpost
  cases r with
  | ok cap' => simp [call, hexec]
  | error f =>
    cases f with
    | err => exact hpost.2
    | panic => trivial

theorem allocated_of_charge {charge e}
    (h : charge.Post k fun _ k' => Accounting k k' ∧ MemoryCharged e k k') (cap region) : (do
      charge
      let k ← get
      onAddressSpaces (AddressSpaceManager.allocateRegion cap region e k.currentTime)).Post k
        (Allocated k cap region e) := by
  refine h.bind (fun f k1 h => ?_) fun _ k1 h => ?_
  · obtain ⟨haccounting, hcharged⟩ := h
    refine ⟨hcharged, ⟨k1, k1.addressSpaceManager, haccounting, rfl⟩, ?_⟩
    obtain ⟨_, _, _, _, _, rfl⟩ := haccounting
    cases f with
    | err => rfl
    | panic => trivial
  · obtain ⟨haccounting, hcharged⟩ := h
    rw [post_get_bind, onAddressSpaces, post_zoom]
    have hmanager : k1.addressSpaceManager = k.addressSpaceManager ∧ k1.currentTime = k.currentTime := by
      obtain ⟨_, _, _, _, _, rfl⟩ := haccounting
      exact ⟨rfl, rfl⟩
    refine (allocateRegion_call k1.addressSpaceManager cap region e k1.currentTime).mono fun r m hr => ?_
    rw [hmanager.1, hmanager.2] at hr
    exact ⟨{ hcharged with }, ⟨k1, m, haccounting, rfl⟩, hr⟩

theorem allocateRegion_allocated (k r cap size p b e) :
    (allocateRegion r cap size p b e).Post k (Allocated k cap ⟨r, size, p, b⟩ e) := by
  rw [allocateRegion, post_failIf_bind]
  split
  · exact ⟨.of_eq rfl rfl, ⟨k, k.addressSpaceManager, .refl k, rfl⟩, rfl⟩
  · exact allocated_of_charge ((chargeMemory_taken k e size).mono fun _ _ h => ⟨h.2.accounting, h.2.charged⟩) cap _

theorem createAddressSpace_created (k s e) : (createAddressSpace s e).Post k fun r k' => match r with
      | .ok cap => ∃ addressSpaceManager, k.addressSpaceManager.createAddressSpace s e k.currentTime =
          some (cap, addressSpaceManager) ∧ k' = { k with addressSpaceManager }
      | .error f => f = .panic := by
  rw [createAddressSpace, post_get_bind, post_okOrPanic_bind]
  cases k.addressSpaceManager.createAddressSpace s e k.currentTime with
  | none => rfl
  | some created => exact ⟨_, rfl, rfl⟩

theorem call_onAddressSpaces {α : Type} (m : Nat → Proc AddressSpaceManager MemoryError α) (k) :
    (do let k ← get; onAddressSpaces (m k.currentTime)).call k =
      ((m k.currentTime).call k.addressSpaceManager).map fun (a, addressSpaceManager) =>
        (a, { k with addressSpaceManager }) := by
  rw [call_bind]
  exact call_zoom ..

end SimulatedKernel

namespace Session

open SimulatedKernel

def Call.charge : Call → Option (ExecutionId × Resource × Nat)
  | .tryConsumeCpuTicks _ e amount => some (e, .cpuTicks, amount)
  | .tryConsumePipelineStage _ e _ => some (e, .pipelineStages, 1)
  | .tryConsumePacket _ e _ => some (e, .packetCount, 1)
  | .tryConsumeStorageOp _ e _ => some (e, .storageOps, 1)
  | _ => none

def Call.allocation : Call → Option (AddressSpaceCap × MemoryRegion × ExecutionId)
  | .allocateRegion r cap size p b e => some (cap, ⟨r, size, p, b⟩, e)
  | .allocateRegionOp r cap size p b e => some (cap, ⟨r, size, p, b⟩, e)
  | _ => none

def Call.family : Call → Option ExecutionId × Option ExecutionId
  | .spawnTaskWithIdentity _ _ _ _ parentId creatorId => (parentId, creatorId)
  | _ => (none, none)

inductive Outcome (k : SimulatedKernel) : Call → Answer → SimulatedKernel → Prop
  | bookkept {call a k'} (kind : call.isBookkeeping = true) (kept : Bookkept k k') : Outcome k call a k'
  | refused {call a} (spawn : call.drawn.isSome = true) (refused : a.isErr = true) : Outcome k call a k
  | spawned {call a ids d kind domain k'} (drawn : call.drawn = some ids) (accepted : a.isErr = false)
      (admitted : k.admitTask ids d (k.childIdentity ids d kind domain call.family.1 call.family.2) = some k') :
      Outcome k call a k'
  | created {i} :
      Outcome k (.createIdentity i) .done { k with identityTable := k.identityTable.insert i.executionId i }
  | updated {e f} : Outcome k (.updateIdentity e f) .done { k with identityTable := k.identityTable.modify e f }
  | terminated {orders t reason} :
      Outcome k (.terminateTask orders t reason) .done (k.terminateTaskWithReason orders t reason)
  | timed {call a k'} (kind : call.isTimed = true) (loop : ∀ {R}, LoopRule R → R k k') : Outcome k call a k'
  | charged {call e resource c orders r k'} (kind : call.charge = some (e, resource, c.amount))
      (meters : c.Meters resource) (consumed : Consumed orders k e c (r.mapError Fault.err) k') :
      Outcome k call (.result r) k'
  | opened {c} : Outcome k (.createChannel c) (.channel (.ok c))
      { k with channels := k.channels.insert c (.withCapacity k.channelCapacity) }
  | sent {orders c m r k'} (call : (sendMessage orders c m).call k = some (r, k')) :
      Outcome k (.sendMessage orders c m) (.result r) k'
  | received {orders c r k'} (call : (receiveMessage orders c).call k = some (r, k')) :
      Outcome k (.receiveMessage orders c) (.message r) k'
  | space {s e cap addressSpaceManager} (created : k.addressSpaceManager.createAddressSpace s e k.currentTime =
      some (cap, addressSpaceManager)) :
      Outcome k (.createAddressSpace s e) (.space (.ok cap)) { k with addressSpaceManager }
  | allocated {call cap region e r k'} (kind : call.allocation = some (cap, region, e))
      (allocated : Allocated k cap region e (r.mapError Fault.err) k') : Outcome k call (.region r) k'
  | accessed {cap kind e r addressSpaceManager} (call : (AddressSpaceManager.accessRegion cap kind e k.currentTime).call
      k.addressSpaceManager = some (r, addressSpaceManager)) :
      Outcome k (.accessRegion cap kind e) (.access r) { k with addressSpaceManager }
  | activated {drawn e r addressSpaceManager} (call : (AddressSpaceManager.activateSpace drawn e k.currentTime).call
      k.addressSpaceManager = some (r, addressSpaceManager)) :
      Outcome k (.activateAddressSpace drawn e) (.access r) { k with addressSpaceManager }

variable {k k' : SimulatedKernel} {call : Call} {a : Answer}

theorem outcome_of_charging {orders m e resource amount} (hm : Charging m orders e resource amount)
    (hkind : call.charge = some (e, resource, amount)) (h : answer k m .result = some (a, k')) :
    Outcome k call a k' := by
  obtain ⟨c, hmeters, rfl, rfl⟩ := hm
  obtain ⟨r, rfl, hr⟩ := exists_of_answer h (tryConsume_consumed orders k e c)
  exact .charged hkind hmeters hr

theorem allocated_of_perform {cap region e} (hcall : call.allocation = some (cap, region, e))
    (h : perform k call = some (a, k')) : ∃ r, .region r = a ∧ Allocated k cap region e (r.mapError Fault.err) k' := by
  cases call <;> cases hcall
  case allocateRegion r size p b => exact exists_of_answer h (allocateRegion_allocated k r cap size p b e)
  case allocateRegionOp r size p b =>
    refine exists_of_answer h (allocated_of_charge ((chargeMemoryOp_taken k e size).mono fun _ _ h => ?_) cap _)
    exact ⟨h.2.accounting, h.2.charged⟩

theorem perform_outcome (h : perform k call = some (a, k')) : Outcome k call a k' := by
  cases call with
  | clearExitNotifications | yieldNow | grantCapability | grantCapabilityWithLease | delegateCapability | dropCapability
  | revokeCapability | grantChannelAccess | revokeChannelAccess | setReceiveContext | clearReceiveContext
  | registerService | registerServiceWithSchema | setServiceSchemaPolicy =>
    exact .bookkept rfl (perform_bookkept rfl h)
  | createIdentity =>
    cases h
    exact .created
  | updateIdentity =>
    cases h
    exact .updated
  | spawnTask ids d =>
    obtain ⟨r, rfl, hr⟩ := exists_of_answer h (spawnTask_post k ids d)
    cases r with
    | error =>
      cases hr
      exact .refused rfl rfl
    | ok => exact .spawned rfl rfl hr
  | spawnTaskWithIdentity ids d kind domain parentId creatorId =>
    obtain ⟨r, rfl, hr⟩ :=
      exists_of_answer h (spawnTaskWithIdentity_post k ids d kind domain parentId creatorId)
    cases r with
    | error =>
      cases hr
      exact .refused rfl rfl
    | ok => exact .spawned rfl rfl hr
  | terminateTask orders t reason =>
    cases h
    exact .terminated
  | advanceTime | sleep | runForTicks | runForSteps | runUntilIdle =>
    exact .timed rfl fun hR => hR.timed (perform_timed rfl h)
  | tryConsumeCpuTicks orders e amount => exact outcome_of_charging (charging_cpuTicks orders e amount) rfl h
  | tryConsumePipelineStage orders e stage => exact outcome_of_charging (charging_pipelineStage orders e stage) rfl h
  | tryConsumePacket orders e op => exact outcome_of_charging (charging_packet orders e op) rfl h
  | tryConsumeStorageOp orders e op => exact outcome_of_charging (charging_storageOp orders e op) rfl h
  | createChannel c =>
    cases h
    exact .opened
  | sendMessage orders c m =>
    obtain ⟨⟨r, k1⟩, hcall, ⟨⟩⟩ := map_eq_some_iff.mp h
    exact .sent hcall
  | receiveMessage orders c =>
    obtain ⟨⟨r, k1⟩, hcall, ⟨⟩⟩ := map_eq_some_iff.mp h
    exact .received hcall
  | createAddressSpace s e =>
    obtain ⟨r, rfl, hr⟩ := exists_of_answer h (createAddressSpace_created k s e)
    cases r with
    | error => cases hr
    | ok cap =>
      obtain ⟨m, hcreated, rfl⟩ := hr
      exact .space hcreated
  | allocateRegion | allocateRegionOp =>
    obtain ⟨r, rfl, hr⟩ := allocated_of_perform rfl h
    exact .allocated rfl hr
  | accessRegion cap kind e =>
    obtain ⟨⟨r, k1⟩, hcall, ⟨⟩⟩ := map_eq_some_iff.mp h
    obtain ⟨⟨_, m⟩, hm, ⟨⟩⟩ := map_eq_some_iff.mp ((call_onAddressSpaces ..).symm.trans hcall)
    exact .accessed hm
  | activateAddressSpace drawn e =>
    obtain ⟨⟨r, k1⟩, hcall, ⟨⟩⟩ := map_eq_some_iff.mp h
    obtain ⟨⟨_, m⟩, hm, ⟨⟩⟩ := map_eq_some_iff.mp ((call_onAddressSpaces ..).symm.trans hcall)
    exact .activated hm

theorem Outcome.task_origin (h : Outcome k call a k') {t : TaskId} {e : ExecutionId}
    (ht : k'.taskToIdentity[t]? = some e) : k.taskToIdentity[t]? = some e ∨ ∃ ids ∈ call.drawn, ids.execution = e := by
  have hmailed : ∀ {k'}, Mailed k k' → k'.taskToIdentity = k.taskToIdentity := by
    rintro k' ⟨_, ⟨_, _, _, _, _, rfl⟩, -, ⟨_, _, _, rfl⟩⟩
    rfl
  cases h with
  | refused | created | updated | opened | space | accessed | activated => exact .inl ht
  | bookkept _ kept => exact .inl (kept.taskToIdentity ▸ ht)
  | timed _ loop => exact .inl ((loop loopRule_passed).taskToIdentity ▸ ht)
  | @spawned _ _ ids _ _ _ _ drawn _ admitted =>
    obtain ⟨_, _, _, -, -, rfl⟩ := admitTask_parts admitted
    rw [BTreeMap.getElem?_insert] at ht
    split at ht
    · exact .inr ⟨ids, drawn, some.inj ht⟩
    · exact .inl ht
  | terminated =>
    obtain ⟨_, _, _, heq, -⟩ := terminateTaskWithReason_parts k _ _ _
    rw [heq, BTreeMap.getElem?_erase] at ht
    split at ht
    · cases ht
    · exact .inl ht
  | charged _ _ consumed =>
    obtain ⟨_, _, _, _, _, rfl⟩ := consumed.accounting
    exact .inl ht
  | @sent orders c m _ _ call => exact .inl (hmailed ((sendMessage_mailed orders k c m).of_call call) ▸ ht)
  | @received orders c _ _ call => exact .inl (hmailed ((receiveMessage_mailed orders k c).of_call call) ▸ ht)
  | allocated _ allocated =>
    obtain ⟨_, _, ⟨_, _, _, _, _, rfl⟩, rfl⟩ := allocated.parts
    exact .inl ht

theorem perform_accessRegion_ok_iff {cap kind e} :
    (∃ k', perform k (.accessRegion cap kind e) = some (.access (.ok ()), k')) ↔
      k.addressSpaceManager.Accessible cap kind e := by
  constructor
  · rintro ⟨k', h⟩
    obtain ⟨⟨r, k1⟩, hcall, ⟨⟩⟩ := map_eq_some_iff.mp h
    obtain ⟨⟨_, m⟩, hm, ⟨⟩⟩ := map_eq_some_iff.mp ((call_onAddressSpaces ..).symm.trans hcall)
    exact accessRegion_ok_iff.mp ⟨m, hm⟩
  · intro h
    obtain ⟨m, hm⟩ := accessRegion_ok_iff.mpr h
    exact ⟨_, map_eq_some_iff.mpr ⟨_, (call_onAddressSpaces ..).trans (map_eq_some_iff.mpr ⟨_, hm, rfl⟩), rfl⟩⟩

theorem step_outcome {w w'} (h : machine.step w call = some (a, w')) : Outcome w.kernel call a w'.kernel :=
  perform_outcome (step_perform h).2.1

end Session

end PandaGen.Kernel
