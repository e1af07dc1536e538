import PandaGen.Kernel.Lemmas.Accounts

/-!
# What a call can do

Every call of a session leaves the tables alone, cancels an identity, or does one of the few things listed here.
-/

namespace PandaGen.Kernel

open Lib Proc Option Bool

variable {k : SimulatedKernel}

namespace SimulatedKernel

/-! ## Spawns -/

abbrev OnSuccess {α : Type} (k : SimulatedKernel) (m : Proc SimulatedKernel KernelError α)
    (Q : SimulatedKernel → Prop) : Prop :=
  m.Post k fun r k' => match r with
    | .ok _ => Q k'
    | .error _ => k' = k

theorem spawnTask_post (k ids d) : OnSuccess k (spawnTask ids d) fun k' =>
      k.admitTask ids d (k.childIdentity ids d .component .user none none) = some k' := by
  rw [OnSuccess, spawnTask, post_get_bind]
  rw [post_okOrPanic_bind]
  cases hspawned : k.admitTask ids d _ with
  | none => trivial
  | some k' => exact hspawned

theorem spawnTaskWithIdentity_post (k ids d kind domain parentId creatorId) :
    OnSuccess k (spawnTaskWithIdentity ids d kind domain parentId creatorId) fun k' =>
      k.admitTask ids d (k.childIdentity ids d kind domain parentId creatorId) = some k' := by
  rw [OnSuccess, spawnTaskWithIdentity, post_get_bind]
  generalize k.childIdentity ids d kind domain parentId creatorId = identity
  rw [post_ofExcept_bind]
  cases k.checkInheritance identity with
  | error => trivial
  | ok =>
    cases k.checkSpawnPolicy identity with
    | error => trivial
    | ok =>
      cases k.admitTask ids d identity with
      | none => trivial
      | some => rfl

/-! ## Capabilities -/

structure UsableBy (k : SimulatedKernel) (info : CapabilityMetadata) (t : TaskId) : Prop where
  lease : info.leasePassed k.currentTime = false
  revoked : info.revoked = false
  status : info.status = .valid
  alive : info.owner ∈ k.tasks
  owner : info.owner = t

theorem isCapabilityValid_iff {c t} :
    k.isCapabilityValid c t = true ↔ ∃ info, k.capabilityTable[c]? = some info ∧ k.UsableBy info t := by
  rw [isCapabilityValid, validateCapability]
  cases k.capabilityTable[c]? with
  | none => simp [Except.isOk, Except.toBool]
  | some info =>
    simp only [some.injEq, exists_eq_left']
    constructor
    · intro h
      split at h
      · cases h
      rename_i hlease
      split at h
      · cases h
      rename_i hrevoked
      split at h
      · split at h <;> cases h
      rename_i hstatus
      split at h
      · cases h
      rename_i halive
      split at h
      · cases h
      rename_i howner
      exact ⟨eq_false_iff.mpr hlease, eq_false_iff.mpr hrevoked, not_not.mp hstatus, not_not.mp halive,
        not_not.mp howner⟩
    · intro h
      rw [if_neg (eq_false_iff.mp h.lease), if_neg (eq_false_iff.mp h.revoked), if_neg (not_not.mpr h.status),
        if_neg (not_not.mpr h.alive), if_neg (not_not.mpr h.owner)]
      rfl

theorem requireCapability_post (k c t context) : OnSuccess k (k.requireCapability c t context) fun k' =>
      k' = k ∧ ∃ info, k.capabilityTable[c]? = some info ∧ k.UsableBy info t := by
  rw [OnSuccess, requireCapability, post_ofExcept, ← isCapabilityValid_iff, isCapabilityValid]
  cases k.validateCapability c t with
  | error => rfl
  | ok => exact ⟨rfl, rfl⟩

theorem grantCapability_post (k t c) : OnSuccess k (grantCapability t c) fun k' =>
      t ∈ k.tasks ∧ k' = k.recordCapabilityGrant c t "Generic" none none := by
  rw [OnSuccess, grantCapability]
  simp only [post_bind, post_get, post_failIf]
  split
  · trivial
  · rename_i ht
    exact ⟨not_not.mp ht, rfl⟩

theorem grantCapabilityWithLease_post (k t c lease) : OnSuccess k (grantCapabilityWithLease t c lease) fun k' =>
      t ∈ k.tasks ∧ k' = k.recordCapabilityGrant c t "Generic" none (some (saturatingAdd k.currentTime lease)) := by
  rw [OnSuccess, grantCapabilityWithLease]
  simp only [post_bind, post_get, post_failIf]
  split
  · trivial
  · rename_i ht
    exact ⟨not_not.mp ht, rfl⟩

theorem dropCapability_post (k c t) :
    OnSuccess k (dropCapability c t) fun k' => ∃ info, k.capabilityTable[c]? = some info ∧ k.UsableBy info t ∧
      k' = k.endCapability c info (.dropped c t info.capType) := by
  rw [OnSuccess, dropCapability, post_bind, post_get]
  refine (requireCapability_post k c t _).bind (fun _ _ h => h) fun _ k1 h => ?_
  obtain ⟨rfl, info, hinfo, husable⟩ := h
  rw [hinfo]
  exact ⟨info, rfl, husable, rfl⟩

theorem revokeCapability_post (k c t reason) :
    OnSuccess k (revokeCapability c t reason) fun k' => ∃ info, k.capabilityTable[c]? = some info ∧ k.UsableBy info t ∧
      k' = k.endCapability c { info with revoked := true } (.revoked c t info.capType reason) := by
  rw [OnSuccess, revokeCapability, post_bind, post_get]
  refine (requireCapability_post k c t _).bind (fun _ _ h => h) fun _ k1 h => ?_
  obtain ⟨rfl, info, hinfo, husable⟩ := h
  rw [hinfo]
  exact ⟨info, rfl, husable, rfl⟩

def Noted (k : SimulatedKernel) (c : Nat) (fromTask toTask : TaskId) (k' : SimulatedKernel) : Prop :=
  k' = k ∨ ∃ fromDomain toDomain,
    k' = k.recordCapability (.crossDomainDelegation c fromTask fromDomain toTask toDomain)

theorem checkDelegation_post (k c fromTask toTask) :
    OnSuccess k (checkDelegation c fromTask toTask) (Noted k c fromTask toTask) := by
  rw [OnSuccess, checkDelegation]
  simp only [post_bind, post_get]
  cases k.identitiesOf fromTask toTask with
  | none => exact .inl rfl
  | some pair =>
    dsimp only
    split
    · rfl
    · rfl
    · split
      · exact .inl rfl
      · exact .inr ⟨_, _, rfl⟩

def handOver (k : SimulatedKernel) (c : Nat) (info : CapabilityMetadata) (fromTask toTask : TaskId) : SimulatedKernel :=
  { k with capabilityTable := k.capabilityTable.insert c { info with owner := toTask } }.recordCapability
    (.delegated c fromTask toTask info.capType)

theorem delegateCapability_post (k c fromTask toTask) :
    OnSuccess k (delegateCapability c fromTask toTask) fun k' => ∃ info k1, k.capabilityTable[c]? = some info ∧
      k.UsableBy info fromTask ∧ toTask ∈ k.tasks ∧ Noted k c fromTask toTask k1 ∧
      k' = k1.handOver c info fromTask toTask := by
  rw [OnSuccess, delegateCapability, post_bind, post_get]
  refine (requireCapability_post k c fromTask _).bind (fun _ _ h => h) fun _ k0 h => ?_
  obtain ⟨rfl, info, hinfo, husable⟩ := h
  rw [post_bind, post_failIf]
  split
  · rfl
  rename_i hto
  refine (checkDelegation_post k0 c fromTask toTask).bind (fun _ _ h => h) fun _ k1 hnoted => ?_
  have htable : k1.capabilityTable = k0.capabilityTable := by
    obtain rfl | ⟨_, _, rfl⟩ := hnoted <;> rfl
  simp only [post_bind, post_get, htable, hinfo]
  exact ⟨info, k1, rfl, husable, not_not.mp hto, hnoted, by rw [handOver, htable]; rfl⟩

end SimulatedKernel

/-! ## Calls -/

namespace Session

open SimulatedKernel

variable {k' : SimulatedKernel} {call : Call} {a : Answer} {α : Type} {m : Proc SimulatedKernel KernelError α}
  {f : Except KernelError α → Answer} {Q : SimulatedKernel → Prop}

def Call.grant : Call → Option (TaskId × Nat)
  | .grantCapability t c => some (t, c)
  | .grantCapabilityWithLease t c _ => some (t, c)
  | _ => none

def Call.isTimed : Call → Bool
  | .advanceTime .. | .sleep .. | .runForTicks .. | .runForSteps .. | .runUntilIdle .. => true
  | _ => false

inductive Timed (k : SimulatedKernel) : Call → Answer → SimulatedKernel → Prop
  | advanced {orders duration k'} : k.advanceTime orders duration = some k' →
      Timed k (.advanceTime orders duration) .done k'
  | slept {orders duration k'} : k.sleep orders duration = some k' → Timed k (.sleep orders duration) .done k'
  | yielded : Timed k .yieldNow .done k.yieldNow
  | ranTicks {orders fuel ticks n k'} : k.runForTicks orders fuel ticks = some (n, k') →
      Timed k (.runForTicks orders fuel ticks) (.count n) k'
  | ranSteps {orders steps n k'} : k.runForSteps orders steps = some (n, k') →
      Timed k (.runForSteps orders steps) (.count n) k'
  | idled {orders k'} : k.runUntilIdle orders = some k' → Timed k (.runUntilIdle orders) .done k'

inductive Effect (k : SimulatedKernel) : Call → Answer → SimulatedKernel → Prop
  | untouched {call answer k'} : Untouched k k' → Effect k call answer k'
  | cancelled {call answer orders e k₁ reason} : Untouched k k₁ → e ∈ k.identityTable →
      Effect k call answer (k₁.cancelIdentity orders e reason)
  | identity {i} : Effect k (.createIdentity i) .done
      { k with identityTable := k.identityTable.insert i.executionId i }
  | spawned {call answer ids descriptor i k'} : call.drawn = some ids → answer.isErr = false →
      k.admitTask ids descriptor i = some k' → Effect k call answer k'
  | terminated {orders t reason} :
      Effect k (.terminateTask orders t reason) .done (k.terminateTaskWithReason orders t reason)
  | timed {call answer k'} : Timed k call answer k' → Effect k call answer k'
  | granted {call t c lease} : call.grant = some (t, c) → t ∈ k.tasks →
      Effect k call (.result (.ok ())) (k.recordCapabilityGrant c t "Generic" none lease)
  | delegated {c t t' info k₁} : k.capabilityTable[c]? = some info → k.UsableBy info t → t' ∈ k.tasks →
      Noted k c t t' k₁ → Effect k (.delegateCapability c t t') (.result (.ok ())) (k₁.handOver c info t t')
  | dropped {c t info} : k.capabilityTable[c]? = some info → k.UsableBy info t →
      Effect k (.dropCapability c t) (.result (.ok ())) (k.endCapability c info (.dropped c t info.capType))
  | revoked {c t reason info} : k.capabilityTable[c]? = some info → k.UsableBy info t →
      Effect k (.revokeCapability c t reason) (.result (.ok ()))
        (k.endCapability c { info with revoked := true } (.revoked c t info.capType reason))
  | accessGranted {c t mode} : Effect k (.grantChannelAccess c t mode) .done (k.grantChannelAccess c t mode)
  | accessRevoked {c t} : Effect k (.revokeChannelAccess c t) .done (k.revokeChannelAccess c t)

theorem Effect.of_used {orders} (h : Used orders k k') : Effect k call a k' := by
  cases h with
  | untouched h => exact .untouched h
  | cancelled h mem => exact .cancelled h mem

theorem exists_of_answer {ε : Type} {m f} (h : answer k m f = some (a, k'))
    {Q : Except (Fault ε) α → SimulatedKernel → Prop} (hm : m.Post k Q) :
    ∃ r, f r = a ∧ Q (r.mapError Fault.err) k' := by
  obtain ⟨⟨r, k1⟩, hcall, ⟨⟩⟩ := map_eq_some_iff.mp h
  exact ⟨r, rfl, hm.of_call hcall⟩

theorem untouched_of_answer {ε : Type} {m : Proc SimulatedKernel ε α}
    {f : Except ε α → Answer} (h : answer k m f = some (a, k'))
    (hm : m.Post k fun _ k' => Untouched k k') : Effect k call a k' := by
  obtain ⟨r, -, hk⟩ := exists_of_answer h hm
  exact .untouched hk

theorem used_of_answer {orders} (h : answer k m f = some (a, k'))
    (hm : m.Post k fun _ k' => Used orders k k') : Effect k call a k' := by
  obtain ⟨r, -, hk⟩ := exists_of_answer h hm
  exact .of_used hk

theorem effect_of_answer
    (h : answer k m f = some (a, k')) (hm : OnSuccess k m Q) (hok : ∀ x, Q k' → Effect k call (f (.ok x)) k') :
    Effect k call a k' := by
  obtain ⟨r, rfl, hr⟩ := exists_of_answer h hm
  cases r with
  | error =>
    cases hr
    exact .untouched (.refl k)
  | ok x => exact hok x hr

theorem perform_timed (hcall : call.isTimed = true) (h : perform k call = some (a, k')) : Timed k call a k' := by
  cases call with
  | advanceTime orders duration =>
    obtain ⟨k1, hk, ⟨⟩⟩ := map_eq_some_iff.mp h
    exact .advanced hk
  | sleep orders duration =>
    obtain ⟨k1, hk, ⟨⟩⟩ := map_eq_some_iff.mp h
    exact .slept hk
  | runForTicks orders fuel ticks =>
    obtain ⟨⟨n, k1⟩, hk, ⟨⟩⟩ := map_eq_some_iff.mp h
    exact .ranTicks hk
  | runForSteps orders steps =>
    obtain ⟨⟨n, k1⟩, hk, ⟨⟩⟩ := map_eq_some_iff.mp h
    exact .ranSteps hk
  | runUntilIdle orders =>
    obtain ⟨k1, hk, ⟨⟩⟩ := map_eq_some_iff.mp h
    exact .idled hk
  | _ => cases hcall

theorem perform_effect (h : perform k call = some (a, k')) : Effect k call a k' := by
  cases call with
  | spawnTask ids descriptor =>
    exact effect_of_answer h (spawnTask_post k ids descriptor) fun _ hspawned => .spawned rfl rfl hspawned
  | spawnTaskWithIdentity ids descriptor kind domain parentId creatorId =>
    exact effect_of_answer h (spawnTaskWithIdentity_post k ids descriptor kind domain parentId creatorId)
      fun _ hspawned => .spawned rfl rfl hspawned
  | terminateTask orders t reason =>
    cases h
    exact .terminated
  | createIdentity identity =>
    cases h
    exact .identity
  | updateIdentity e f =>
    cases h
    refine .untouched ⟨rfl, rfl, rfl, rfl, rfl, rfl, rfl, fun _ => ?_, rfl, rfl, rfl, rfl⟩
    exact Std.ExtTreeMap.mem_modify
  | clearExitNotifications =>
    cases h
    exact .untouched (untouched_parts k ..)
  | advanceTime | sleep | runForTicks | runForSteps | runUntilIdle => exact .timed (perform_timed rfl h)
  | yieldNow =>
    cases h
    exact .timed .yielded
  | tryConsumeCpuTicks orders e | tryConsumePipelineStage orders e | tryConsumePacket orders e
  | tryConsumeStorageOp orders e =>
    exact used_of_answer h ((tryConsume_consumed orders k e _).mono fun _ _ => Consumed.used)
  | grantCapability t c =>
    refine effect_of_answer h (grantCapability_post k t c) fun _ ⟨ht, hk⟩ => ?_
    rw [hk]
    exact .granted rfl ht
  | grantCapabilityWithLease t c lease =>
    refine effect_of_answer h (grantCapabilityWithLease_post k t c lease) fun _ ⟨ht, hk⟩ => ?_
    rw [hk]
    exact .granted rfl ht
  | delegateCapability c t t' =>
    refine effect_of_answer h (delegateCapability_post k c t t') fun _ ⟨info, k1, hinfo, husable, ht, hnoted, hk⟩ => ?_
    rw [hk]
    exact .delegated hinfo husable ht hnoted
  | dropCapability c t =>
    refine effect_of_answer h (dropCapability_post k c t) fun _ ⟨info, hinfo, husable, hk⟩ => ?_
    rw [hk]
    exact .dropped hinfo husable
  | revokeCapability c t reason =>
    refine effect_of_answer h (revokeCapability_post k c t reason) fun _ ⟨info, hinfo, husable, hk⟩ => ?_
    rw [hk]
    exact .revoked hinfo husable
  | grantChannelAccess c t mode =>
    cases h
    exact .accessGranted
  | revokeChannelAccess c t =>
    cases h
    exact .accessRevoked
  | createChannel c => exact untouched_of_answer h (untouched_parts k ..)
  | setReceiveContext t | clearReceiveContext | setServiceSchemaPolicy s p =>
    cases h
    exact .untouched (untouched_parts k ..)
  | sendMessage orders c m => exact used_of_answer h (sendMessage_used orders k c m)
  | receiveMessage orders c => exact used_of_answer h (receiveMessage_used orders k c)
  | registerService s c => exact untouched_of_answer h (registerService_post k s c)
  | registerServiceWithSchema s c p =>
    refine untouched_of_answer h ((registerService_post k s c).bind (fun _ _ h => h) fun _ k1 h1 => ?_)
    exact h1.trans (untouched_parts k1 ..)
  | createAddressSpace s e => exact untouched_of_answer h (createAddressSpace_post k s e)
  | allocateRegion r s size p b e =>
    refine untouched_of_answer h ?_
    rw [allocateRegion, post_failIf_bind]
    split
    · exact .refl k
    · exact post_charge_onAddressSpaces ((chargeMemory_taken k e size).mono fun _ _ h => h.2.untouched) _
  | allocateRegionOp r s size p b e =>
    refine untouched_of_answer h ?_
    exact post_charge_onAddressSpaces ((chargeMemoryOp_taken k e size).mono fun _ _ h => h.2.untouched) _
  | accessRegion r access e | activateAddressSpace drawn e =>
    exact untouched_of_answer h (post_get_onAddressSpaces k _)

theorem step_perform {w w'} (h : machine.step w call = some (a, w')) :
    (∀ ids ∈ call.drawn, ids.task ∉ w.drawnTasks ∧ ids.execution ∉ w.drawnExecutions) ∧
      perform w.kernel call = some (a, w'.kernel) ∧
      w'.drawnTasks = (call.drawn.map SpawnIds.task).toList ++ w.drawnTasks ∧
      w'.drawnExecutions = call.executions ++ w.drawnExecutions := by
  rw [machine] at h
  dsimp only at h
  split at h
  · rename_i hfresh
    obtain ⟨⟨a', k⟩, hperform, ⟨⟩⟩ := bind_eq_some_iff.mp h
    exact ⟨hfresh, hperform, rfl, rfl⟩
  · cases h

theorem step_effect {w w'} (h : machine.step w call = some (a, w')) : Effect w.kernel call a w'.kernel :=
  perform_effect (step_perform h).2.1

theorem of_answer_ok {m} (h : answer k m .result = some (a, k')) (hok : a.isErr = false)
    (hm : OnSuccess k m Q) : Q k' := by
  obtain ⟨r, rfl, hr⟩ := exists_of_answer h hm
  cases r with
  | error => cases hok
  | ok => exact hr

end Session

end PandaGen.Kernel
