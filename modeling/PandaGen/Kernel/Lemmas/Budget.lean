import PandaGen.Kernel.Lemmas.Gate
import PandaGen.Kernel.Lemmas.Identity

/-!
# The accounts along a session

What each call does to the accounts: charges, memory, new identities and edits by hand.
-/

namespace PandaGen.Kernel

open Lib Proc Option BTreeMap

variable {c : Consumption} {charge : Proc SimulatedKernel KernelError Unit}
  {check : SimulatedKernel → Except KernelError Unit}

namespace SimulatedKernel

variable {e : ExecutionId} {cap : AddressSpaceCap}

variable {k k' : SimulatedKernel} {orders : HashOrders}

/-! ## Charges that panic -/

/-- The sum of usage and amount is past the largest number where the charge computes it. The charge for the
processor always does, the others only when the limit is reached. -/
def ChargeOverflows (k : SimulatedKernel) (e : ExecutionId) (r : Resource) (amount : Nat) : Prop :=
  e ∉ k.cancelledIdentities ∧ ∃ identity ∈ k.identityTable[e]?, ∃ budget ∈ identity.budget,
    ∃ limit ∈ budget.limit r, 2 ^ 64 ≤ identity.usage.amount r + amount ∧
      (r = .cpuTicks ∨ limit ≤ identity.usage.amount r)

theorem chargeOverflows_iff {r amount identity budget} (active : e ∉ k.cancelledIdentities)
    (known : k.identityTable[e]? = some identity) (metered : identity.budget = some budget) (meters : c.Meters r)
    (hamount : c.amount = amount) : k.ChargeOverflows e r amount ↔ c.Overflows budget (c.usage identity.usage) := by
  rw [meters.overflows, hamount]
  simp [ChargeOverflows, active, known, metered]

theorem Consumed.panic_iff {r} (meters : c.Meters r) {a} (h : Consumed orders k e c a k') :
    a = .error .panic ↔ k.ChargeOverflows e r c.amount := by
  cases h with
  | refused cancelled =>
    refine iff_of_false (by simp) fun h => ?_
    exact h.1 cancelled
  | free active unmetered =>
    refine iff_of_false (by simp) ?_
    rintro ⟨-, identity, hidentity, budget, hbudget, -⟩
    rw [mem_def.mp hidentity] at unmetered
    cases unmetered.symm.trans hbudget
  | spent active known metered within =>
    rw [chargeOverflows_iff active known metered meters rfl, Consumption.Overflows, within]
    simp
  | exhausted active known metered passed fits =>
    rw [chargeOverflows_iff active known metered meters rfl]
    exact iff_of_false (by simp) fits
  | overflow active known metered overflows =>
    rw [chargeOverflows_iff active known metered meters rfl]
    exact iff_of_true rfl overflows

def MessageOverflows (k : SimulatedKernel) (task : Option TaskId) : Prop :=
  ∃ t ∈ task, ∃ e ∈ k.taskToIdentity[t]?, k.ChargeOverflows e .messageCount 1

theorem MessageCharged.panic_iff {task a} (h : MessageCharged orders k task a k') :
    a = .error .panic ↔ k.MessageOverflows task := by
  have hpayer : k.MessageOverflows task ↔
      ∃ e ∈ task.bind fun t => k.taskToIdentity[t]?, k.ChargeOverflows e .messageCount 1 := by
    cases task <;> simp [MessageOverflows]
  rw [hpayer]
  cases h with
  | free free => simp [free]
  | charged known meters amount consumed =>
    rw [consumed.panic_iff meters, amount]
    simp [known]

/-- The charge for a message of the task goes through. -/
def MessageAccepted (k : SimulatedKernel) (task : Option TaskId) : Prop :=
  ∀ e ∈ task.bind fun t => k.taskToIdentity[t]?, e ∉ k.cancelledIdentities ∧ ∀ identity ∈ k.identityTable[e]?,
    ∀ budget ∈ identity.budget, ∀ limit ∈ budget.messageCount, identity.usage.messageCount < limit

theorem MessageCharged.ok_iff {task a} (h : MessageCharged orders k task a k') :
    a = .ok () ↔ k.MessageAccepted task := by
  cases h with
  | free free => simp [MessageAccepted, free]
  | @charged e c _ _ known meters amount consumed =>
    have haccepts (identity : IdentityMetadata) (budget : ResourceBudget) :
        c.passedLimit budget (c.usage identity.usage) = some none ↔
          ∀ limit ∈ budget.messageCount, identity.usage.messageCount < limit := by
      rw [meters.accepts, amount]
      simp [ResourceBudget.limit, ResourceUsage.amount, Nat.add_one_le_iff]
    simp only [MessageAccepted, known, mem_some_iff, forall_eq']
    cases consumed with
    | refused cancelled => simp [cancelled]
    | free active unmetered =>
      refine iff_of_true rfl ⟨active, fun identity hidentity budget hbudget => ?_⟩
      rw [mem_def.mp hidentity, bind_some, mem_def.mp hbudget] at unmetered
      cases unmetered
    | spent active known metered within =>
      refine iff_of_true rfl ⟨active, ?_⟩
      simpa [known, metered] using (haccepts _ _).mp within
    | exhausted active known metered passed =>
      refine iff_of_false (by simp) fun h => ?_
      rw [(haccepts _ _).mpr (h.2 _ known _ metered)] at passed
      cases passed
    | overflow active known metered overflows =>
      refine iff_of_false (by simp) fun h => ?_
      rw [Consumption.Overflows, (haccepts _ _).mpr (h.2 _ known _ metered)] at overflows
      simp at overflows

/-! ## Messages that panic -/

/-- A window of the fault plan reaches past the largest index. -/
def ReorderOverflows (injector : FaultInjector) (length : Nat) : Prop :=
  ∃ index offset, .reorderWindow index offset ∈ injector.plan.messageFaults ∧ index < length ∧ 2 ^ 64 ≤ index + offset

theorem reorder_eq_none {messages fault} : FaultInjector.reorder messages fault = none ↔
    ∃ index offset, fault = .reorderWindow index offset ∧ index < messages.length ∧ 2 ^ 64 ≤ index + offset := by
  cases fault with
  | reorderWindow index offset =>
    rw [FaultInjector.reorder, checkedAdd]
    by_cases hindex : index < messages.length
    · by_cases hfits : index + offset < 2 ^ 64 <;> simp [hindex]
    · simp [hindex]
  | _ => simp [FaultInjector.reorder]

theorem applyReordering_eq_none {injector : FaultInjector} {messages} :
    injector.applyReordering messages = none ↔ ReorderOverflows injector messages.length := by
  unfold FaultInjector.applyReordering ReorderOverflows
  generalize injector.plan.messageFaults = faults
  induction faults generalizing messages with
  | nil => simp
  | cons fault faults ih =>
    rw [List.foldlM_cons]
    cases hreorder : FaultInjector.reorder messages fault with
    | none =>
      obtain ⟨index, offset, rfl, h⟩ := reorder_eq_none.mp hreorder
      exact iff_of_true rfl ⟨index, offset, List.mem_cons_self, h⟩
    | some messages' =>
      have hhead : ¬ ∃ index offset, fault = .reorderWindow index offset ∧ index < messages.length ∧
          2 ^ 64 ≤ index + offset := by
        rw [← reorder_eq_none, hreorder]
        simp
      refine ih.trans ?_
      rw [(FaultInjector.reorder_perm hreorder).length_eq]
      constructor
      · rintro ⟨index, offset, hmem, h⟩
        exact ⟨index, offset, List.mem_cons_of_mem _ hmem, h⟩
      · rintro ⟨index, offset, hmem, h⟩
        rcases List.mem_cons.mp hmem with heq | hmem
        · exact absurd ⟨index, offset, heq.symm, h⟩ hhead
        · exact ⟨index, offset, hmem, h⟩

/-- What a delay and the fault plan compute for a message that is not dropped. -/
def PostOverflows (k : SimulatedKernel) (c : ChannelId) (m : MessageEnvelope) : Prop :=
  ∃ injector ∈ k.faultInjector, injector.crashOnSend = false ∧ (injector.shouldDropMessage c m).1 = false ∧
    match injector.getMessageDelay.1 with
    | some delay => 2 ^ 64 ≤ k.currentTime + delay
    | none => ∃ queue ∈ k.channels[c]?, queue.messages.length < queue.capacity ∧
        ReorderOverflows injector (queue.messages.length + 1)

theorem enqueueMessage_call_eq_none {c m} : (enqueueMessage c m).call k = none ↔ ∃ injector ∈ k.faultInjector,
    ∃ queue ∈ k.channels[c]?, queue.messages.length < queue.capacity ∧
      ReorderOverflows injector (queue.messages.length + 1) := by
  rw [call_eq_none, enqueueMessage, post_get_bind, post_okOr_bind]
  cases k.channels[c]? with
  | none => simp
  | some queue =>
    dsimp only
    rw [post_okOr_bind, MessageQueue.push]
    by_cases hfull : queue.messages.length ≥ queue.capacity
    · rw [if_pos hfull]
      simp [Nat.not_lt.mpr hfull]
    · rw [if_neg hfull]
      dsimp only
      cases k.faultInjector with
      | none => simp
      | some injector =>
        have hreorder : injector.applyReordering (queue.messages ++ [m]) = none ↔
            ReorderOverflows injector (queue.messages.length + 1) := by
          rw [applyReordering_eq_none, List.length_append, List.length_singleton]
        simp only [post_bind, post_set, post_okOrPanic, mem_some_iff, exists_eq_left', Nat.not_le.mp hfull, true_and,
          ← hreorder]
        cases injector.applyReordering (queue.messages ++ [m]) <;> simp

theorem shouldDropMessage_kept {injector injector' : FaultInjector} {c m}
    (h : injector.shouldDropMessage c m = (false, injector')) : injector' = injector := by
  unfold FaultInjector.shouldDropMessage at h
  split at h
  · cases h
  · split at h
    · cases h
    · exact (Prod.mk.inj h).2.symm

/-- How a message passes the fault injector. -/
inductive Injected (k : SimulatedKernel) (c : ChannelId) (m : MessageEnvelope) (injector : FaultInjector) :
    Except (Fault KernelError) Passage → SimulatedKernel → Prop
  | crashed {error} (crash : injector.crashOnSend = true) : Injected k c m injector (.error (.err error)) k
  | dropped {after} (drop : (injector.shouldDropMessage c m).1 = true) : Injected k c m injector (.ok .dropped) after
  | kept (crash : injector.crashOnSend = false) (drop : (injector.shouldDropMessage c m).1 = false) :
      Injected k c m injector (.ok (injector.getMessageDelay.1.elim .queued .delayed))
        { k with faultInjector := some injector.getMessageDelay.2 }

theorem injectFaults_injected {injector c m} (h : k.faultInjector = some injector) :
    (injectFaults c m).Post k (Injected k c m injector) := by
  rw [injectFaults, post_get_bind, h]
  dsimp only
  rw [post_failIf_bind]
  split
  · exact .crashed ‹_›
  · rename_i hcrash
    rcases hdrop : injector.shouldDropMessage c m with ⟨drop, injector'⟩
    simp only [post_bind, post_set]
    cases drop with
    | true => exact .dropped (by rw [hdrop])
    | false =>
      cases shouldDropMessage_kept hdrop
      exact .kept (by simpa using hcrash) (by rw [hdrop])

theorem postMessage_call_eq_none {c m} : (postMessage c m).call k = none ↔ k.PostOverflows c m := by
  rw [call_eq_none, postMessage, post_bind, PostOverflows]
  cases hinjector : k.faultInjector with
  | none =>
    rw [injectFaults, post_get_bind, hinjector]
    dsimp only
    rw [post_pure]
    dsimp only
    rw [← call_eq_none, enqueueMessage_call_eq_none, hinjector]
    simp
  | some injector =>
    have hinjected := injectFaults_injected hinjector (c := c) (m := m)
    simp only [mem_some_iff, exists_eq_left']
    rw [Post] at hinjected ⊢
    generalize (injectFaults c m).exec k = x at hinjected ⊢
    obtain ⟨r, k'⟩ := x
    cases hinjected with
    | crashed crash => simp [crash]
    | dropped drop => simp [drop]
    | kept crash drop =>
      simp only [crash, drop, true_and]
      cases hdelay : injector.getMessageDelay.1 with
      | some delay =>
        dsimp only [Option.elim]
        rw [post_get_bind, post_okOrPanic_bind, checkedAdd]
        by_cases hfits : k.currentTime + delay < 2 ^ 64
        · rw [if_pos hfits]
          exact iff_of_false (by simp) (Nat.not_le.mpr hfits)
        · rw [if_neg hfits]
          exact iff_of_true rfl (Nat.not_lt.mp hfits)
      | none =>
        have hplan : injector.getMessageDelay.2.plan = injector.plan := by
          unfold FaultInjector.getMessageDelay
          split <;> rfl
        dsimp only [Option.elim]
        rw [← call_eq_none, enqueueMessage_call_eq_none]
        simp [ReorderOverflows, hplan]

/-- The count of the messages that the fault injector has seen is at its end. -/
def TakeOverflows (k : SimulatedKernel) (c : ChannelId) : Prop :=
  ∃ injector ∈ k.faultInjector, injector.crashOnRecv = false ∧ 2 ^ 64 ≤ injector.messagesProcessed + 1 ∧
    ∃ queue ∈ k.channels[c]?, queue.messages ≠ []

theorem dequeueMessage_call_eq_none {c} : (dequeueMessage c).call k = none ↔ k.TakeOverflows c := by
  rw [call_eq_none, dequeueMessage, post_get_bind, post_failIf_bind, TakeOverflows]
  cases k.channels[c]? with
  | none => cases k.faultInjector <;> simp
  | some queue =>
    rcases queue with ⟨capacity, _ | ⟨message, messages⟩⟩
    · cases k.faultInjector <;> simp [MessageQueue.pop]
    · cases hinjector : k.faultInjector with
      | none => simp [MessageQueue.pop, Except.map]
      | some injector =>
        by_cases hcrash : injector.crashOnRecv = true
        · simp [hcrash]
        · have hrecord : injector.recordMessageProcessed = none ↔ 2 ^ 64 ≤ injector.messagesProcessed + 1 := by
            rw [FaultInjector.recordMessageProcessed, checkedAdd]
            by_cases hfits : injector.messagesProcessed + 1 < 2 ^ 64
            · rw [if_pos hfits]
              exact iff_of_false (by simp) (Nat.not_le.mpr hfits)
            · rw [if_neg hfits]
              exact iff_of_true rfl (Nat.not_lt.mp hfits)
          cases hprocessed : injector.recordMessageProcessed with
          | none =>
            refine iff_of_true ?_ ⟨injector, rfl, by simpa using hcrash, hrecord.mp hprocessed, _, rfl, by simp⟩
            simp [hcrash, hprocessed, MessageQueue.pop]
          | some processed =>
            refine iff_of_false ?_ ?_
            · simp [hcrash, hprocessed, MessageQueue.pop, Except.map]
            · rintro ⟨_, ⟨⟩, -, hoverflows, -⟩
              cases hprocessed.symm.trans (hrecord.mpr hoverflows)

theorem exchange_call_eq_none {α : Type} {task} {act : Proc SimulatedKernel KernelError α}
    (hcharge : charge.Post k (MessageCharged orders k task)) {Q : SimulatedKernel → Prop}
    (hact : ∀ {k}, act.call k = none ↔ Q k) (hQ : ∀ {k'}, Accounting k k' → (Q k' ↔ Q k)) :
    (do ofExcept (check (← get)); charge; act).call k = none ↔
      check k = .ok () ∧ (k.MessageOverflows task ∨ k.MessageAccepted task ∧ Q k) := by
  rw [call_eq_none, post_get_bind, post_ofExcept_bind]
  cases check k with
  | error => simp
  | ok =>
    have hpanic : charge.call k = none ↔ k.MessageOverflows task := call_eq_none.trans hcharge.panic_iff
    rw [← call_eq_none, call_seq_eq_none, hpanic]
    simp only [true_and, hact]
    refine or_congr_right ⟨?_, fun ⟨haccepted, hk⟩ => ?_⟩
    · rintro ⟨k1, hcall, hk1⟩
      have hcharged := hcharge.of_call hcall
      exact ⟨hcharged.ok_iff.mp rfl, (hQ hcharged.accounting).mp hk1⟩
    · obtain ⟨k1, hcall⟩ := (hcharge.mono fun _ _ h => h.ok_iff).exists_call.mpr haccepted
      exact ⟨k1, hcall, (hQ (hcharge.of_call hcall).accounting).mpr hk⟩

def NumbersUsedUp (k : SimulatedKernel) (cap : AddressSpaceCap) (e : ExecutionId) : Prop :=
  k.addressSpaceManager.Allocatable cap e ∧ 2 ^ 64 ≤ k.addressSpaceManager.nextCapId + 1

theorem manager_call_eq_none {m region now} : (AddressSpaceManager.allocateRegion cap region e now).call m = none ↔
      m.Allocatable cap e ∧ 2 ^ 64 ≤ m.nextCapId + 1 := by
  rw [call_eq_none]
  have hpost := AddressSpaceManager.allocateRegion_post m cap region e now
  rw [Post] at hpost ⊢
  generalize ((AddressSpaceManager.allocateRegion cap region e now).exec m).1 = r at hpost ⊢
  cases r with
  | ok =>
    refine iff_of_false (by simp) fun h => ?_
    exact Nat.not_le.mpr hpost.2.1 h.2
  | error f =>
    cases f with
    | err => exact iff_of_false (by simp) fun h => hpost.1 h.1
    | panic => exact iff_of_true rfl hpost

theorem allocation_call_eq_none {charge} (h : charge.Post k fun _ k' => Accounting k k') {region} : (do
      charge
      let k ← get
      onAddressSpaces (AddressSpaceManager.allocateRegion cap region e k.currentTime)).call k = none ↔
      charge.call k = none ∨ k.NumbersUsedUp cap e ∧ ∃ k1, charge.call k = some (.ok (), k1) := by
  have hallocate : ∀ k1 : SimulatedKernel, (do
      let k ← get
      onAddressSpaces (AddressSpaceManager.allocateRegion cap region e k.currentTime) :
        Proc SimulatedKernel MemoryError MemoryRegionCap).call k1 = none ↔ k1.NumbersUsedUp cap e := by
    intro k1
    rw [call_eq_none, post_get_bind, onAddressSpaces, post_zoom, ← call_eq_none, manager_call_eq_none]
    rfl
  rw [call_seq_eq_none]
  simp only [hallocate]
  refine or_congr_right ⟨?_, ?_⟩
  · rintro ⟨k1, hcall, hused⟩
    obtain ⟨_, _, _, _, _, rfl⟩ := h.of_call hcall
    exact ⟨hused, _, hcall⟩
  · rintro ⟨hused, k1, hcall⟩
    refine ⟨k1, hcall, ?_⟩
    obtain ⟨_, _, _, _, _, rfl⟩ := h.of_call hcall
    exact hused

theorem allocateRegion_call_eq_none {r size p b} : (allocateRegion r cap size p b e).call k = none ↔
      size ≠ 0 ∧ k.NumbersUsedUp cap e ∧ k.MemoryAccepted e size := by
  rw [call_eq_none, allocateRegion, post_failIf_bind]
  split
  · rename_i hzero
    simp [hzero]
  · rename_i hzero
    have hunits : memoryUnits size ≠ 0 := Nat.ne_of_gt (Nat.div_pos (by omega) (by decide))
    have hcharge : ¬ (chargeMemory e size).Post k fun a _ => a = .error .panic := (chargeMemory_taken k e size).1.1
    rw [← call_eq_none, allocation_call_eq_none ((chargeMemory_taken k e size).mono fun _ _ h => h.2.accounting),
      ((chargeMemory_taken k e size).mono fun _ _ h => h.1.2).exists_call, call_eq_none]
    simp [hzero, hcharge, hunits]

theorem allocateRegionOp_call_eq_none {r size p b} : (allocateRegionOp r cap size p b e).call k = none ↔
      k.MemoryOverflows e size ∨ k.NumbersUsedUp cap e ∧ k.MemoryAccepted e size := by
  have hcharge : ((chargeMemoryOp e size).Post k fun a _ => a = .error .panic) ↔ k.MemoryOverflows e size :=
    (chargeMemoryOp_taken k e size).1.1
  rw [allocateRegionOp, allocation_call_eq_none ((chargeMemoryOp_taken k e size).mono fun _ _ h => h.2.accounting),
    ((chargeMemoryOp_taken k e size).mono fun _ _ h => h.1.2).exists_call, call_eq_none, hcharge]
  tauto

end SimulatedKernel

namespace Session

open SimulatedKernel

variable {α : Type} {o o' : Option IdentityMetadata}

/-! ## What a call does to the accounts -/

def Call.edited : Call → Option ExecutionId
  | .createIdentity i => some i.executionId
  | .updateIdentity e _ => some e
  | _ => none

inductive AccountEffect (k : SimulatedKernel) : Call → SimulatedKernel → Prop
  | charged {call k'} (charges : Charges k k') : AccountEffect k call k'
  | allocated {call cap region e k'} (kind : call.allocation = some (cap, region, e)) (charged : MemoryCharged e k k') :
      AccountEffect k call k'
  | spawned {call ids i k'} (drawn : call.drawn = some ids) (unmetered : i.budget = none)
      (parent : i.parentId = call.family.1) (table : k'.identityTable = k.identityTable.insert ids.execution i)
      (cancelled : k'.cancelledIdentities = k.cancelledIdentities) : AccountEffect k call k'
  | created {i} :
      AccountEffect k (.createIdentity i) { k with identityTable := k.identityTable.insert i.executionId i }
  | updated {e f} : AccountEffect k (.updateIdentity e f) { k with identityTable := k.identityTable.modify e f }

variable {k k' : SimulatedKernel} {w w' : Session} {call : Call} {a : Answer} {e : ExecutionId}

theorem Outcome.accounts (h : Outcome k call a k') : AccountEffect k call k' := by
  have hmailed : ∀ {k'}, Mailed k k' → Charges k k' := by
    rintro k' ⟨k1, -, hcharges, ⟨_, _, _, rfl⟩⟩
    exact hcharges.trans (.of_eq rfl rfl)
  cases h with
  | refused => exact .charged (.refl k)
  | opened | space | accessed | activated => exact .charged (.of_eq rfl rfl)
  | created => exact .created
  | updated => exact .updated
  | bookkept _ kept => exact .charged (.of_eq kept.identityTable kept.cancelledIdentities)
  | spawned drawn _ admitted =>
    obtain ⟨_, _, _, -, -, rfl⟩ := admitTask_parts admitted
    exact .spawned drawn rfl rfl rfl rfl
  | @terminated orders t reason =>
    obtain ⟨_, _, _, heq, -⟩ := terminateTaskWithReason_parts k orders t reason
    rw [heq]
    exact .charged (.of_eq rfl rfl)
  | timed _ loop => exact .charged (loop loopRule_passed).charges
  | charged _ meters consumed => exact .charged (consumed.charges meters)
  | @sent orders c m _ _ call => exact .charged (hmailed ((sendMessage_mailed orders k c m).of_call call))
  | @received orders c _ _ call => exact .charged (hmailed ((receiveMessage_mailed orders k c).of_call call))
  | allocated kind allocated => exact .allocated kind allocated.charged

theorem step_accounts (h : machine.step w call = some (a, w')) : AccountEffect w.kernel call w'.kernel :=
  (step_outcome h).accounts

/-! ## Calls that panic -/

def Call.isCharged : Call → Bool
  | .sendMessage _ _ _ => true
  | .receiveMessage _ _ => true
  | call => call.charge.isSome || call.allocation.isSome

/-- Where a call computes a number past the largest one, or has none left. -/
def Overflows (k : SimulatedKernel) : Call → Prop
  | .sendMessage _ c m => k.checkSend c m = .ok () ∧
      (k.MessageOverflows m.source ∨ k.MessageAccepted m.source ∧ k.PostOverflows c m)
  | .receiveMessage _ c => k.checkReceive c = .ok () ∧
      (k.MessageOverflows k.currentReceiveTask ∨ k.MessageAccepted k.currentReceiveTask ∧ k.TakeOverflows c)
  | .allocateRegion _ cap size _ _ e => size ≠ 0 ∧ k.NumbersUsedUp cap e ∧ k.MemoryAccepted e size
  | .allocateRegionOp _ cap size _ _ e =>
      k.MemoryOverflows e size ∨ k.NumbersUsedUp cap e ∧ k.MemoryAccepted e size
  | call => ∃ x ∈ call.charge, k.ChargeOverflows x.1 x.2.1 x.2.2

theorem answer_eq_none {ε : Type} {m : Proc SimulatedKernel ε α} {f} : answer k m f = none ↔ m.call k = none :=
  map_eq_none_iff

theorem perform_eq_none_iff (hcall : call.isCharged = true) : perform k call = none ↔ Overflows k call := by
  have hcharging : ∀ {m : Proc SimulatedKernel KernelError Unit} {orders e r amount}, Charging m orders e r amount →
      (answer k m .result = none ↔ k.ChargeOverflows e r amount) := by
    rintro m orders e r amount ⟨c, hmeters, rfl, rfl⟩
    rw [answer_eq_none, call_eq_none]
    exact (tryConsume_consumed orders k e c).panic_iff hmeters
  cases call with
  | tryConsumeCpuTicks orders e amount =>
    rw [perform, hcharging (charging_cpuTicks orders e amount)]
    simp [Overflows, Call.charge]
  | tryConsumePipelineStage orders e stage =>
    rw [perform, hcharging (charging_pipelineStage orders e stage)]
    simp [Overflows, Call.charge]
  | tryConsumePacket orders e op =>
    rw [perform, hcharging (charging_packet orders e op)]
    simp [Overflows, Call.charge]
  | tryConsumeStorageOp orders e op =>
    rw [perform, hcharging (charging_storageOp orders e op)]
    simp [Overflows, Call.charge]
  | sendMessage orders c m =>
    rw [perform, answer_eq_none, sendMessage, exchange_call_eq_none (chargeSource_charged orders k m)
      postMessage_call_eq_none fun ⟨_, _, _, _, _, heq⟩ => by rw [heq]; rfl]
    rfl
  | receiveMessage orders c =>
    rw [perform, answer_eq_none, receiveMessage, exchange_call_eq_none (chargeReceiver_charged orders k)
      dequeueMessage_call_eq_none fun ⟨_, _, _, _, _, heq⟩ => by rw [heq]; rfl]
    rfl
  | allocateRegion r cap size p b e =>
    rw [perform, answer_eq_none, allocateRegion_call_eq_none]
    rfl
  | allocateRegionOp r cap size p b e =>
    rw [perform, answer_eq_none, allocateRegionOp_call_eq_none]
    rfl
  | _ => cases hcall

/-! ## Limits -/

def KeepsBudgets (k : SimulatedKernel) : Call → Prop
  | .createIdentity i => i.WithinBudget
  | .updateIdentity e f => ∀ i ∈ k.identityTable[e]?, i.WithinBudget → (f i).WithinBudget
  | _ => True

instance (k : SimulatedKernel) (call : Call) : Decidable (KeepsBudgets k call) := by
  unfold KeepsBudgets
  split <;> infer_instance

def WithinBudgets (k : SimulatedKernel) : Prop :=
  ∀ (e : ExecutionId) i, k.identityTable[e]? = some i → i.WithinBudget

theorem withinBudget_of_recharged (h : Recharged o o')
    (ho : ∀ i, o = some i → i.WithinBudget) : ∀ i, o' = some i → i.WithinBudget := by
  intro i hi
  obtain rfl | ⟨i0, usage, rfl, rfl, hwithin⟩ := h
  · exact ho i hi
  · cases hi
    exact hwithin (ho i0 rfl)

theorem AccountEffect.withinBudgets (h : AccountEffect k call k') (hk : WithinBudgets k)
    (hkeeps : KeepsBudgets k call) : WithinBudgets k' := by
  intro e i hi
  cases h with
  | charged charges => exact withinBudget_of_recharged (charges.entry e) (hk e) i hi
  | @allocated _ _ _ e' _ _ charged =>
    by_cases he : e = e'
    · subst he
      exact withinBudget_of_recharged charged.entry (hk e) i hi
    · rw [charged.others e he] at hi
      exact hk e i hi
  | spawned _ unmetered _ table =>
    rw [table, getElem?_insert] at hi
    split at hi
    · cases hi
      intro budget hbudget
      cases unmetered.symm.trans hbudget
    · exact hk e i hi
  | created =>
    rw [getElem?_insert] at hi
    split at hi
    · cases hi
      exact hkeeps
    · exact hk e i hi
  | updated =>
    rw [getElem?_modify] at hi
    split at hi
    · rename_i he
      subst he
      obtain ⟨i0, hi0, rfl⟩ := map_eq_some_iff.mp hi
      exact hkeeps i0 hi0 (hk _ i0 hi0)
    · exact hk e i hi

/-! ## Accounts that are cancelled -/

def SameButMemory (o o' : Option IdentityMetadata) : Prop :=
  ∀ i', o' = some i' → ∃ i, o = some i ∧ ∀ r, r ≠ .memoryUnits → i'.usage.amount r = i.usage.amount r

theorem SameButMemory.of_eq (h : o' = o) : SameButMemory o o' :=
  fun i' hi' => ⟨i', h ▸ hi', fun _ _ => rfl⟩

theorem SameButMemory.trans {o''} (h : SameButMemory o o') (h' : SameButMemory o' o'') : SameButMemory o o'' := by
  intro i'' hi''
  obtain ⟨i', hi', heq'⟩ := h' i'' hi''
  obtain ⟨i, hi, heq⟩ := h i' hi'
  exact ⟨i, hi, fun r hr => (heq' r hr).trans (heq r hr)⟩

theorem AccountEffect.cancelled (h : AccountEffect k call k') (he : e ∈ k.cancelledIdentities)
    (hedited : call.edited ≠ some e) (hfresh : ∀ ids ∈ call.drawn, ids.execution ≠ e) :
    e ∈ k'.cancelledIdentities ∧ SameButMemory k.identityTable[e]? k'.identityTable[e]? ∧
      ((∀ x ∈ call.allocation, x.2.2 ≠ e) → k'.identityTable[e]? = k.identityTable[e]?) := by
  cases h with
  | charged charges =>
    obtain ⟨hcancelled, hentry⟩ := charges.cancelled e he
    exact ⟨hcancelled, .of_eq hentry, fun _ => hentry⟩
  | @allocated _ _ _ e' _ kind charged =>
    refine ⟨charged.cancelled ▸ he, ?_, fun hnone => charged.others e fun heq => hnone _ kind heq.symm⟩
    by_cases heq : e = e'
    · subst heq
      intro i' hi'
      obtain heq | ⟨i, usage, hi, -, -⟩ := charged.entry
      · exact SameButMemory.of_eq heq i' hi'
      · exact ⟨i, hi, charged.usage i i' hi hi'⟩
    · exact .of_eq (charged.others e heq)
  | spawned drawn _ _ table cancelled =>
    have hentry : k'.identityTable[e]? = k.identityTable[e]? := by
      rw [table, getElem?_insert, if_neg (hfresh _ drawn)]
    exact ⟨cancelled ▸ he, .of_eq hentry, fun _ => hentry⟩
  | @created i =>
    have hne : i.executionId ≠ e := fun heq => hedited (congrArg some heq)
    have hentry : (k.identityTable.insert i.executionId i)[e]? = k.identityTable[e]? := by
      rw [getElem?_insert, if_neg hne]
    exact ⟨he, .of_eq hentry, fun _ => hentry⟩
  | @updated e' f =>
    have hne : e' ≠ e := fun heq => hedited (congrArg some heq)
    have hentry : (k.identityTable.modify e' f)[e]? = k.identityTable[e]? := by
      rw [getElem?_modify, if_neg hne]
    exact ⟨he, .of_eq hentry, fun _ => hentry⟩

structure StaysCancelled (e : ExecutionId) (o : Option IdentityMetadata) (tr : Trace) (w : Session) :
    Prop where
  identified : w.Identified
  cancelled : e ∈ w.kernel.cancelledIdentities
  usage : SameButMemory o w.kernel.identityTable[e]?
  entry : (∀ event ∈ tr, ∀ x ∈ event.1.allocation, x.2.2 ≠ e) → w.kernel.identityTable[e]? = o

theorem StaysCancelled.step {tr} (h : StaysCancelled e o tr w) (hs : machine.step w call = some (a, w'))
    (hedited : call.edited ≠ some e) : StaysCancelled e o (tr ++ [(call, a)]) w' := by
  have hfresh : ∀ ids ∈ call.drawn, ids.execution ≠ e := by
    rintro ids hids rfl
    exact ((step_perform hs).1 ids hids).2 (h.identified.cancelled _ h.cancelled)
  obtain ⟨hcancelled, husage, hentry⟩ := (step_accounts hs).cancelled h.cancelled hedited hfresh
  refine ⟨h.identified.step hs, hcancelled, h.usage.trans husage, fun hnone => ?_⟩
  rw [hentry (hnone (call, a) (by simp)), h.entry fun event hevent => hnone event (List.mem_append_left _ hevent)]

def payer (k : SimulatedKernel) : Call → Option ExecutionId
  | .sendMessage _ _ m => m.source.bind fun t => k.taskToIdentity[t]?
  | .receiveMessage _ _ => k.currentReceiveTask.bind fun t => k.taskToIdentity[t]?
  | call => call.charge.map Prod.fst

def Refused {α : Type} (m : Proc SimulatedKernel KernelError α) (k : SimulatedKernel) : Prop :=
  m.Post k fun r k' => k' = k ∧ ∃ error, r = .error (.err error)

theorem Refused.answer {m} (h : Refused m k) (f : Except KernelError α → Answer) :
    ∃ error, answer k m f = some (f (.error error), k) := by
  rw [Refused, Post] at h
  rcases hexec : m.exec k with ⟨r, k'⟩
  rw [hexec] at h
  obtain ⟨rfl, error, rfl⟩ := h
  exact ⟨error, by rw [Session.answer, call, hexec]; rfl⟩

theorem refused_of_consumed {orders} (he : e ∈ k.cancelledIdentities) {r} (h : Consumed orders k e c r k') :
    k' = k ∧ ∃ error, r = .error (.err error) := by
  cases h with
  | refused => exact ⟨rfl, _, rfl⟩
  | free active | spent active | exhausted active | overflow active => exact absurd he active

theorem refused_exchange {orders task} {act : Proc SimulatedKernel KernelError α}
    (hcharge : charge.Post k (MessageCharged orders k task)) (he : e ∈ k.cancelledIdentities)
    (hpayer : (task.bind fun t => k.taskToIdentity[t]?) = some e) :
    Refused (do ofExcept (check (← get)); charge; act) k := by
  have hrefused : ∀ {r k'}, MessageCharged orders k task r k' → k' = k ∧ ∃ error, r = .error (.err error) := by
    intro r k' h
    cases h with
    | free free => cases free.symm.trans hpayer
    | charged known _ _ consumed =>
      cases known.symm.trans hpayer
      exact refused_of_consumed he consumed
  refine post_exchange hcharge (fun error => ⟨rfl, error, rfl⟩) (fun f k1 h => ?_) fun _ k1 h => ?_
  · obtain ⟨rfl, error, ⟨⟩⟩ := hrefused h
    exact ⟨rfl, error, rfl⟩
  · obtain ⟨-, _, ⟨⟩⟩ := hrefused h

theorem perform_refused (he : e ∈ k.cancelledIdentities) (hpayer : payer k call = some e) :
    ∃ a, perform k call = some (a, k) ∧ a.isErr = true := by
  have hcharging : ∀ {m : Proc SimulatedKernel KernelError Unit} {orders r amount}, Charging m orders e r amount →
      ∃ a, answer k m .result = some (a, k) ∧ a.isErr = true := by
    rintro m orders r amount ⟨c, -, -, rfl⟩
    have hrefused : Refused (tryConsume orders e c) k :=
      (tryConsume_consumed orders k e c).mono fun _ _ => refused_of_consumed he
    obtain ⟨error, hanswer⟩ := hrefused.answer .result
    exact ⟨_, hanswer, rfl⟩
  cases call with
  | tryConsumeCpuTicks orders e' amount =>
    cases hpayer
    exact hcharging (charging_cpuTicks orders e' amount)
  | tryConsumePipelineStage orders e' stage =>
    cases hpayer
    exact hcharging (charging_pipelineStage orders e' stage)
  | tryConsumePacket orders e' op =>
    cases hpayer
    exact hcharging (charging_packet orders e' op)
  | tryConsumeStorageOp orders e' op =>
    cases hpayer
    exact hcharging (charging_storageOp orders e' op)
  | sendMessage orders c m =>
    obtain ⟨error, hanswer⟩ := (refused_exchange (chargeSource_charged orders k m) he hpayer).answer .result
    exact ⟨_, hanswer, rfl⟩
  | receiveMessage orders c =>
    obtain ⟨error, hanswer⟩ := (refused_exchange (chargeReceiver_charged orders k) he hpayer).answer .message
    exact ⟨_, hanswer, rfl⟩
  | _ => cases hpayer

end Session

end PandaGen.Kernel
