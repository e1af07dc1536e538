import PandaGen.Kernel.Lemmas.RunLoop

/-!
# What happens to the capability table

Termination and time end capabilities; the table is described entry by entry.
-/

namespace PandaGen.Kernel.SimulatedKernel

open Lib Option Std.ExtTreeMap

def ended (info : CapabilityMetadata) : CapabilityMetadata := { info with status := .invalid }

/-! ## Loops over capabilities that end -/

variable (event : Nat → CapabilityMetadata → CapabilityEvent)

theorem foldl_endWith_parts (l : List Nat) (k) :
    ∃ capabilityTable capabilityAudit, l.foldl (endWith event) k = { k with capabilityTable, capabilityAudit } := by
  induction l generalizing k with
  | nil => exact ⟨_, _, rfl⟩
  | cons c l ih =>
    obtain ⟨table, audit, hl⟩ := ih (endWith event k c)
    rw [List.foldl_cons, hl, endWith]
    split <;> exact ⟨table, audit, rfl⟩

theorem endWith_entry (k c a) : (endWith event k c).capabilityTable[a]? =
      if c = a then k.capabilityTable[a]?.map ended else k.capabilityTable[a]? := by
  rw [endWith]
  split
  · rename_i info hinfo
    refine (BTreeMap.getElem?_insert k.capabilityTable c (ended info) a).trans ?_
    split
    · rename_i ha
      rw [← ha, hinfo, map_some]
    · rfl
  · rename_i hnone
    split
    · rename_i ha
      rw [← ha, hnone, map_none]
    · rfl

theorem foldl_endWith_entry (l : List Nat) (k : SimulatedKernel)
    (a : Nat) : (l.foldl (endWith event) k).capabilityTable[a]? =
      if a ∈ l then k.capabilityTable[a]?.map ended else k.capabilityTable[a]? := by
  induction l generalizing k with
  | nil => simp
  | cons c l ih =>
    rw [List.foldl_cons, ih, endWith_entry]
    by_cases hca : c = a
    · subst hca
      -- a capability that is ended twice is as one that is ended once
      rw [if_pos rfl, if_pos List.mem_cons_self, Option.map_map]
      split <;> rfl
    · simp [hca, Ne.symm hca]

theorem foldl_endWith_filter (order : HashOrder Nat) (k : SimulatedKernel) (p) : ∃ capabilityTable capabilityAudit,
      ((order.order k.capabilityTable.keys).filter fun c => k.capabilityTable[c]?.any p).foldl (endWith event) k =
        { k with capabilityTable, capabilityAudit } ∧
      ∀ a : Nat, capabilityTable[a]? = k.capabilityTable[a]?.map fun info => if p info then ended info else info := by
  obtain ⟨table, audit, heq⟩ := foldl_endWith_parts event _ k
  refine ⟨table, audit, heq, fun a => ?_⟩
  have hmem : a ∈ (order.order k.capabilityTable.keys).filter (fun c => k.capabilityTable[c]?.any p) ↔
      k.capabilityTable[a]?.any p = true := by
    rw [List.mem_filter, HashOrder.mem_order, mem_keys, mem_iff_isSome_getElem?]
    cases k.capabilityTable[a]? <;> simp
  have htable := congrArg SimulatedKernel.capabilityTable heq.symm
  dsimp only at htable
  rw [htable, foldl_endWith_entry, if_congr hmem rfl rfl]
  cases k.capabilityTable[a]? with
  | none => simp
  | some info => by_cases hp : p info = true <;> simp [hp]

theorem invalidateTaskCapabilities_parts (k : SimulatedKernel) (orders : HashOrders) (t) :
    ∃ capabilityTable capabilityAudit,
      k.invalidateTaskCapabilities orders t = { k with capabilityTable, capabilityAudit } ∧
      ∀ c : Nat, capabilityTable[c]? =
        k.capabilityTable[c]?.map fun info => if info.owner = t then ended info else info := by
  obtain ⟨table, audit, heq, hentry⟩ :=
    foldl_endWith_filter _ (orders.capabilities k.timerTicks) k fun info => info.owner = t
  exact ⟨table, audit, heq, by simpa using hentry⟩

theorem expireCapabilityLeases_parts (k : SimulatedKernel) (orders : HashOrders) : ∃ capabilityTable capabilityAudit,
      k.expireCapabilityLeases orders = { k with capabilityTable, capabilityAudit } ∧
      ∀ c : Nat, capabilityTable[c]? = k.capabilityTable[c]?.map fun info =>
        if info.status = .valid ∧ info.leasePassed k.currentTime = true then ended info else info := by
  obtain ⟨table, audit, heq, hentry⟩ := foldl_endWith_filter _ (orders.capabilities k.timerTicks) k fun info =>
    decide (info.status = .valid) && info.leasePassed k.currentTime
  exact ⟨table, audit, heq, by simpa using hentry⟩

/-! ## Termination -/

structure Terminated (k : SimulatedKernel) (t : TaskId) (k' : SimulatedKernel) : Prop where
  tasks : k'.tasks = k.tasks.erase t
  taskToIdentity : k'.taskToIdentity = k.taskToIdentity.erase t
  entry : ∀ c : Nat, k'.capabilityTable[c]? =
    k.capabilityTable[c]?.map fun info => if info.owner = t then ended info else info
  timerTicks : k'.timerTicks = k.timerTicks
  currentTime : k'.currentTime = k.currentTime
  nanosPerTick : k'.nanosPerTick = k.nanosPerTick
  channelAccess : k'.channelAccess = k.channelAccess
  identityTable : k'.identityTable = k.identityTable
  cancelledIdentities : k'.cancelledIdentities = k.cancelledIdentities

theorem terminateTaskWithReason_parts (k : SimulatedKernel) (orders t reason) :
    ∃ exitNotifications capabilityTable capabilityAudit, k.terminateTaskWithReason orders t reason = { k with
          exitNotifications, capabilityTable, capabilityAudit
          tasks := k.tasks.erase t
          taskToIdentity := k.taskToIdentity.erase t
          addressSpaceManager := (k.taskToIdentity[t]?).elim k.addressSpaceManager fun e =>
            k.addressSpaceManager.destroyAddressSpace e k.currentTime
          scheduler := (k.exitTask t reason).scheduler
          smp := (k.exitTask t reason).smp } ∧
      ∀ c : Nat, capabilityTable[c]? =
        k.capabilityTable[c]?.map fun info => if info.owner = t then ended info else info := by
  rw [terminateTaskWithReason]
  obtain ⟨notifications, hrelease⟩ := releaseIdentity_parts k t reason
  rw [hrelease]
  obtain ⟨table, audit, hinvalidate, hentry⟩ := invalidateTaskCapabilities_parts _ orders t
  rw [hinvalidate, exitTask, exitTask]
  refine ⟨notifications, table, audit, ?_, hentry⟩
  dsimp only
  split <;> rfl

theorem terminated_terminateTaskWithReason (k : SimulatedKernel) (orders t reason) :
    Terminated k t (k.terminateTaskWithReason orders t reason) := by
  obtain ⟨_, _, _, heq, hentry⟩ := terminateTaskWithReason_parts k orders t reason
  rw [heq]
  exact ⟨rfl, rfl, hentry, rfl, rfl, rfl, rfl, rfl, rfl⟩

/-! ## Time -/

structure Advanced (k k' : SimulatedKernel) : Prop where
  timerTicks : k.timerTicks ≤ k'.timerTicks
  currentTime : k'.currentTime = k'.timerTicks * k'.nanosPerTick
  entry : ∀ c : Nat, k'.capabilityTable[c]? = k.capabilityTable[c]?.map fun info =>
    if info.status = .valid ∧ info.leasePassed k'.currentTime = true then ended info else info
  scheduler : ∃ order ticks, k.scheduler.onTickAdvanced order ticks = some k'.scheduler
  nanosPerTick : k'.nanosPerTick = k.nanosPerTick
  tasks : k'.tasks = k.tasks
  taskToIdentity : k'.taskToIdentity = k.taskToIdentity
  identityTable : k'.identityTable = k.identityTable
  cancelledIdentities : k'.cancelledIdentities = k.cancelledIdentities
  smp : k'.smp = k.smp
  channelAccess : k'.channelAccess = k.channelAccess

def delivery (k : SimulatedKernel) (now : Nat) : BTreeMap ChannelId MessageQueue × List DelayedMessage :=
  k.delayedMessages.foldl (deliver now) (k.channels, [])

theorem advanceTime_parts {k k' : SimulatedKernel} {orders duration} (h : k.advanceTime orders duration = some k') :
    ∃ currentTime capabilityTable capabilityAudit scheduler, k' = { k with
          currentTime, capabilityTable, capabilityAudit, scheduler
          timerTicks := k.timerTicks + duration / k.nanosPerTick
          channels := (k.delivery currentTime).1
          delayedMessages := (k.delivery currentTime).2 } ∧
      0 < k.nanosPerTick ∧ currentTime = (k.timerTicks + duration / k.nanosPerTick) * k.nanosPerTick ∧
      (∃ order ticks, k.scheduler.onTickAdvanced order ticks = some scheduler) ∧
      ∀ c : Nat, capabilityTable[c]? = k.capabilityTable[c]?.map fun info =>
        if info.status = .valid ∧ info.leasePassed currentTime = true then ended info else info := by
  obtain ⟨ticks, hdiv, h⟩ := bind_eq_some_iff.mp h
  obtain ⟨timerTicks, hticks, h⟩ := bind_eq_some_iff.mp h
  obtain ⟨k1, hsync, h⟩ := bind_eq_some_iff.mp h
  obtain ⟨scheduler, hscheduler, ⟨⟩⟩ := bind_eq_some_iff.mp h
  obtain ⟨nanos, hnanos, ⟨⟩⟩ := bind_eq_some_iff.mp hsync
  obtain ⟨table, audit, hexpire, hentry⟩ :=
    expireCapabilityLeases_parts { k with timerTicks := timerTicks, currentTime := nanos } orders
  rw [hexpire] at hscheduler ⊢
  obtain ⟨hne, ⟨⟩⟩ := ite_none_left_eq_some.mp hdiv
  obtain rfl := (checkedAdd_eq_some.mp hticks).2
  exact ⟨_, _, _, _, rfl, Nat.pos_of_ne_zero hne, (checkedMul_eq_some.mp hnanos).2.symm, ⟨_, _, hscheduler⟩, hentry⟩

theorem advanced_advanceTime {k k' orders duration} (h : k.advanceTime orders duration = some k') : Advanced k k' := by
  obtain ⟨_, _, _, _, rfl, -, htime, hscheduler, hentry⟩ := advanceTime_parts h
  exact ⟨Nat.le_add_right _ _, htime, hentry, hscheduler, rfl, rfl, rfl, rfl, rfl, rfl, rfl⟩

end PandaGen.Kernel.SimulatedKernel
