import PandaGen.Kernel.Lemmas.Capability

/-!
# What the methods of the kernel write

Charges write accounts, messages write channels, memory writes its manager, and the other calls write none of
these.
-/

namespace PandaGen.Kernel

open Lib Proc Option

namespace SimulatedKernel

variable {k k' : SimulatedKernel} {orders : HashOrders}

/-! ## Charges -/

def Accounting (k k' : SimulatedKernel) : Prop :=
  ∃ identityTable cancelledIdentities resourceAudit scheduler smp,
    k' = { k with identityTable, cancelledIdentities, resourceAudit, scheduler, smp }

theorem Accounting.refl (k) : Accounting k k := ⟨_, _, _, _, _, rfl⟩

theorem Consumed.accounting {e c r} (h : Consumed orders k e c r k') : Accounting k k' := by
  cases h with
  | refused | free | overflow => exact .refl k
  | spent => exact ⟨_, _, _, _, _, rfl⟩
  | exhausted =>
    obtain ⟨_, _, heq, -⟩ := cancelIdentity_parts _ orders e c.resourceType
    rw [heq]
    exact ⟨_, _, _, _, _, rfl⟩

theorem MessageCharged.accounting {task r} (h : MessageCharged orders k task r k') : Accounting k k' := by
  cases h with
  | free => exact .refl k
  | charged _ _ _ consumed => exact consumed.accounting

theorem chargeCpu_accounting {t ticks failed} (h : k.chargeCpu orders t ticks = some (failed, k')) :
    Accounting k k' ∧ Charges k k' := by
  rw [chargeCpu] at h
  split at h
  · rename_i e _
    obtain ⟨⟨r, k1⟩, hcall, ⟨⟩⟩ := bind_eq_some_iff.mp h
    obtain ⟨c, hmeters, -, hcharge⟩ := charging_cpuTicks orders e ticks
    rw [hcharge] at hcall
    have hconsumed := (tryConsume_consumed orders k e c).of_call hcall
    exact ⟨hconsumed.accounting, hconsumed.charges hmeters⟩
  · cases h
    exact ⟨.refl k, .refl k⟩

theorem MemoryTaken.accounting {e size a} (h : MemoryTaken k e size a k') : Accounting k k' := by
  cases h <;> exact ⟨_, _, _, _, _, rfl⟩

/-! ## Other calls -/

structure Bookkept (k k' : SimulatedKernel) : Prop where
  currentTime : k'.currentTime = k.currentTime
  channels : k'.channels = k.channels
  faultInjector : k'.faultInjector = k.faultInjector
  delayedMessages : k'.delayedMessages = k.delayedMessages
  identityTable : k'.identityTable = k.identityTable
  taskToIdentity : k'.taskToIdentity = k.taskToIdentity
  cancelledIdentities : k'.cancelledIdentities = k.cancelledIdentities
  addressSpaceManager : k'.addressSpaceManager = k.addressSpaceManager
  channelCapacity : k'.channelCapacity = k.channelCapacity

theorem Bookkept.refl (k) : Bookkept k k := ⟨rfl, rfl, rfl, rfl, rfl, rfl, rfl, rfl, rfl⟩

theorem registerService_bookkept (k s c) : (registerService s c).Post k fun _ k' => Bookkept k k' := by
  rw [registerService, post_get_bind, post_failIf_bind]
  split
  · exact .refl k
  · exact ⟨rfl, rfl, rfl, rfl, rfl, rfl, rfl, rfl, rfl⟩

end SimulatedKernel

namespace Session

open SimulatedKernel

def Call.isBookkeeping : Call → Bool
  | .clearExitNotifications => true
  | .yieldNow => true
  | .grantCapability _ _ => true
  | .grantCapabilityWithLease _ _ _ => true
  | .delegateCapability _ _ _ => true
  | .dropCapability _ _ => true
  | .revokeCapability _ _ _ => true
  | .grantChannelAccess _ _ _ => true
  | .revokeChannelAccess _ _ => true
  | .setReceiveContext _ => true
  | .clearReceiveContext => true
  | .registerService _ _ => true
  | .registerServiceWithSchema _ _ _ => true
  | .setServiceSchemaPolicy _ _ => true
  | _ => false

theorem bookkept_of_answer {k k' m a Q} (h : answer k m .result = some (a, k'))
    (hm : OnSuccess k m Q) (hok : Q k' → Bookkept k k') : Bookkept k k' := by
  obtain ⟨r, -, hr⟩ := exists_of_answer h hm
  cases r with
  | error => exact hr ▸ .refl k
  | ok => exact hok hr

theorem perform_bookkept {k k' call a} (hc : call.isBookkeeping = true) (h : perform k call = some (a, k')) :
    Bookkept k k' := by
  cases call with
  | clearExitNotifications | yieldNow | grantChannelAccess | setReceiveContext | clearReceiveContext
  | setServiceSchemaPolicy =>
    cases h
    exact ⟨rfl, rfl, rfl, rfl, rfl, rfl, rfl, rfl, rfl⟩
  | revokeChannelAccess c t =>
    cases h
    obtain ⟨_, heq⟩ := revokeChannelAccess_parts k c t
    rw [heq]
    exact ⟨rfl, rfl, rfl, rfl, rfl, rfl, rfl, rfl, rfl⟩
  | grantCapability t c =>
    refine bookkept_of_answer h (grantCapability_post k t c) fun ⟨_, hk⟩ => ?_
    rw [hk]
    exact ⟨rfl, rfl, rfl, rfl, rfl, rfl, rfl, rfl, rfl⟩
  | grantCapabilityWithLease t c lease =>
    refine bookkept_of_answer h (grantCapabilityWithLease_post k t c lease) fun ⟨_, hk⟩ => ?_
    rw [hk]
    exact ⟨rfl, rfl, rfl, rfl, rfl, rfl, rfl, rfl, rfl⟩
  | delegateCapability c t t' =>
    refine bookkept_of_answer h (delegateCapability_post k c t t') fun ⟨_, _, _, _, _, hnoted, hk⟩ => ?_
    rw [hk]
    obtain rfl | ⟨_, _, rfl⟩ := hnoted <;> exact ⟨rfl, rfl, rfl, rfl, rfl, rfl, rfl, rfl, rfl⟩
  | dropCapability c t =>
    refine bookkept_of_answer h (dropCapability_post k c t) fun ⟨_, _, _, hk⟩ => ?_
    rw [hk]
    exact ⟨rfl, rfl, rfl, rfl, rfl, rfl, rfl, rfl, rfl⟩
  | revokeCapability c t reason =>
    refine bookkept_of_answer h (revokeCapability_post k c t reason) fun ⟨_, _, _, hk⟩ => ?_
    rw [hk]
    exact ⟨rfl, rfl, rfl, rfl, rfl, rfl, rfl, rfl, rfl⟩
  | registerService s c =>
    obtain ⟨_, -, hk⟩ := exists_of_answer h (registerService_bookkept k s c)
    exact hk
  | registerServiceWithSchema s c p =>
    have hpost : (registerServiceWithSchema s c p).Post k fun _ k' => Bookkept k k' := by
      refine (registerService_bookkept k s c).bind (fun _ _ h => h) fun _ k1 h1 => ?_
      exact { h1 with }
    obtain ⟨_, -, hk⟩ := exists_of_answer h hpost
    exact hk
  | _ => cases hc

end Session

end PandaGen.Kernel
