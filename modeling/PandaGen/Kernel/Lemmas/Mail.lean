import PandaGen.Kernel.Lemmas.Outcome

/-!
# Sending and receiving

What a send and a receive do to the queues and to the delayed messages, as long as no fault drops or reorders them.
-/

namespace PandaGen.Kernel

open Lib Proc Option FaultInjector MessageQueue

/-! ## Faults that only delay -/

def MessageFault.isDelay : MessageFault → Bool
  | .delay _ => true
  | _ => false

def FaultPlan.OnlyDelays (plan : FaultPlan) : Prop :=
  (∀ fault ∈ plan.messageFaults, fault.isDelay = true) ∧ plan.lifecycleFaults = []

namespace FaultInjector

structure OnlyDelays (f : FaultInjector) : Prop where
  plan : f.plan.OnlyDelays
  dropNextCount : f.dropNextCount = 0
  dropNextOnChannel : f.dropNextOnChannel = ∅
  crashAfterMessages : f.crashAfterMessages = none
  crashOnSend : f.crashOnSend = false
  crashOnRecv : f.crashOnRecv = false

variable {f : FaultInjector}

theorem onlyDelays_new {plan} (h : plan.OnlyDelays) : (new plan).OnlyDelays := by
  have hfold : ∀ (faults : List MessageFault) (f : FaultInjector), (∀ fault ∈ faults, fault.isDelay = true) →
      f.OnlyDelays → (faults.foldl addMessageFault f).OnlyDelays := by
    intro faults
    induction faults with
    | nil => exact fun _ _ hf => hf
    | cons fault faults ih =>
      intro f hfaults hf
      refine ih _ (fun x hx => hfaults x (List.mem_cons_of_mem _ hx)) ?_
      have hfault := hfaults fault List.mem_cons_self
      cases fault with
      | delay duration => exact { hf with }
      | _ => cases hfault
  rw [new, h.2]
  exact hfold plan.messageFaults _ h.1 ⟨h, rfl, rfl, rfl, rfl, rfl⟩

theorem OnlyDelays.shouldDropMessage (h : f.OnlyDelays) (c m) : f.shouldDropMessage c m = (false, f) := by
  have hdrops : f.dropsAction m = false := by
    rw [dropsAction, List.any_eq_false]
    intro fault hfault
    have hdelay := h.plan.1 fault hfault
    cases fault with
    | delay => exact Bool.false_ne_true
    | _ => cases hdelay
  rw [FaultInjector.shouldDropMessage, h.dropNextCount, h.dropNextOnChannel, hdrops]
  rfl

theorem OnlyDelays.applyReordering (h : f.OnlyDelays) (messages) : f.applyReordering messages = some messages := by
  have hfold : ∀ faults : List MessageFault, (∀ fault ∈ faults, fault.isDelay = true) →
      faults.foldlM reorder messages = some messages := by
    intro faults
    induction faults with
    | nil => exact fun _ => rfl
    | cons fault faults ih =>
      intro hfaults
      have hfault := hfaults fault List.mem_cons_self
      cases fault with
      | delay duration =>
        exact ih fun x hx => hfaults x (List.mem_cons_of_mem _ hx)
      | _ => cases hfault
  exact hfold f.plan.messageFaults h.plan.1

theorem OnlyDelays.getMessageDelay (h : f.OnlyDelays) : f.getMessageDelay.2.OnlyDelays := by
  rw [FaultInjector.getMessageDelay]
  split
  · exact { h with }
  · exact h

theorem OnlyDelays.recordMessageProcessed (h : f.OnlyDelays) {f'} (hf : f.recordMessageProcessed = some f') :
    f'.OnlyDelays := by
  obtain ⟨n, -, ⟨⟩⟩ := bind_eq_some_iff.mp hf
  refine ⟨h.plan, h.2, h.3, h.4, h.5, ?_⟩
  rw [h.crashAfterMessages, h.crashOnRecv]
  rfl

end FaultInjector

namespace SimulatedKernel

variable {k k' k'' : SimulatedKernel} {c : ChannelId} {m : MessageEnvelope} {orders : HashOrders}

def Delaying (k : SimulatedKernel) : Prop := ∀ f ∈ k.faultInjector, f.OnlyDelays

def nextDelay (k : SimulatedKernel) : Option Nat := k.faultInjector.bind fun f => f.getMessageDelay.1

structure SameFaults (k k' : SimulatedKernel) : Prop where
  delaying : k.Delaying → k'.Delaying
  none : k'.faultInjector = none ↔ k.faultInjector = none

theorem SameFaults.of_eq (h : k'.faultInjector = k.faultInjector) : SameFaults k k' :=
  ⟨fun hk => by rwa [Delaying, h], by rw [h]⟩

theorem SameFaults.trans (h : SameFaults k k') (h' : SameFaults k' k'') : SameFaults k k'' :=
  ⟨fun hk => h'.delaying (h.delaying hk), h'.none.trans h.none⟩

structure SameMail (k k' : SimulatedKernel) : Prop where
  currentTime : k'.currentTime = k.currentTime
  channels : k'.channels = k.channels
  delayedMessages : k'.delayedMessages = k.delayedMessages

theorem SameMail.refl (k) : SameMail k k := ⟨rfl, rfl, rfl⟩

theorem Accounting.sameMail (h : Accounting k k') : SameMail k k' ∧ k'.faultInjector = k.faultInjector := by
  obtain ⟨_, _, _, _, _, rfl⟩ := h
  exact ⟨⟨rfl, rfl, rfl⟩, rfl⟩

/-! ## Sending -/

theorem injectFaults_delaying (h : k.Delaying) (c m) :
    (injectFaults c m).Post k fun r k' => r = .ok (k.nextDelay.elim .queued .delayed) ∧ SameFaults k k' ∧
      SameMail k k' := by
  rw [injectFaults, post_get_bind, nextDelay]
  cases hf : k.faultInjector with
  | none => exact ⟨rfl, .of_eq rfl, .refl k⟩
  | some f =>
    have hdelays := h f hf
    rw [post_failIf_bind, if_neg (by rw [hdelays.crashOnSend]; exact Bool.false_ne_true),
      hdelays.shouldDropMessage c m]
    refine ⟨rfl, ⟨fun _ f' hf' => ?_, ?_⟩, ⟨rfl, rfl, rfl⟩⟩
    · cases hf'
      exact hdelays.getMessageDelay
    · rw [hf]
      exact ⟨fun h => (some_ne_none _ h).elim, fun h => (some_ne_none _ h).elim⟩

def HasRoom (k : SimulatedKernel) (c : ChannelId) (queue : MessageQueue) : Prop :=
  k.channels[c]? = some queue ∧ queue.messages.length < queue.capacity

def pushed (k : SimulatedKernel) (c : ChannelId) (queue : MessageQueue) (m : MessageEnvelope) : SimulatedKernel :=
  { k with channels := k.channels.insert c { queue with messages := queue.messages ++ [m] } }

theorem enqueueMessage_delaying (h : k.Delaying) (c m) : (enqueueMessage c m).Post k fun r k' => match r with
      | .ok () => ∃ queue, k.HasRoom c queue ∧ k' = k.pushed c queue m
      | .error _ => k' = k := by
  rw [enqueueMessage, post_get_bind, post_okOr_bind]
  cases hqueue : k.channels[c]? with
  | none => rfl
  | some queue =>
    dsimp only
    rw [post_okOr_bind]
    by_cases hfull : queue.messages.length ≥ queue.capacity
    · rw [push, if_pos hfull]
    · rw [push, if_neg hfull]
      have hroom : k.HasRoom c queue := ⟨hqueue, Nat.not_le.mp hfull⟩
      cases hf : k.faultInjector with
      | none => exact ⟨queue, hroom, by rw [pushed, hf]; rfl⟩
      | some f =>
        simp only [post_bind, post_set, post_okOrPanic, (h f hf).applyReordering]
        exact ⟨queue, hroom, by rw [pushed, hf]⟩

inductive Posted (k : SimulatedKernel) (c : ChannelId) (m : MessageEnvelope) (k' : SimulatedKernel) : Prop
  | queued {queue} (delay : k.nextDelay = none) (room : k.HasRoom c queue) (time : k'.currentTime = k.currentTime)
      (channels : k'.channels = (k.pushed c queue m).channels) (delayed : k'.delayedMessages = k.delayedMessages)
  | delayed {duration} (delay : k.nextDelay = some duration) (time : k'.currentTime = k.currentTime)
      (channels : k'.channels = k.channels)
      (delayed : k'.delayedMessages = k.delayedMessages ++ [⟨c, m, k.currentTime + duration⟩])

def Sent (k : SimulatedKernel) (c : ChannelId) (m : MessageEnvelope) (r : Except (Fault KernelError) Unit)
    (k' : SimulatedKernel) : Prop :=
  SameFaults k k' ∧ match r with
    | .ok () => Posted k c m k'
    | .error _ => SameMail k k'

theorem postMessage_delaying (h : k.Delaying) (c m) : (postMessage c m).Post k (Sent k c m) := by
  refine (injectFaults_delaying h c m).bind (fun _ _ h => ?_) fun passage k1 h1 => ?_
  · cases h.1
  obtain ⟨hpassage, hfaults, hmail⟩ := h1
  cases hdelay : k.nextDelay with
  | none =>
    rw [hdelay] at hpassage
    cases hpassage
    refine (enqueueMessage_delaying (hfaults.delaying h) c m).mono fun r k' hr => ?_
    cases r with
    | error => exact hr ▸ ⟨hfaults, hmail⟩
    | ok =>
      obtain ⟨queue, ⟨hqueue, hlength⟩, rfl⟩ := hr
      refine ⟨hfaults.trans (.of_eq rfl), .queued hdelay ⟨hmail.channels ▸ hqueue, hlength⟩ hmail.currentTime ?_
        hmail.delayedMessages⟩
      rw [pushed, pushed, hmail.channels]
  | some duration =>
    rw [hdelay] at hpassage
    cases hpassage
    dsimp only [Option.elim]
    rw [post_get_bind, post_okOrPanic_bind]
    cases hadd : checkedAdd k1.currentTime duration with
    | none => exact ⟨hfaults, hmail⟩
    | some deliverAt =>
      obtain ⟨-, rfl⟩ := checkedAdd_eq_some.mp hadd
      dsimp only
      rw [post_set]
      refine ⟨hfaults.trans (.of_eq rfl), .delayed hdelay hmail.currentTime hmail.channels ?_⟩
      rw [← hmail.currentTime, ← hmail.delayedMessages]

theorem Sent.of_accounting {k1 r} (h : Accounting k k1) (hsent : Sent k1 c m r k') : Sent k c m r k' := by
  obtain ⟨_, _, _, _, _, rfl⟩ := h
  obtain ⟨hfaults, hsent⟩ := hsent
  refine ⟨⟨hfaults.delaying, hfaults.none⟩, ?_⟩
  cases r with
  | error => exact { hsent with }
  | ok =>
    cases hsent with
    | queued delay room time channels delayed => exact .queued delay room time channels delayed
    | delayed delay time channels delayed => exact .delayed delay time channels delayed

theorem sendMessage_delaying (h : k.Delaying) (orders c m) : (sendMessage orders c m).Post k (Sent k c m) := by
  refine post_exchange (chargeSource_charged orders k m) (fun _ => ⟨.of_eq rfl, .refl k⟩) (fun _ k1 h1 => ?_)
    fun _ k1 h1 => ?_
  · obtain ⟨hmail, hfaults⟩ := h1.accounting.sameMail
    exact ⟨.of_eq hfaults, hmail⟩
  · have hdelaying : k1.Delaying := (SameFaults.of_eq h1.accounting.sameMail.2).delaying h
    exact (postMessage_delaying hdelaying c m).mono fun _ _ hsent => hsent.of_accounting h1.accounting

/-! ## Receiving -/

def Received (k : SimulatedKernel) (c : ChannelId) (r : Except (Fault KernelError) MessageEnvelope)
    (k' : SimulatedKernel) : Prop :=
  SameFaults k k' ∧ match r with
    | .ok m => k'.currentTime = k.currentTime ∧ k'.delayedMessages = k.delayedMessages ∧
        ∃ queue rest, k.channels[c]? = some queue ∧ queue.messages = m :: rest ∧
          k'.channels = k.channels.insert c { queue with messages := rest }
    | .error _ => SameMail k k'

theorem sameFaults_of_processed {o} (h : k.faultInjector.mapM recordMessageProcessed = some o)
    (hk : k'.faultInjector = o) : SameFaults k k' := by
  cases hf : k.faultInjector with
  | none =>
    rw [hf] at h
    cases h
    exact .of_eq (hk.trans hf.symm)
  | some f =>
    rw [hf, mapM_some] at h
    obtain ⟨f', hf', rfl⟩ := map_eq_some_iff.mp h
    refine ⟨fun hdelaying f1 hf1 => ?_, ?_⟩
    · cases hk.symm.trans hf1
      exact (hdelaying f hf).recordMessageProcessed hf'
    · simp [hk, hf]

theorem dequeueMessage_received (k c) : (dequeueMessage c).Post k (Received k c) := by
  have hrefused : ∀ f, Received k c (.error f) k := fun _ => ⟨.of_eq rfl, .refl k⟩
  rw [dequeueMessage, post_get_bind, post_failIf_bind]
  split
  · exact hrefused _
  rw [post_okOr_bind]
  cases hqueue : k.channels[c]? with
  | none => exact hrefused _
  | some queue =>
    dsimp only
    rw [post_okOr_bind, pop]
    cases hmessages : queue.messages with
    | nil => exact hrefused _
    | cons m rest =>
      cases hprocessed : k.faultInjector.mapM recordMessageProcessed with
      | none => exact hrefused _
      | some o =>
        exact ⟨sameFaults_of_processed hprocessed rfl, rfl, rfl, queue, rest, hqueue, hmessages, rfl⟩

theorem receiveMessage_received (orders k c) : (receiveMessage orders c).Post k (Received k c) := by
  refine post_exchange (chargeReceiver_charged orders k) (fun _ => ⟨.of_eq rfl, .refl k⟩) (fun _ k1 h1 => ?_)
    fun _ k1 h1 => ?_
  · obtain ⟨hmail, hfaults⟩ := h1.accounting.sameMail
    exact ⟨.of_eq hfaults, hmail⟩
  · refine (dequeueMessage_received k1 c).mono fun r k' hreceived => ?_
    obtain ⟨_, _, _, _, _, rfl⟩ := h1.accounting
    obtain ⟨hfaults, hreceived⟩ := hreceived
    refine ⟨⟨hfaults.delaying, hfaults.none⟩, ?_⟩
    cases r with
    | error => exact { hreceived with }
    | ok => exact hreceived

end SimulatedKernel

end PandaGen.Kernel
