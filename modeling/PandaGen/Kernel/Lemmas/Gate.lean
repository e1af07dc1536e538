import PandaGen.Kernel.Lemmas.Delivery
import PandaGen.Kernel.SyscallGate

/-!
# What passes the syscall gate

The gate logs a syscall and makes the call of the kernel that it stands for.
-/

namespace PandaGen.Kernel

open Lib Proc Option List

/-! ## Reordering -/

namespace FaultInjector

theorem swap_perm (messages i j) : (swap messages i j).Perm messages := by
  rw [swap]
  split
  · rename_i a b ha hb
    obtain ⟨hi, rfl⟩ := List.getElem?_eq_some_iff.mp ha
    obtain ⟨hj, rfl⟩ := List.getElem?_eq_some_iff.mp hb
    exact set_set_perm hi hj
  · exact .refl _

theorem reorder_perm {messages messages' fault} (h : reorder messages fault = some messages') :
    messages'.Perm messages := by
  cases fault with
  | reorderWindow index offset =>
    rw [reorder] at h
    split at h
    · obtain ⟨target, -, heq⟩ := bind_eq_some_iff.mp h
      cases heq
      split
      · exact swap_perm messages index target
      · exact .refl _
    · cases h
      exact .refl _
  | _ =>
    cases h
    exact .refl _

theorem applyReordering_perm {f : FaultInjector} {messages messages' : List MessageEnvelope}
    (h : f.applyReordering messages = some messages') : messages'.Perm messages := by
  have hfold : ∀ (faults : List MessageFault) (messages : List MessageEnvelope),
      faults.foldlM reorder messages = some messages' → messages'.Perm messages := by
    intro faults
    induction faults with
    | nil =>
      intro messages h
      cases h
      exact .refl _
    | cons fault faults ih =>
      intro messages h
      obtain ⟨messages1, hreorder, h⟩ := bind_eq_some_iff.mp h
      exact (ih messages1 h).trans (reorder_perm hreorder)
  exact hfold f.plan.messageFaults messages h

end FaultInjector

namespace SimulatedKernel

variable {k k' : SimulatedKernel} {c : ChannelId} {m : MessageEnvelope} {orders : HashOrders}

/-! ## What a send queues -/

def mailFor (k : SimulatedKernel) (c : ChannelId) : List MessageEnvelope :=
  (k.channels[c]?.elim [] MessageQueue.messages) ++ (waitingFor c k.delayedMessages).map Prod.fst

def Enqueued (k : SimulatedKernel) (c : ChannelId) (m : MessageEnvelope) (k' : SimulatedKernel) : Prop :=
  ∀ c', (k'.mailFor c').Perm (k.mailFor c') ∨ c' = c ∧ (k'.mailFor c').Perm (m :: k.mailFor c)

theorem SameMail.enqueued (h : SameMail k k') : Enqueued k c m k' := by
  intro c'
  rw [mailFor, h.channels, h.delayedMessages]
  exact .inl (.refl _)

theorem enqueued_of_push {queue messages} (hqueue : k.channels[c]? = some queue)
    (hperm : messages.Perm (queue.messages ++ [m])) :
    Enqueued k c m { k with channels := k.channels.insert c { queue with messages } } := by
  intro c'
  by_cases hc : c' = c
  · subst hc
    refine .inr ⟨rfl, ?_⟩
    rw [mailFor, mailFor, BTreeMap.getElem?_insert, if_pos rfl, hqueue]
    exact (hperm.trans perm_append_comm).append_right _
  · refine .inl ?_
    rw [mailFor, mailFor, BTreeMap.getElem?_insert, if_neg (Ne.symm hc)]

theorem enqueued_of_delay {deliverAt} :
    Enqueued k c m { k with delayedMessages := k.delayedMessages ++ [⟨c, m, deliverAt⟩] } := by
  intro c'
  rw [mailFor, mailFor, waitingFor_append, map_append, ← append_assoc]
  by_cases hc : c' = c
  · subst hc
    have hadded : waitingFor c' [⟨c', m, deliverAt⟩] = [(m, deliverAt)] := waitingFor_cons_self rfl []
    rw [hadded]
    exact .inr ⟨rfl, perm_append_comm⟩
  · have hadded : waitingFor c' [⟨c, m, deliverAt⟩] = [] := waitingFor_cons_of_ne (Ne.symm hc) []
    rw [hadded, map_nil, append_nil]
    exact .inl (.refl _)

theorem Enqueued.of_sameMail {k1} (h : SameMail k k1) (h1 : Enqueued k1 c m k') : Enqueued k c m k' := by
  have hmail : k1.mailFor = k.mailFor := by
    funext c'
    rw [mailFor, h.channels, h.delayedMessages, mailFor]
  intro c'
  rw [← hmail]
  exact h1 c'

theorem injectFaults_sameMail (k c m) : (injectFaults c m).Post k fun _ k' => SameMail k k' := by
  rw [injectFaults, post_get_bind]
  cases k.faultInjector with
  | none => exact .refl k
  | some injector =>
    rw [post_failIf_bind]
    split
    · exact .refl k
    · simp only [post_bind, post_set]
      split <;> exact ⟨rfl, rfl, rfl⟩

theorem enqueueMessage_enqueued (k c m) :
    (enqueueMessage c m).Post k fun r k' => r = .error .panic ∨ Enqueued k c m k' := by
  have hrefused : Enqueued k c m k := SameMail.enqueued (.refl k)
  rw [enqueueMessage, post_get_bind, post_okOr_bind]
  cases hqueue : k.channels[c]? with
  | none => exact .inr hrefused
  | some queue =>
    dsimp only
    rw [post_okOr_bind]
    by_cases hfull : queue.messages.length ≥ queue.capacity
    · rw [MessageQueue.push, if_pos hfull]
      exact .inr hrefused
    · rw [MessageQueue.push, if_neg hfull]
      cases k.faultInjector with
      | none => exact .inr (enqueued_of_push hqueue (.refl _))
      | some f =>
        simp only [post_bind, post_okOrPanic]
        cases hreorder : f.applyReordering (queue.messages ++ [m]) with
        | none => exact .inl trivial
        | some messages => exact .inr (enqueued_of_push hqueue (FaultInjector.applyReordering_perm hreorder))

theorem postMessage_enqueued (k c m) : (postMessage c m).Post k fun r k' => r = .error .panic ∨ Enqueued k c m k' := by
  refine (injectFaults_sameMail k c m).bind (fun _ _ h => .inr h.enqueued) fun passage k1 hmail => ?_
  cases passage with
  | dropped => exact .inr hmail.enqueued
  | delayed duration =>
    rw [post_get_bind, post_okOrPanic_bind]
    cases checkedAdd k1.currentTime duration with
    | none => exact .inl rfl
    | some deliverAt => exact .inr (enqueued_of_delay.of_sameMail hmail)
  | queued => exact (enqueueMessage_enqueued k1 c m).mono fun _ _ h => h.imp_right fun h => h.of_sameMail hmail

/-! ## Whom a send is charged to -/

def sender (k : SimulatedKernel) (m : MessageEnvelope) : Option ExecutionId :=
  m.source.bind fun t => k.taskToIdentity[t]?

/-- Only the account of the payer may differ, and it is charged for a message if `ok` holds. -/
structure ChargedTo (payer : Option ExecutionId) (k : SimulatedKernel) (ok : Prop) (k' : SimulatedKernel) : Prop where
  others : ∀ e, payer ≠ some e → k'.identityTable[e]? = k.identityTable[e]? ∧
    (e ∈ k'.cancelledIdentities → e ∈ k.cancelledIdentities)
  raised : ok → ∀ e, payer = some e → e ∉ k.cancelledIdentities ∧
    ∀ i, k.identityTable[e]? = some i → ∀ budget ∈ i.budget, ∃ i', k'.identityTable[e]? = some i' ∧
      i'.usage.messageCount = saturatingAdd i.usage.messageCount 1 ∧
      ∀ limit ∈ budget.messageCount, i'.usage.messageCount ≤ limit

theorem MessageCharged.chargedTo {orders m r} (h : MessageCharged orders k m.source r k') :
    ChargedTo (k.sender m) k (r = .ok ()) k' := by
  cases h with
  | free free => exact ⟨fun _ _ => ⟨rfl, id⟩, fun _ e he => nomatch free.symm.trans he⟩
  | @charged e c _ _ known meters amount consumed =>
    refine ⟨fun e' hne => consumed.others fun heq => hne (heq ▸ known), fun hr e' he' => ?_⟩
    subst hr
    cases known.symm.trans he'
    have hraised := consumed.raised meters
    rw [amount] at hraised
    exact hraised

theorem ChargedTo.mono {payer} {ok ok' : Prop} (h : ChargedTo payer k ok k') (hok : ok' → ok) :
    ChargedTo payer k ok' k' :=
  ⟨h.others, fun h' => h.raised (hok h')⟩

structure SentForSource (k : SimulatedKernel) (c : ChannelId) (m : MessageEnvelope) (ok : Prop)
    (k' : SimulatedKernel) : Prop where
  enqueued : Enqueued k c m k'
  allowed : ok → ∀ t ∈ m.source, k.maySend c t = true
  charged : ChargedTo (k.sender m) k ok k'

theorem sendMessage_forSource (orders k c m) :
    (sendMessage orders c m).Post k fun r k' => r = .error .panic ∨ SentForSource k c m (r = .ok ()) k' := by
  refine post_exchange (chargeSource_charged orders k m) (fun _ => .inr ?_) (fun f k1 h1 => .inr ?_)
    fun hcheck k1 h1 => ?_
  · exact ⟨SameMail.enqueued (.refl k), fun h => (nomatch h), ⟨fun _ _ => ⟨rfl, id⟩, fun h => nomatch h⟩⟩
  · exact ⟨h1.accounting.sameMail.1.enqueued, fun h => (nomatch h), h1.chargedTo.mono fun h => nomatch h⟩
  · have hallowed : ∀ t ∈ m.source, k.maySend c t = true := by
      intro t ht
      by_contra hdenied
      have hdenied : k.maySend c t = false := Bool.eq_false_iff.mpr hdenied
      rw [checkSend, mem_def.mp ht, filter_some, hdenied] at hcheck
      cases hcheck
    have hposted : (postMessage c m).Post k1 fun r k' => (r = .error .panic ∨ Enqueued k1 c m k') ∧ Mailing k1 k' :=
      ⟨postMessage_enqueued k1 c m, postMessage_mailing k1 c m⟩
    refine hposted.mono fun r k' h => ?_
    refine h.1.imp_right fun henqueued => ⟨henqueued.of_sameMail h1.accounting.sameMail.1, fun _ => hallowed, ?_⟩
    obtain ⟨_, _, _, rfl⟩ := h.2
    exact { h1.chargedTo.mono fun _ => rfl with }

end SimulatedKernel

namespace SyscallGate

open SimulatedKernel Session

variable {K ε : Type} {k k' : SimulatedKernel} {gate : SyscallGate} {draws : Draws} {caller : ExecutionId}
  {timestampNanos : Nat}

def logged (gate : SyscallGate) (debug : ε → String) (caller : ExecutionId) (name : String) (timestampNanos : Nat)
    (r : Except ε SyscallResult) : SyscallGate :=
  (gate.record (.invoked caller name timestampNanos)).record (match r with
    | .ok _ => .completed caller name timestampNanos
    | .error error => .rejected caller name (debug error) timestampNanos)

theorem audited_call (debug caller name) (timestampNanos : Nat) (m : Proc K ε SyscallResult) (gate : SyscallGate)
    (k) : (audited debug caller name timestampNanos m).call (gate, k) =
      (m.call k).map fun (r, k') => (r, gate.logged debug caller name timestampNanos r, k') := by
  rw [call, call]
  dsimp only [audited, exec, ExceptT.run_mk, StateT.run]
  rcases ExceptT.run m k with ⟨⟨_ | _⟩ | _, _⟩ <;> rfl

end SyscallGate

end PandaGen.Kernel
