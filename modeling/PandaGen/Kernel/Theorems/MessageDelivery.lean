import PandaGen.Kernel.Lemmas.Delivery

/-!
# Message delivery
-/

namespace PandaGen.Kernel.Session

open Lib SimulatedKernel

variable {setup : Setup} {tr : Trace} {w : Session}

/-- In any run in which faults do no more than delay messages, every message that was sent to a channel is received,
queued or delayed, in no two of these places, and is not queued before it is due. Without faults, those received and
those queued are the ones sent, in their order. No queue exceeds its capacity. -/
theorem messages_conserved (hplan : ∀ plan ∈ setup.faultPlan, plan.OnlyDelays)
    (hrun : machine.Run (fun w call _ => FreshChannel w.kernel call) (start setup) tr w) (c : ChannelId) :
    (setup.faultPlan = none → w.kernel.delayedMessages = [] ∧ tr.filterMap (receivedFrom c) ++
      (w.kernel.channels[c]?.elim [] MessageQueue.messages) = tr.filterMap (sentTo c)) ∧
      (∃ received queued : List (MessageEnvelope × Nat), received.map Prod.fst = tr.filterMap (receivedFrom c) ∧
        queued.map Prod.fst = w.kernel.channels[c]?.elim [] MessageQueue.messages ∧
        (∀ x ∈ received ++ queued, x.2 ≤ w.kernel.currentTime) ∧
        (received ++ queued ++ if c ∈ w.kernel.channels then waitingFor c w.kernel.delayedMessages else []).Perm
          (postings c (start setup) tr)) ∧
      ∀ queue, w.kernel.channels[c]? = some queue → queue.messages.length ≤ queue.capacity := by
  have hdelivered := delivered_of_run hplan hrun c
  cases hqueue : w.kernel.channels[c]? with
  | none =>
    obtain ⟨hposted, hreceived, hsent⟩ := hdelivered.missing hqueue
    have hmissing : c ∉ w.kernel.channels := by simp [Std.ExtTreeMap.mem_iff_isSome_getElem?, hqueue]
    refine ⟨fun hnone => ⟨hdelivered.undelayed hnone, ?_⟩, ⟨[], [], hreceived.symm, rfl, (fun _ h => nomatch h), ?_⟩,
      fun _ h => nomatch h⟩
    · rw [hreceived, hsent hnone]
      rfl
    · rw [if_neg hmissing, hposted]
      exact .nil
  | some queue =>
    have hmem : c ∈ w.kernel.channels := by simp [Std.ExtTreeMap.mem_iff_isSome_getElem?, hqueue]
    obtain ⟨lane, hnow, hposted, htaken, hcarries, hsent⟩ := hdelivered.lane queue hqueue
    refine ⟨fun hnone => ⟨hdelivered.undelayed hnone, hsent hnone⟩,
      ⟨lane.taken, lane.queued, htaken, hcarries.queued, hnow ▸ lane.due, ?_⟩, fun queue' hqueue' => ?_⟩
    · rw [if_pos hmem, ← hcarries.waiting, ← hposted]
      exact lane.conserved
    · cases hqueue'
      exact hcarries.capacity

def note (n : Nat) : MessageEnvelope := ⟨⟨n⟩, ⟨8⟩, none, "note", ⟨1, 0⟩, none, []⟩

def delayedSetup : Setup := { Setup.default with faultPlan := some ⟨[.delay 5000], []⟩ }

/-- Two messages are sent and one is received: the first of them, or the second one if the first is delayed. A
delayed message is queued once it is due. -/
theorem messages_conserved_two : (∃ (tr : Trace) (w : Session),
    machine.Run (fun w call _ => FreshChannel w.kernel call) (start .default) tr w ∧
      tr.filterMap (sentTo ⟨7⟩) = [note 1, note 2] ∧ tr.filterMap (receivedFrom ⟨7⟩) = [note 1] ∧
      w.kernel.channels[(⟨7⟩ : ChannelId)]?.elim [] MessageQueue.messages = [note 2]) ∧
    ∃ (tr : Trace) (w : Session),
      machine.Run (fun w call _ => FreshChannel w.kernel call) (start delayedSetup) tr w ∧
        tr.filterMap (receivedFrom ⟨7⟩) = [note 2] ∧
        postings ⟨7⟩ (start delayedSetup) tr = [(note 1, 5000), (note 2, 0)] ∧
        ∃ queued : List (MessageEnvelope × Nat), queued.map Prod.fst = [note 1] ∧
          ∀ x ∈ queued, x.2 ≤ w.kernel.currentTime := by
  obtain ⟨tr, w, hrun, hsent, hreceived⟩ : ∃ tr w,
      machine.Run (fun w call _ => FreshChannel w.kernel call) (start .default) tr w ∧
      tr.filterMap (sentTo ⟨7⟩) = [note 1, note 2] ∧ tr.filterMap (receivedFrom ⟨7⟩) = [note 1] :=
    Machine.exists_run [.createChannel ⟨7⟩, .sendMessage .listed ⟨7⟩ (note 1), .sendMessage .listed ⟨7⟩ (note 2),
      .receiveMessage .listed ⟨7⟩] (by decide +kernel)
  obtain ⟨tr', w', hrun', hreceived', hpostings, hqueue⟩ : ∃ tr w,
      machine.Run (fun w call _ => FreshChannel w.kernel call) (start delayedSetup) tr w ∧
      tr.filterMap (receivedFrom ⟨7⟩) = [note 2] ∧
      postings ⟨7⟩ (start delayedSetup) tr = [(note 1, 5000), (note 2, 0)] ∧
      w.kernel.channels[(⟨7⟩ : ChannelId)]?.elim [] MessageQueue.messages = [note 1] :=
    Machine.exists_run [.createChannel ⟨7⟩, .sendMessage .listed ⟨7⟩ (note 1), .sendMessage .listed ⟨7⟩ (note 2),
      .receiveMessage .listed ⟨7⟩, .advanceTime .listed 5000] (by decide +kernel)
  refine ⟨⟨tr, w, hrun, hsent, hreceived, ?_⟩, tr', w', hrun', hreceived', hpostings, ?_⟩
  · have hqueued := ((messages_conserved (by rintro _ ⟨⟩) hrun ⟨7⟩).1 rfl).2
    rw [hsent, hreceived] at hqueued
    exact (List.cons.inj hqueued).2
  · have hplan : ∀ plan ∈ delayedSetup.faultPlan, plan.OnlyDelays := by
      intro plan hplan
      cases hplan
      exact ⟨by decide, rfl⟩
    obtain ⟨received, queued, -, hqueued, hdue, -⟩ := (messages_conserved hplan hrun' ⟨7⟩).2.1
    exact ⟨queued, hqueued.trans hqueue, fun x hx => hdue x (List.mem_append_right _ hx)⟩

end PandaGen.Kernel.Session
