import PandaGen.Kernel.Lemmas.Lifetime
import PandaGen.Kernel.Lemmas.Mail
import PandaGen.Lib.Lane

/-!
# The delivery of messages

A channel of the kernel is a lane, as long as no fault drops or reorders messages: a send posts, the passing of
time delivers, and a receive takes.
-/

namespace PandaGen.Kernel

open Lib List Std.ExtTreeMap Nat Option

variable {c' : ChannelId}

namespace SimulatedKernel

variable {d : DelayedMessage} {lane : Lane MessageEnvelope} {queue : MessageQueue}

variable {k k' : SimulatedKernel} {c : ChannelId} {m : MessageEnvelope} {orders : HashOrders}

/-! ## Lanes -/

def waitingFor (c : ChannelId) (delayed : List DelayedMessage) : List (MessageEnvelope × Nat) :=
  (delayed.filter fun d => d.channel = c).map fun d => (d.message, d.deliverAt)

theorem waitingFor_append (c l l') : waitingFor c (l ++ l') = waitingFor c l ++ waitingFor c l' := by
  rw [waitingFor, filter_append, map_append, waitingFor, waitingFor]

theorem waitingFor_cons_self (h : d.channel = c) (l) :
    waitingFor c (d :: l) = (d.message, d.deliverAt) :: waitingFor c l := by
  rw [waitingFor, filter_cons_of_pos (by simpa using h), map_cons, waitingFor]

theorem waitingFor_cons_of_ne (h : d.channel ≠ c) (l) : waitingFor c (d :: l) = waitingFor c l := by
  rw [waitingFor, filter_cons_of_neg (by simpa using h), waitingFor]

theorem waitingFor_eq_nil {l} (h : ∀ d ∈ l, d.channel ≠ c) : waitingFor c l = [] := by
  rw [waitingFor, map_eq_nil_iff, filter_eq_nil_iff]
  exact fun d hd => by simpa using h d hd

structure Carries (lane : Lane MessageEnvelope) (c : ChannelId) (channels : BTreeMap ChannelId MessageQueue)
    (delayed : List DelayedMessage) (queue : MessageQueue) : Prop where
  found : channels[c]? = some queue
  queued : lane.queued.map Prod.fst = queue.messages
  waiting : lane.waiting = waitingFor c delayed
  capacity : queue.messages.length ≤ queue.capacity

structure Moved (lane lane' : Lane MessageEnvelope) : Prop where
  now : lane'.now = lane.now
  posted : lane'.posted = lane.posted
  taken : lane'.taken = lane.taken

theorem Carries.deliver {channels remaining rest} (h : Carries lane c channels (remaining ++ d :: rest) queue) :
    ∃ lane' queue', Moved lane lane' ∧ Carries lane' c (deliver lane.now (channels, remaining) d).1
        ((deliver lane.now (channels, remaining) d).2 ++ rest) queue' := by
  have hkept : Carries lane c channels (remaining ++ [d] ++ rest) queue := by simpa using h
  rw [SimulatedKernel.deliver]
  split
  · exact ⟨lane, queue, ⟨rfl, rfl, rfl⟩, hkept⟩
  rename_i hdue
  by_cases hc : d.channel = c
  · -- The channel exists, so the message waits or is queued.
    rw [hc, h.found]
    dsimp only
    split
    · exact ⟨lane, queue, ⟨rfl, rfl, rfl⟩, hkept⟩
    · rename_i hroom
      have hlength : queue.messages.length < queue.capacity := by
        rw [MessageQueue.remainingCapacity] at hroom
        omega
      rw [MessageQueue.push, if_neg (not_le.mpr hlength)]
      have hwaiting : lane.waiting = waitingFor c remaining ++ (d.message, d.deliverAt) :: waitingFor c rest := by
        rw [h.waiting, waitingFor_append, waitingFor_cons_self hc]
      refine ⟨lane.deliver hwaiting (not_lt.mp hdue), { queue with messages := queue.messages ++ [d.message] },
        ⟨rfl, rfl, rfl⟩, ⟨?_, ?_, ?_, ?_⟩⟩
      · rw [BTreeMap.getElem?_insert, if_pos rfl]
      · rw [Lane.deliver, map_append, h.queued]
        rfl
      · exact (waitingFor_append c remaining rest).symm
      · rw [length_append]
        exact hlength
  · have hskipped : waitingFor c (remaining ++ d :: rest) = waitingFor c (remaining ++ rest) := by
      rw [waitingFor_append, waitingFor_cons_of_ne hc, waitingFor_append]
    have hcarries : ∀ channels' : BTreeMap ChannelId MessageQueue, channels'[c]? = channels[c]? →
        Carries lane c channels' (remaining ++ rest) queue := fun _ heq =>
      ⟨heq.trans h.found, h.queued, h.waiting.trans hskipped, h.capacity⟩
    split
    · split
      · exact ⟨lane, queue, ⟨rfl, rfl, rfl⟩, hkept⟩
      · split
        · refine ⟨lane, queue, ⟨rfl, rfl, rfl⟩, hcarries _ ?_⟩
          rw [BTreeMap.getElem?_insert, if_neg hc]
        · exact ⟨lane, queue, ⟨rfl, rfl, rfl⟩, hcarries _ rfl⟩
    · exact ⟨lane, queue, ⟨rfl, rfl, rfl⟩, hcarries _ rfl⟩

theorem Carries.foldl {rest remaining channels} (h : Carries lane c channels (remaining ++ rest) queue) :
    ∃ lane' queue', Moved lane lane' ∧
      Carries lane' c (rest.foldl (SimulatedKernel.deliver lane.now) (channels, remaining)).1
        (rest.foldl (SimulatedKernel.deliver lane.now) (channels, remaining)).2 queue' := by
  induction rest generalizing lane queue channels remaining with
  | nil => exact ⟨lane, queue, ⟨rfl, rfl, rfl⟩, by simpa using h⟩
  | cons d rest ih =>
    obtain ⟨lane1, queue1, hmoved, h1⟩ := h.deliver
    obtain ⟨lane2, queue2, hmoved', h2⟩ := ih h1
    rw [hmoved.now] at h2
    exact ⟨lane2, queue2, ⟨hmoved'.now.trans hmoved.now, hmoved'.posted.trans hmoved.posted,
      hmoved'.taken.trans hmoved.taken⟩, h2⟩

theorem delivery_missing {now} (h : k.channels[c]? = none) : (k.delivery now).1[c]? = none := by
  have hfold : ∀ (l : List DelayedMessage) (acc : BTreeMap ChannelId MessageQueue × List DelayedMessage),
      acc.1[c]? = none → (l.foldl (deliver now) acc).1[c]? = none := by
    intro l
    induction l with
    | nil => exact fun _ hacc => hacc
    | cons d l ih =>
      intro acc hacc
      refine ih _ ?_
      rw [deliver]
      split
      · exact hacc
      · split
        · rename_i queue hqueue
          have hne : d.channel ≠ c := by
            rintro rfl
            cases hacc.symm.trans hqueue
          split
          · exact hacc
          · split
            · rwa [BTreeMap.getElem?_insert, if_neg hne]
            · exact hacc
        · exact hacc
  exact hfold k.delayedMessages (k.channels, []) h

/-- What has become of the messages to a channel: `posted` are those that were sent while it existed, with the time
they are due, `sent` are all of them, and `received` those that were received. -/
structure Delivered (plan : Option FaultPlan) (c : ChannelId) (posted : List (MessageEnvelope × Nat))
    (sent received : List MessageEnvelope) (k : SimulatedKernel) : Prop where
  clock : k.Clock
  delaying : k.Delaying
  injector : k.faultInjector = none ↔ plan = none
  undelayed : plan = none → k.delayedMessages = []
  missing : k.channels[c]? = none → posted = [] ∧ received = [] ∧ (plan = none → sent = [])
  lane : ∀ queue, k.channels[c]? = some queue → ∃ lane, lane.now = k.currentTime ∧ lane.posted = posted ∧
    lane.taken.map Prod.fst = received ∧ Carries lane c k.channels k.delayedMessages queue ∧
    (plan = none → received ++ queue.messages = sent)

section

variable {plan : Option FaultPlan} {posted : List (MessageEnvelope × Nat)} {sent received : List MessageEnvelope}

section

variable (h : Delivered plan c posted sent received k)
include h

theorem Delivered.congr (hclock : k'.Clock) (hfaults : SameFaults k k')
    (htime : k'.currentTime = k.currentTime) (hchannel : k'.channels[c]? = k.channels[c]?)
    (hwaiting : waitingFor c k'.delayedMessages = waitingFor c k.delayedMessages)
    (hundelayed : k.faultInjector = none → k'.delayedMessages = k.delayedMessages) :
    Delivered plan c posted sent received k' where
  clock := hclock
  delaying := hfaults.delaying h.delaying
  injector := hfaults.none.trans h.injector
  undelayed hnone := (hundelayed (h.injector.mpr hnone)).trans (h.undelayed hnone)
  missing hmissing := h.missing (hchannel.symm.trans hmissing)
  lane queue hqueue := by
    rw [hchannel] at hqueue
    rw [htime]
    obtain ⟨lane, hnow, hposted, htaken, hcarries, hsent⟩ := h.lane queue hqueue
    exact ⟨lane, hnow, hposted, htaken,
      ⟨hchannel.trans hcarries.found, hcarries.queued, hcarries.waiting.trans hwaiting.symm, hcarries.capacity⟩, hsent⟩

theorem Delivered.of_sameMail (hclock : k'.Clock) (hfaults : SameFaults k k')
    (hmail : SameMail k k') : Delivered plan c posted sent received k' :=
  h.congr hclock hfaults hmail.currentTime (by rw [hmail.channels]) (by rw [hmail.delayedMessages])
    fun _ => hmail.delayedMessages

omit h in
theorem Carries.delivery (h : Carries lane c k.channels k.delayedMessages queue) {now} (hnow : lane.now ≤ now) :
    ∃ lane' queue', lane'.now = now ∧ lane'.posted = lane.posted ∧ lane'.taken = lane.taken ∧
      Carries lane' c (k.delivery now).1 (k.delivery now).2 queue' := by
  have hpassed : Carries (lane.pass now hnow) c k.channels ([] ++ k.delayedMessages) queue :=
    { h with }
  obtain ⟨lane', queue', hmoved, hcarries⟩ := hpassed.foldl
  exact ⟨lane', queue', hmoved.now, hmoved.posted, hmoved.taken, hcarries⟩

theorem Delivered.advance {duration}
    (hk : k.advanceTime orders duration = some k') : Delivered plan c posted sent received k' := by
  have helapsed := Elapsed.of_advanced h.clock (advanced_advanceTime hk)
  obtain ⟨now, _, _, _, rfl, -⟩ := advanceTime_parts hk
  have hnone : plan = none → k.delivery now = (k.channels, []) := fun hnone => by
    rw [delivery, h.undelayed hnone, foldl_nil]
  refine ⟨helapsed.clock, h.delaying, h.injector, fun hf => congrArg Prod.snd (hnone hf), fun hmissing => ?_,
    fun queue hqueue => ?_⟩
  · cases hc : k.channels[c]? with
    | none => exact h.missing hc
    | some queue =>
      obtain ⟨lane, hnow, -, -, hcarries, -⟩ := h.lane queue hc
      obtain ⟨_, _, -, -, -, hcarries'⟩ := hcarries.delivery (hnow.trans_le helapsed.currentTime)
      cases hmissing.symm.trans hcarries'.found
  · cases hc : k.channels[c]? with
    | none => cases (delivery_missing hc).symm.trans hqueue
    | some queue0 =>
      obtain ⟨lane, hnow, hposted, htaken, hcarries, hsent⟩ := h.lane queue0 hc
      obtain ⟨lane', queue', hnow', hposted', htaken', hcarries'⟩ :=
        hcarries.delivery (hnow.trans_le helapsed.currentTime)
      cases hqueue.symm.trans hcarries'.found
      refine ⟨lane', hnow', hposted'.trans hposted, by rw [htaken', htaken], hcarries', fun hf => ?_⟩
      have hsame : k.channels[c]? = some queue := by
        rw [← hqueue, hnone hf]
      cases hc.symm.trans hsame
      exact hsent hf

theorem Delivered.open (hnew : c' ∉ k.channels) (hwaiting : ∀ d ∈ k.delayedMessages, d.channel ≠ c') (n) :
    Delivered plan c posted sent received { k with channels := k.channels.insert c' (.withCapacity n) } := by
  refine ⟨h.clock, h.delaying, h.injector, h.undelayed, fun hmissing => ?_, fun queue hqueue => ?_⟩
  · rw [BTreeMap.getElem?_insert] at hmissing
    split at hmissing
    · cases hmissing
    · exact h.missing hmissing
  · dsimp only at hqueue ⊢
    by_cases hc : c' = c
    · subst hc
      obtain ⟨rfl, rfl, hsent⟩ := h.missing (getElem?_eq_none hnew)
      have hfound := hqueue
      rw [BTreeMap.getElem?_insert, if_pos rfl] at hqueue
      cases hqueue
      refine ⟨.empty k.currentTime, rfl, rfl, rfl, ⟨hfound, rfl, ?_, zero_le _⟩, fun hf => (hsent hf).symm⟩
      exact (waitingFor_eq_nil hwaiting).symm
    · have hsame := hqueue
      rw [BTreeMap.getElem?_insert, if_neg hc] at hsame
      obtain ⟨lane, hnow, hposted, htaken, hcarries, hsent⟩ := h.lane queue hsame
      exact ⟨lane, hnow, hposted, htaken, ⟨hqueue, hcarries.queued, hcarries.waiting, hcarries.capacity⟩, hsent⟩

def dueAt (k : SimulatedKernel) : Nat := k.currentTime + k.nextDelay.getD 0

theorem Delivered.post (hclock : k'.Clock) (hfaults : SameFaults k k') (hposted : Posted k c m k') :
    Delivered plan c (posted ++ if c ∈ k.channels then [(m, k.dueAt)] else []) (sent ++ [m]) received k' := by
  cases hposted with
  | @queued queue delay room time channels delayed =>
    have hmem : c ∈ k.channels := mem_iff_isSome_getElem?.mpr (by rw [room.1]; rfl)
    have hfound : k'.channels[c]? = some { queue with messages := queue.messages ++ [m] } := by
      rw [channels, pushed, BTreeMap.getElem?_insert, if_pos rfl]
    rw [if_pos hmem, dueAt, delay, getD_none, add_zero]
    refine ⟨hclock, hfaults.delaying h.delaying, hfaults.none.trans h.injector, fun hnone => ?_, fun hmissing => ?_,
      fun queue' hqueue' => ?_⟩
    · exact delayed.trans (h.undelayed hnone)
    · cases hmissing.symm.trans hfound
    · cases hfound.symm.trans hqueue'
      obtain ⟨lane, hnow, rfl, htaken, hcarries, hsent⟩ := h.lane queue room.1
      have hposted : (lane.post m).posted = lane.posted ++ [(m, k.currentTime)] := by
        rw [← hnow]
        rfl
      refine ⟨lane.post m, hnow.trans time.symm, hposted, htaken, ⟨hfound, ?_, ?_, ?_⟩, fun hnone => ?_⟩
      · rw [Lane.post, map_append, hcarries.queued]
        rfl
      · exact hcarries.waiting.trans (by rw [delayed])
      · rw [length_append]
        exact room.2
      · rw [← hsent hnone, append_assoc]
  | @delayed duration delay time channels delayed =>
    have hnone : plan ≠ none := by
      intro hnone
      rw [nextDelay, h.injector.mpr hnone] at delay
      cases delay
    refine ⟨hclock, hfaults.delaying h.delaying, hfaults.none.trans h.injector, fun h => absurd h hnone,
      fun hmissing => ?_, fun queue hqueue => ?_⟩
    · rw [channels] at hmissing
      rw [if_neg fun hmem => by simp [mem_iff_isSome_getElem?, hmissing] at hmem, append_nil]
      obtain ⟨hposted, hreceived, -⟩ := h.missing hmissing
      exact ⟨hposted, hreceived, fun h => absurd h hnone⟩
    · rw [channels] at hqueue
      have hmem : c ∈ k.channels := mem_iff_isSome_getElem?.mpr (by rw [hqueue]; rfl)
      rw [if_pos hmem, dueAt, delay, getD_some]
      obtain ⟨lane, hnow, rfl, htaken, hcarries, -⟩ := h.lane queue hqueue
      refine ⟨lane.delay m (k.currentTime + duration), hnow.trans time.symm, rfl, htaken, ⟨?_, hcarries.queued, ?_,
        hcarries.capacity⟩, fun h => absurd h hnone⟩
      · rw [channels, hqueue]
      · have hadded : waitingFor c [⟨c, m, k.currentTime + duration⟩] = [(m, k.currentTime + duration)] :=
          waitingFor_cons_self rfl []
        rw [delayed, waitingFor_append, hadded, ← hcarries.waiting]
        rfl

theorem Delivered.post_other (hc : c' ≠ c)
    (hclock : k'.Clock) (hfaults : SameFaults k k') (hposted : Posted k c' m k') :
    Delivered plan c posted sent received k' := by
  cases hposted with
  | queued _ _ time channels delayed =>
    refine h.congr hclock hfaults time ?_ (by rw [delayed]) fun _ => delayed
    rw [channels, pushed, BTreeMap.getElem?_insert, if_neg hc]
  | delayed delay time channels delayed =>
    refine h.congr hclock hfaults time (by rw [channels]) ?_ fun hnone => ?_
    · rw [delayed, waitingFor_append, waitingFor_cons_of_ne hc]
      exact append_nil _
    · rw [nextDelay, hnone] at delay
      cases delay

theorem Delivered.receive (hclock : k'.Clock)
    (hreceived : Received k c (.ok m) k') : Delivered plan c posted sent (received ++ [m]) k' := by
  obtain ⟨hfaults, time, delayed, queue, rest, hqueue, hmessages, channels⟩ := hreceived
  have hfound : k'.channels[c]? = some { queue with messages := rest } := by
    rw [channels, BTreeMap.getElem?_insert, if_pos rfl]
  refine ⟨hclock, hfaults.delaying h.delaying, hfaults.none.trans h.injector, fun hnone => ?_, fun hmissing => ?_,
    fun queue' hqueue' => ?_⟩
  · exact delayed.trans (h.undelayed hnone)
  · cases hmissing.symm.trans hfound
  · cases hfound.symm.trans hqueue'
    obtain ⟨lane, hnow, hposted, htaken, hcarries, hsent⟩ := h.lane queue hqueue
    obtain ⟨x, queued, hqueued, hx, hrest⟩ := map_eq_cons_iff.mp (hcarries.queued.trans hmessages)
    refine ⟨lane.take hqueued, hnow.trans time.symm, hposted, ?_, ⟨hfound, hrest, ?_, ?_⟩, fun hnone => ?_⟩
    · rw [Lane.take, map_append, htaken, map_singleton, hx]
    · exact hcarries.waiting.trans (by rw [delayed])
    · have hcapacity := hcarries.capacity
      rw [hmessages, length_cons] at hcapacity
      exact le_of_succ_le hcapacity
    · rw [← hsent hnone, hmessages, append_assoc, singleton_append]

end

theorem loopRule_delivered : LoopRule fun k k' => Delivered plan c posted sent received k →
    Delivered plan c posted sent received k' where
  refl _ h := h
  trans h h' hk := h' (h hk)
  schedule _ _ _ h := h.of_sameMail h.clock (.of_eq rfl) ⟨rfl, rfl, rfl⟩
  advance hadvance h := h.advance hadvance
  charge hcharge h := by
    obtain ⟨_, _, _, _, _, rfl⟩ := (chargeCpu_accounting hcharge).1
    exact h.of_sameMail h.clock (.of_eq rfl) ⟨rfl, rfl, rfl⟩

end

end SimulatedKernel

namespace Session

open SimulatedKernel

def sentTo (c : ChannelId) : Call × Answer → Option MessageEnvelope
  | (.sendMessage _ c' m, .result (.ok ())) => if c' = c then some m else none
  | _ => none

def receivedFrom (c : ChannelId) : Call × Answer → Option MessageEnvelope
  | (.receiveMessage _ c', .message (.ok m)) => if c' = c then some m else none
  | _ => none

def postedTo (c : ChannelId) (k : SimulatedKernel) (event : Call × Answer) : List (MessageEnvelope × Nat) :=
  (sentTo c event).toList.flatMap fun m => if c ∈ k.channels then [(m, k.dueAt)] else []

def postings (c : ChannelId) (w : Session) (tr : Trace) : List (MessageEnvelope × Nat) :=
  machine.observe (fun w call a => postedTo c w.kernel (call, a)) w tr

/-- The identifier of a new channel is new: no channel has it, and no message waits for one. -/
def FreshChannel (k : SimulatedKernel) : Call → Prop
  | .createChannel c => c ∉ k.channels ∧ ∀ d ∈ k.delayedMessages, d.channel ≠ c
  | _ => True

instance (k : SimulatedKernel) (call : Call) : Decidable (FreshChannel k call) := by
  unfold FreshChannel
  split <;> infer_instance

variable {k k' : SimulatedKernel} {w w' : Session} {call : Call} {a : Answer} {c : ChannelId}
  {plan : Option FaultPlan} {posted : List (MessageEnvelope × Nat)} {sent received : List MessageEnvelope}

def DeliveredAfter (plan : Option FaultPlan) (c : ChannelId) (posted : List (MessageEnvelope × Nat))
    (sent received : List MessageEnvelope) (k : SimulatedKernel) (event : Call × Answer)
    (k' : SimulatedKernel) : Prop :=
  Delivered plan c (posted ++ postedTo c k event) (sent ++ (sentTo c event).toList)
    (received ++ (receivedFrom c event).toList) k'

theorem deliveredAfter_of_silent (h : Delivered plan c posted sent received k') (hsent : sentTo c (call, a) = none)
    (hreceived : receivedFrom c (call, a) = none) : DeliveredAfter plan c posted sent received k (call, a) k' := by
  rw [DeliveredAfter, postedTo, hsent, hreceived]
  simpa using h

def Call.isMail : Call → Bool
  | .sendMessage _ _ _ => true
  | .receiveMessage _ _ => true
  | _ => false

theorem deliveredAfter_of_other (hcall : call.isMail = false) (h : Delivered plan c posted sent received k') :
    DeliveredAfter plan c posted sent received k (call, a) k' := by
  refine deliveredAfter_of_silent h ?_ ?_
  · cases call with
    | sendMessage => cases hcall
    | _ => rfl
  · cases call with
    | receiveMessage => cases hcall
    | _ => rfl

theorem deliveredAfter_send {orders m r} (hk : Delivered plan c posted sent received k) (hclock : k'.Clock)
    (h : Sent k c' m (r.mapError Fault.err) k') :
    DeliveredAfter plan c posted sent received k (.sendMessage orders c' m, .result r) k' := by
  obtain ⟨hfaults, h⟩ := h
  cases r with
  | error => exact deliveredAfter_of_silent (hk.of_sameMail hclock hfaults h) rfl rfl
  | ok =>
    by_cases hc : c' = c
    · subst hc
      have hsent : sentTo c' (.sendMessage orders c' m, .result (.ok ())) = some m := if_pos rfl
      rw [DeliveredAfter, postedTo, hsent]
      simpa [receivedFrom] using hk.post hclock hfaults h
    · exact deliveredAfter_of_silent (hk.post_other hc hclock hfaults h) (if_neg hc) rfl

theorem deliveredAfter_receive {orders r} (hk : Delivered plan c posted sent received k) (hclock : k'.Clock)
    (h : Received k c' (r.mapError Fault.err) k') :
    DeliveredAfter plan c posted sent received k (.receiveMessage orders c', .message r) k' := by
  cases r with
  | error => exact deliveredAfter_of_silent (hk.of_sameMail hclock h.1 h.2) rfl rfl
  | ok m =>
    by_cases hc : c' = c
    · subst hc
      have hreceived : receivedFrom c' (.receiveMessage orders c', .message (.ok m)) = some m := if_pos rfl
      rw [DeliveredAfter, hreceived]
      simpa [postedTo, sentTo] using hk.receive hclock h
    · obtain ⟨hfaults, time, delayed, queue, rest, -, -, channels⟩ := h
      refine deliveredAfter_of_silent (hk.congr hclock hfaults time ?_ (by rw [delayed]) fun _ => delayed) rfl
        (if_neg hc)
      rw [channels, BTreeMap.getElem?_insert, if_neg hc]

theorem Outcome.delivered (h : Outcome k call a k') (hfresh : FreshChannel k call) (hclock : k'.Clock)
    (hk : Delivered plan c posted sent received k) : DeliveredAfter plan c posted sent received k (call, a) k' := by
  have hsame : SameMail k k' → k'.faultInjector = k.faultInjector → Delivered plan c posted sent received k' :=
    fun hmail hf => hk.of_sameMail hclock (.of_eq hf) hmail
  cases h with
  | bookkept kind kept =>
    exact deliveredAfter_of_other (by cases call <;> first | rfl | cases kind)
      (hsame ⟨kept.currentTime, kept.channels, kept.delayedMessages⟩ kept.faultInjector)
  | refused spawn => exact deliveredAfter_of_other (by cases call <;> first | rfl | cases spawn) hk
  | spawned drawn _ admitted =>
    obtain ⟨_, _, _, -, -, rfl⟩ := admitTask_parts admitted
    exact deliveredAfter_of_other (by cases call <;> first | rfl | cases drawn) (hsame ⟨rfl, rfl, rfl⟩ rfl)
  | created | updated | space | accessed | activated => exact deliveredAfter_of_other rfl (hsame ⟨rfl, rfl, rfl⟩ rfl)
  | @terminated orders t reason =>
    obtain ⟨_, _, _, heq, -⟩ := terminateTaskWithReason_parts k orders t reason
    exact deliveredAfter_of_other rfl (hsame (by rw [heq]; exact ⟨rfl, rfl, rfl⟩) (by rw [heq]))
  | timed kind loop =>
    exact deliveredAfter_of_other (by cases call <;> first | rfl | cases kind) (loop loopRule_delivered hk)
  | charged kind _ consumed =>
    obtain ⟨hmail, hfaults⟩ := consumed.accounting.sameMail
    exact deliveredAfter_of_other (by cases call <;> first | rfl | cases kind) (hsame hmail hfaults)
  | opened => exact deliveredAfter_of_other rfl (hk.open hfresh.1 hfresh.2 _)
  | @sent orders c' m _ _ call =>
    exact deliveredAfter_send hk hclock ((sendMessage_delaying hk.delaying orders c' m).of_call call)
  | @received orders c' _ _ call =>
    exact deliveredAfter_receive hk hclock ((receiveMessage_received orders k c').of_call call)
  | allocated kind allocated =>
    obtain ⟨k1, _, haccounting, rfl⟩ := allocated.parts
    obtain ⟨hmail, hfaults⟩ := haccounting.sameMail
    exact deliveredAfter_of_other (by cases call <;> first | rfl | cases kind)
      (hsame { hmail with } hfaults)

theorem delivered_start (setup) (hplan : ∀ plan ∈ setup.faultPlan, plan.OnlyDelays) (c) :
    Delivered setup.faultPlan c [] [] [] (start setup).kernel := by
  have hclock := (sound_start setup).clock
  rw [start, setup.boot_eq] at hclock ⊢
  refine ⟨hclock, fun f hf => ?_, map_eq_none_iff, fun _ => rfl, fun _ => ⟨rfl, rfl, fun _ => rfl⟩,
    fun queue hqueue => ?_⟩
  · obtain ⟨plan, hmem, rfl⟩ := map_eq_some_iff.mp hf
    exact FaultInjector.onlyDelays_new (hplan plan hmem)
  · simp [withTickResolution] at hqueue

theorem delivered_of_run {setup tr} (hplan : ∀ plan ∈ setup.faultPlan, plan.OnlyDelays)
    (hrun : machine.Run (fun w call _ => FreshChannel w.kernel call) (start setup) tr w) (c) :
    Delivered setup.faultPlan c (postings c (start setup) tr) (tr.filterMap (sentTo c)) (tr.filterMap (receivedFrom c))
      w.kernel := by
  refine (hrun.invariantReached (P := fun tr (w : Session) => w.Sound ∧ Delivered setup.faultPlan c
    (postings c (start setup) tr) (tr.filterMap (sentTo c)) (tr.filterMap (receivedFrom c)) w.kernel) ?_
      ⟨sound_start setup, delivered_start setup hplan c⟩).2
  rintro tr w call a w' hreached ⟨hsound, hdelivered⟩ hs hfresh
  have hsound' := (hsound.step hs).1
  refine ⟨hsound', ?_⟩
  have hafter := (step_outcome hs).delivered hfresh hsound'.clock hdelivered
  have hpostings : postings c (start setup) (tr ++ [(call, a)]) =
      postings c (start setup) tr ++ postedTo c w.kernel (call, a) := by
    rw [postings, hreached.observe_append, Machine.observe, hs, postings]
    simp [Machine.observe]
  have hlast : ∀ f : Call × Answer → Option MessageEnvelope, [(call, a)].filterMap f = (f (call, a)).toList := by
    intro f
    cases hf : f (call, a) <;> simp [hf]
  rw [hpostings, filterMap_append, filterMap_append, hlast, hlast]
  exact hafter

end Session

end PandaGen.Kernel
