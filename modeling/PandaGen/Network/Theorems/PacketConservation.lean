import PandaGen.Network.Service

/-!
# Conservation of packets
-/

namespace PandaGen.Network.NetworkService

open Lib Kernel Proc List

variable {B : Type} {budget : PacketBudget B} {s s' : NetworkService × B} {i j : NetworkInterfaceId}

abbrev Event := Call × Except NetworkError (Option Packet)

def sentBy (i : NetworkInterfaceId) : Event → Option Packet
  | (.send _ interfaceId packet, .ok _) => if interfaceId = i then some packet else none
  | _ => none

def returnedBy (i : NetworkInterfaceId) : Event → Option Packet
  | (.receive _ interfaceId, .ok packet) => if interfaceId = i then packet else none
  | _ => none

def refusedBy (i : NetworkInterfaceId) : Event → Bool
  | (.receive _ interfaceId, .error _) => interfaceId = i
  | _ => false

def sent (i : NetworkInterfaceId) (tr : List Event) : List Packet := tr.filterMap (sentBy i)

def returned (i : NetworkInterfaceId) (tr : List Event) : List Packet := tr.filterMap (returnedBy i)

theorem queue_setQueue (self : NetworkService) (q) :
    (self.setQueue i q).queue j = if i = j then q else self.queue j := by
  rw [queue, setQueue, BTreeMap.getElem?_insert]
  split <;> rfl

/-! ## One call -/

theorem consult_post (context) : (consult context : Method B Unit).Post s fun _ s' => s'.1 = s.1 := by
  rw [consult, post_get_bind]
  split <;> simp

theorem consume_post (executionId operation) :
    (consume budget executionId operation).Post s fun _ s' => s'.1 = s.1 := by
  have hzoom : ((budget.consumePacket executionId operation).zoom Prod.snd fun b s => (s.1, b)).Relates
      fun s s' : NetworkService × B => s'.1 = s.1 := relates_zoom fun _ _ => rfl
  exact hzoom.mapErr _ s

theorem sendPacket_post (executionId packet) : (sendPacket budget executionId i packet).Post s fun r s' => match r with
      | .ok _ => s'.1 = s.1.setQueue i (s.1.queue i ++ [packet])
      | .error _ => s'.1 = s.1 := by
  refine (consult_post _).bind (fun _ _ h => h) fun _ s1 h1 => ?_
  refine (consume_post _ _).bind (fun _ _ h => h.trans h1) fun _ s2 h2 => ?_
  rw [post_modify, ← h1, ← h2]

theorem receivePacket_post (executionId) : (receivePacket budget executionId i).Post s fun r s' => match r with
      | .ok none => s.1.queue i = [] ∧ s'.1 = s.1
      | .ok (some packet) => ∃ rest, s.1.queue i = packet :: rest ∧ s'.1 = s.1.setQueue i rest
      | .error _ => ∃ packet rest, s.1.queue i = packet :: rest ∧ s'.1 = s.1.setQueue i rest := by
  rw [receivePacket, post_get_bind]
  split
  · rename_i hempty
    exact ⟨hempty, rfl⟩
  · rename_i packet rest hqueue
    rw [post_bind, post_modify]
    refine (consult_post _).bind (fun _ _ h => ⟨packet, rest, hqueue, h⟩) fun _ s1 h1 => ?_
    refine (consume_post _ _).bind (fun _ _ h => ⟨packet, rest, hqueue, h.trans h1⟩) fun _ s2 h2 => ?_
    exact ⟨rest, hqueue, h2.trans h1⟩

/-- What an event does to the queue of an interface: a packet that is sent comes to its end, and one that is returned,
or lost by a refused receive, leaves it at the front. -/
theorem step_queue {call answer} (h : (machine budget).step s call = some (answer, s')) (i) :
    (refusedBy i (call, answer) = false ∧
      s.1.queue i ++ (sentBy i (call, answer)).toList = (returnedBy i (call, answer)).toList ++ s'.1.queue i) ∨
    (refusedBy i (call, answer) = true ∧ sentBy i (call, answer) = none ∧ returnedBy i (call, answer) = none ∧
      ∃ packet, s.1.queue i = packet :: s'.1.queue i) := by
  cases call with
  | send executionId interfaceId packet =>
    have hpost : (perform budget (.send executionId interfaceId packet)).Post s fun r s' => match r with
        | .ok _ => s'.1 = s.1.setQueue interfaceId (s.1.queue interfaceId ++ [packet])
        | .error _ => s'.1 = s.1 := (sendPacket_post _ _).bind (fun _ _ h => h) fun _ _ h => h
    have hdone := hpost.of_call h
    cases answer with
    | error e => simp [refusedBy, sentBy, returnedBy, show s'.1 = s.1 from hdone]
    | ok =>
      simp only [refusedBy, sentBy, returnedBy, show s'.1 = _ from hdone, queue_setQueue]
      split <;> simp_all
  | receive executionId interfaceId =>
    have hdone := (receivePacket_post executionId).of_call h
    by_cases hi : interfaceId = i
    · subst hi
      rcases answer with e | _ | packet
      · obtain ⟨packet, rest, hqueue, heq⟩ := hdone
        exact .inr ⟨by simp [refusedBy], rfl, rfl, packet, by rw [hqueue, heq, queue_setQueue, if_pos rfl]⟩
      · obtain ⟨-, heq⟩ := hdone
        exact .inl ⟨rfl, by simp [sentBy, returnedBy, heq]⟩
      · obtain ⟨rest, hqueue, heq⟩ := hdone
        exact .inl ⟨rfl, by simp [sentBy, returnedBy, hqueue, heq, queue_setQueue]⟩
    · have hsame : s'.1.queue i = s.1.queue i := by
        rcases answer with e | _ | packet
        · obtain ⟨packet, rest, -, heq⟩ := hdone
          rw [heq, queue_setQueue, if_neg hi]
        · rw [hdone.2]
        · obtain ⟨rest, -, heq⟩ := hdone
          rw [heq, queue_setQueue, if_neg hi]
      cases answer <;> simp [refusedBy, sentBy, returnedBy, hi, hsame]

/-! ## Runs -/

structure Accounted (i : NetworkInterfaceId) (tr : List Event) (q : List Packet) : Prop where
  count : (sent i tr).length = (returned i tr).length + tr.countP (refusedBy i) + q.length
  order : tr.countP (refusedBy i) = 0 → sent i tr = returned i tr ++ q

theorem filterMap_concat {f : Event → Option Packet} (tr ev) :
    (tr ++ [ev]).filterMap f = tr.filterMap f ++ (f ev).toList := by
  cases h : f ev <;> simp [h]

theorem Accounted.step {tr call answer} (ha : Accounted i tr (s.1.queue i))
    (h : (machine budget).step s call = some (answer, s')) : Accounted i (tr ++ [(call, answer)]) (s'.1.queue i) := by
  obtain ⟨hcount, horder⟩ := ha
  rw [sent, returned] at hcount horder
  constructor
  · rw [sent, returned, filterMap_concat, filterMap_concat, countP_append, countP_singleton]
    obtain ⟨hkept, hqueue⟩ | ⟨hlost, hsent, hreturned, packet, hqueue⟩ := step_queue h i
    · have hlength := congrArg length hqueue
      simp only [length_append] at hlength ⊢
      simp only [hkept, Bool.false_eq_true, if_false]
      omega
    · simp [hqueue, hlost, hsent, hreturned] at hcount ⊢
      omega
  · rw [sent, returned, filterMap_concat, filterMap_concat, countP_append, countP_singleton]
    intro hnone
    obtain ⟨-, hqueue⟩ | ⟨hlost, -⟩ := step_queue h i
    · rw [horder (by omega), append_assoc, hqueue, append_assoc]
    · simp [hlost] at hnone

/-- The packets sent on an interface are those returned and then those in its queue, exactly if no receive on it was
refused. A refused call leaves all queues as they are, exactly if it is a send. -/
theorem packets_kept_iff {policy : NetworkPolicy} {b : B} {tr : List Event} {s : NetworkService × B}
    (hrun : (machine budget).FreeRun (new policy, b) tr s) :
    (∀ i, sent i tr = returned i tr ++ s.1.queue i ↔ ∀ ev ∈ tr, refusedBy i ev = false) ∧
    ∀ call e s', (machine budget).step s call = some (.error e, s') →
      ((∀ i, s'.1.queue i = s.1.queue i) ↔ ∃ executionId i packet, call = .send executionId i packet) := by
  refine ⟨fun i => ?_, fun call e s' h => ?_⟩
  · have ha := hrun.invariantReached (P := fun tr s => Accounted i tr (s.1.queue i))
      (fun _ _ _ _ _ _ ha h _ => ha.step h)
      ⟨by simp [sent, returned, queue, new], fun _ => by simp [sent, returned, queue, new]⟩
    have hnone : (∀ ev ∈ tr, refusedBy i ev = false) ↔ tr.countP (refusedBy i) = 0 := by simp [countP_eq_zero]
    rw [hnone]
    refine ⟨fun heq => ?_, ha.order⟩
    have hcount := ha.count
    rw [heq, length_append] at hcount
    omega
  · cases call with
    | send executionId i packet =>
      refine ⟨fun _ => ⟨executionId, i, packet, rfl⟩, fun _ i => ?_⟩
      obtain ⟨-, hqueue⟩ | ⟨hlost, -⟩ := step_queue h i
      · simpa [sentBy, returnedBy] using hqueue.symm
      · cases hlost
    | receive executionId i =>
      refine ⟨fun hsame => ?_, by rintro ⟨_, _, _, heq⟩; cases heq⟩
      obtain ⟨hkept, -⟩ | ⟨-, -, -, packet, hqueue⟩ := step_queue h i
      · simp [refusedBy] at hkept
      · rw [hsame i] at hqueue
        exact absurd hqueue (by simp)

def unlimited : PacketBudget Unit := ⟨fun _ _ => pure ()⟩

def greeting : Packet := ⟨⟨"a", 1⟩, ⟨"b", 2⟩, .udp, [7]⟩

theorem packets_kept_iff_received : ∃ tr s, (machine unlimited).FreeRun (new fun _ => .allow, ()) tr s ∧
    sent ⟨1⟩ tr = [greeting] ∧ returned ⟨1⟩ tr ++ s.1.queue ⟨1⟩ = [greeting] := by
  obtain ⟨tr, s, hrun, hsent, hkept⟩ : ∃ tr s,
      (machine unlimited).FreeRun (new fun _ => .allow, ()) tr s ∧
      sent ⟨1⟩ tr = [greeting] ∧ ∀ ev ∈ tr, refusedBy ⟨1⟩ ev = false :=
    Machine.exists_run [.send ⟨2⟩ ⟨1⟩ greeting, .receive ⟨2⟩ ⟨1⟩] (by decide +kernel)
  exact ⟨tr, s, hrun, hsent, (((packets_kept_iff hrun).1 ⟨1⟩).mpr hkept).symm.trans hsent⟩

def sendOnly : NetworkPolicy := fun context =>
  match context.direction with
  | .send => .allow
  | .receive => .deny "no"

theorem refused_packet_lost : ∃ tr s, (machine unlimited).FreeRun (new sendOnly, ()) tr s ∧
    tr.getLast? = some (.receive ⟨2⟩ ⟨1⟩, .error (.policyDenied "no")) ∧
    sent ⟨1⟩ tr = [greeting] ∧ returned ⟨1⟩ tr = [] ∧ s.1.queue ⟨1⟩ = [] :=
  Machine.exists_run [.send ⟨2⟩ ⟨1⟩ greeting, .receive ⟨2⟩ ⟨1⟩] (by decide +kernel)

end PandaGen.Network.NetworkService
