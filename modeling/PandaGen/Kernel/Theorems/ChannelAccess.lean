import PandaGen.Kernel.Lemmas.Capability

/-!
# Revoked access to a channel
-/

namespace PandaGen.Kernel

open Lib Proc Option BTreeMap ChannelAccess Finset

variable {c : ChannelId} {t : TaskId} {k' : SimulatedKernel}

namespace SimulatedKernel

variable {k : SimulatedKernel}

theorem runRule_channelAccess : RunRule fun k k' => k'.channelAccess = k.channelAccess where
  refl _ := rfl
  trans h h' := h'.trans h
  schedule _ _ _ := rfl
  advance h := (advanced_advanceTime h).channelAccess
  used h := h.spared.channelAccess

def keepsList (k : SimulatedKernel) (c : ChannelId) (t : TaskId) : Bool :=
  k.channelAccess[c]?.all fun access => !(access.remove t).isEmpty

def Refuses (k : SimulatedKernel) (c : ChannelId) (t : TaskId) : Prop :=
  k.maySend c t = false ∧ k.mayReceive c t = false

theorem refuses_iff :
    k.Refuses c t ↔ ∃ access, k.channelAccess[c]? = some access ∧ t ∉ access.senders ∧ t ∉ access.receivers := by
  rw [Refuses, maySend, mayReceive]
  cases k.channelAccess[c]? with
  | none => simp
  | some access => simp [allowsSend, allowsReceive]

theorem Refuses.congr (h : k'.channelAccess = k.channelAccess) : k'.Refuses c t ↔ k.Refuses c t := by
  rw [refuses_iff, refuses_iff, h]

theorem revokeChannelAccess_entry (k : SimulatedKernel) (c t a) : (k.revokeChannelAccess c t).channelAccess[a]? =
      if c = a then (k.channelAccess[a]?.map (·.remove t)).filter (fun access => !access.isEmpty)
      else k.channelAccess[a]? := by
  rw [revokeChannelAccess]
  cases hc : k.channelAccess[c]? with
  | none =>
    dsimp only
    split
    · rename_i ha
      rw [← ha, hc]
      rfl
    · rfl
  | some access =>
    dsimp only
    by_cases hempty : (access.remove t).isEmpty = true
    · rw [if_pos hempty, getElem?_erase]
      by_cases ha : c = a
      · subst ha
        simp [hc, hempty, filter_some]
      · simp [ha]
    · rw [if_neg hempty, getElem?_insert]
      by_cases ha : c = a
      · subst ha
        simp [hc, hempty, filter_some]
      · simp [ha]

theorem refuses_revokeChannelAccess (hlist : c ∈ k.channelAccess) :
    (k.revokeChannelAccess c t).Refuses c t ↔ k.keepsList c t = true := by
  obtain ⟨access, haccess⟩ := isSome_iff_exists.mp (Std.ExtTreeMap.mem_iff_isSome_getElem?.mp hlist)
  rw [refuses_iff, revokeChannelAccess_entry, if_pos rfl, keepsList, haccess]
  by_cases hempty : (access.remove t).isEmpty = true
  · simp [hempty, filter_some]
  · simp [filter_some, remove]

theorem Refuses.revokeChannelAccess (h : k.Refuses c t) {a u} (hkeeps : a = c → k.keepsList a u = true) :
    (k.revokeChannelAccess a u).Refuses c t := by
  obtain ⟨access, haccess, hsend, hreceive⟩ := refuses_iff.mp h
  rw [refuses_iff, revokeChannelAccess_entry]
  by_cases ha : a = c
  · subst ha
    have hkeeps := hkeeps rfl
    rw [keepsList, haccess, all_some] at hkeeps
    rw [if_pos rfl, haccess, map_some, filter_some, if_pos hkeeps]
    exact ⟨_, rfl, fun hmem => hsend (mem_of_mem_erase hmem), fun hmem => hreceive (mem_of_mem_erase hmem)⟩
  · rw [if_neg ha]
    exact ⟨access, haccess, hsend, hreceive⟩

theorem Refuses.grantChannelAccess (h : k.Refuses c t) {a u} (mode) (hother : ¬ (a = c ∧ u = t)) :
    (k.grantChannelAccess a u mode).Refuses c t := by
  obtain ⟨access, haccess, hsend, hreceive⟩ := refuses_iff.mp h
  rw [refuses_iff, SimulatedKernel.grantChannelAccess, getElem?_insert]
  by_cases ha : a = c
  · subst ha
    have hu : t ≠ u := fun hu => hother ⟨rfl, hu.symm⟩
    rw [if_pos rfl, haccess]
    cases mode <;> simp [add, hsend, hreceive, hu]
  · rw [if_neg ha]
    exact ⟨access, haccess, hsend, hreceive⟩

theorem revokeChannelAccess_narrows (hkeeps : k.keepsList c t = true) (a u) :
    ((k.revokeChannelAccess c t).maySend a u = true → k.maySend a u = true) ∧
      ((k.revokeChannelAccess c t).mayReceive a u = true → k.mayReceive a u = true) := by
  rw [maySend, maySend, mayReceive, mayReceive, revokeChannelAccess_entry]
  by_cases ha : c = a
  · subst ha
    rw [keepsList] at hkeeps
    cases haccess : k.channelAccess[c]? with
    | none => simp
    | some access =>
      rw [haccess, all_some] at hkeeps
      rw [if_pos rfl, map_some, filter_some, if_pos hkeeps]
      simp only [all_some, remove, allowsSend, allowsReceive, decide_eq_true_iff]
      exact ⟨mem_of_mem_erase, mem_of_mem_erase⟩
  · rw [if_neg ha]
    exact ⟨id, id⟩

/-- Every send of the task and every receive in its context is refused, and changes nothing. -/
def Denied (k : SimulatedKernel) (c : ChannelId) (t : TaskId) : Prop :=
  (∀ orders message, message.source = some t → (sendMessage orders c message).call k =
    some (.error (.sendFailed ("Channel send denied for task " ++ showTask t)), k)) ∧
  ∀ orders, (receiveMessage orders c).call (k.setReceiveContext t) =
    some (.error (.receiveFailed ("Channel receive denied for task " ++ showTask t)), k.setReceiveContext t)

theorem Refuses.denied (h : k.Refuses c t) : k.Denied c t := by
  constructor
  · intro orders message hsource
    apply call_check
    simp [checkSend, hsource, filter_some, h.1]
  · intro orders
    apply call_check
    have hreceive : (k.setReceiveContext t).mayReceive c t = false := h.2
    have hcontext : (k.setReceiveContext t).currentReceiveTask = some t := rfl
    simp [checkReceive, hcontext, filter_some, hreceive]

end SimulatedKernel

namespace Session

open SimulatedKernel

def Call.accessGrant : Call → Option (ChannelId × TaskId)
  | .grantChannelAccess c t _ => some (c, t)
  | _ => none

def Call.accessRevoke : Call → Option (ChannelId × TaskId)
  | .revokeChannelAccess c t => some (c, t)
  | _ => none

/-- The call neither gives the task access to the channel again nor empties the list of the channel. -/
def KeepsOut (c : ChannelId) (t : TaskId) (w : Session) (call : Call) : Prop :=
  call.accessGrant ≠ some (c, t) ∧ ∀ e ∈ call.accessRevoke, e.1 = c → w.kernel.keepsList c e.2 = true

instance (c : ChannelId) (t : TaskId) (w : Session) (call : Call) : Decidable (KeepsOut c t w call) :=
  inferInstanceAs (Decidable (call.accessGrant ≠ some (c, t) ∧
    ∀ e ∈ call.accessRevoke, e.1 = c → w.kernel.keepsList c e.2 = true))

theorem Effect.refuses {call answer w} (h : Effect w.kernel call answer k')
    (hr : w.kernel.Refuses c t) (hk : KeepsOut c t w call) : k'.Refuses c t := by
  cases h with
  | untouched h => exact (Refuses.congr h.channelAccess).mpr hr
  | cancelled h => exact (Refuses.congr (runRule_channelAccess.used (.cancelled h ‹_›))).mpr hr
  | identity | granted | dropped | revoked => exact hr
  | spawned _ _ h =>
    obtain ⟨_, _, _, -, -, rfl⟩ := admitTask_parts h
    exact hr
  | terminated => exact (Refuses.congr (terminated_terminateTaskWithReason ..).channelAccess).mpr hr
  | timed h => exact (Refuses.congr (runRule_channelAccess.timed h)).mpr hr
  | delegated _ _ _ hnoted =>
    obtain rfl | ⟨_, _, rfl⟩ := hnoted <;> exact hr
  | accessGranted =>
    refine hr.grantChannelAccess _ fun heq => hk.1 ?_
    rw [← heq.1, ← heq.2]
    rfl
  | accessRevoked =>
    refine hr.revokeChannelAccess fun ha => ?_
    subst ha
    exact hk.2 _ rfl rfl

/-- A task whose access to a channel with a list is revoked is refused exactly if the channel keeps a list. The
revocation then gives nobody access, and the task is denied as long as it is not given access again and the
channel keeps a list. -/
theorem revoked_denied_iff_keepsList {w w₁ : Session} {answer : Answer} {c : ChannelId} {t : TaskId}
    (hlist : c ∈ w.kernel.channelAccess) (hs : machine.step w (.revokeChannelAccess c t) = some (answer, w₁)) :
    (w₁.kernel.Refuses c t ↔ w.kernel.keepsList c t = true) ∧
      (w.kernel.keepsList c t = true →
        (∀ a u, (w₁.kernel.maySend a u = true → w.kernel.maySend a u = true) ∧
          (w₁.kernel.mayReceive a u = true → w.kernel.mayReceive a u = true)) ∧
        ∀ tr w', machine.Run (fun w call _ => KeepsOut c t w call) w₁ tr w' → w'.kernel.Denied c t) := by
  have hk : w₁.kernel = w.kernel.revokeChannelAccess c t := by
    cases hs
    rfl
  rw [hk]
  refine ⟨refuses_revokeChannelAccess hlist, fun hkeeps => ⟨revokeChannelAccess_narrows hkeeps, ?_⟩⟩
  intro tr w' hrun
  have hrefuses : w₁.kernel.Refuses c t := hk ▸ (refuses_revokeChannelAccess hlist).mpr hkeeps
  exact (hrun.invariantTrace (P := fun _ (w : Session) => w.kernel.Refuses c t)
    (fun _ _ _ _ _ hr hs hg => (step_effect hs).refuses hr hg) [] hrefuses).denied

def messageOf (t : TaskId) : MessageEnvelope := ⟨⟨9⟩, ⟨8⟩, some t, "ping", ⟨1, 0⟩, none, []⟩

theorem revoked_denied_iff_keepsList_shared : ∃ (tr : Trace) (w : Session) (answer : Answer)
    (w₁ : Session) (tr' : Trace) (w' : Session),
    machine.FreeRun (start .default) tr w ∧ (⟨7⟩ : ChannelId) ∈ w.kernel.channelAccess ∧
      machine.step w (.revokeChannelAccess ⟨7⟩ ⟨1⟩) = some (answer, w₁) ∧ w.kernel.keepsList ⟨7⟩ ⟨1⟩ = true ∧
      machine.Run (fun w call _ => KeepsOut ⟨7⟩ ⟨1⟩ w call) w₁ tr' w' ∧ tr'.length = 2 ∧
      w'.kernel.Denied ⟨7⟩ ⟨1⟩ := by
  obtain ⟨tr, w, hrun, hlist, hkeeps, answer, w₁, hstep, tr', w', hrun', hlength⟩ : ∃ tr w,
      machine.FreeRun (start .default) tr w ∧ (⟨7⟩ : ChannelId) ∈ w.kernel.channelAccess ∧
      w.kernel.keepsList ⟨7⟩ ⟨1⟩ = true ∧
      ∃ answer w₁, machine.step w (.revokeChannelAccess ⟨7⟩ ⟨1⟩) = some (answer, w₁) ∧
      ∃ tr' w', machine.exec (fun w call _ => decide (KeepsOut ⟨7⟩ ⟨1⟩ w call)) w₁
        [.grantChannelAccess ⟨7⟩ ⟨3⟩ .receive, .revokeChannelAccess ⟨7⟩ ⟨2⟩] = some (tr', w') ∧ tr'.length = 2 :=
    Machine.exists_run [.createChannel ⟨7⟩, .grantChannelAccess ⟨7⟩ ⟨1⟩ .both, .grantChannelAccess ⟨7⟩ ⟨2⟩ .send]
      (by decide +kernel)
  have hrun' := Machine.exec_guarded hrun'
  exact ⟨tr, w, answer, w₁, tr', w', hrun, hlist, hstep, hkeeps, hrun', hlength,
    ((revoked_denied_iff_keepsList hlist hstep).2 hkeeps).2 tr' w' hrun'⟩

/-- The only task on a list is taken off it: its next send succeeds, and another task gets access. -/
theorem revoked_task_sends : ∃ (tr : Trace) (w : Session) (answer : Answer) (w₁ w₂ : Session),
    machine.FreeRun (start .default) tr w ∧ (⟨7⟩ : ChannelId) ∈ w.kernel.channelAccess ∧
      machine.step w (.revokeChannelAccess ⟨7⟩ ⟨1⟩) = some (answer, w₁) ∧
      machine.step w₁ (.sendMessage .listed ⟨7⟩ (messageOf ⟨1⟩)) = some (.result (.ok ()), w₂) ∧
      w.kernel.maySend ⟨7⟩ ⟨2⟩ = false ∧ w₁.kernel.maySend ⟨7⟩ ⟨2⟩ = true := by
  simp only [exists_and_left]
  exact Machine.exists_run [.createChannel ⟨7⟩, .grantChannelAccess ⟨7⟩ ⟨1⟩ .both] (by decide +kernel)

end Session

end PandaGen.Kernel
