import PandaGen.Kernel.Lemmas.Capability

/-!
# The capability audit log
-/

namespace PandaGen.Kernel

open Lib Option BTreeMap

variable {c : Nat} {k k' : SimulatedKernel}

/-! ## Replay -/

abbrev ReplayTable := BTreeMap Nat (TaskId × CapabilityStatus)

namespace CapabilityEvent

def ends : CapabilityEvent → Option Nat
  | .dropped capId _ _ => some capId
  | .invalidated capId _ _ => some capId
  | .revoked capId _ _ _ => some capId
  | .leaseExpired capId _ _ _ => some capId
  | _ => none

/-- What the event says about the table. Events that are no change of the table are skipped. -/
def replay (table : ReplayTable) (event : CapabilityEvent) : ReplayTable :=
  match event with
  | .granted capId _ grantee _ => table.insert capId (grantee, .valid)
  | .delegated capId _ toTask _ => table.modify capId fun entry => (toTask, entry.2)
  | event =>
    match event.ends with
    | some capId => table.modify capId fun entry => (entry.1, .invalid)
    | none => table

theorem replay_ends {event} (h : event.ends = some c) (table) :
    replay table event = table.modify c fun entry => (entry.1, .invalid) := by
  cases event <;> cases h <;> rfl

end CapabilityEvent

def replayLog (events : List CapabilityAuditEvent) : ReplayTable :=
  events.foldl (fun table e => e.event.replay table) ∅

theorem replayLog_append (events e) : replayLog (events ++ [e]) = e.event.replay (replayLog events) := by
  rw [replayLog, List.foldl_append]
  rfl

namespace SimulatedKernel

def LogAgrees (k : SimulatedKernel) : Prop :=
  ∀ c : Nat, (replayLog k.capabilityAudit)[c]? = k.capabilityTable[c]?.map fun info => (info.owner, info.status)

section

variable (h : k.LogAgrees)
include h

theorem LogAgrees.congr (htable : k'.capabilityTable = k.capabilityTable)
    (haudit : k'.capabilityAudit = k.capabilityAudit) : k'.LogAgrees := by
  intro c
  rw [htable, haudit]
  exact h c

theorem LogAgrees.recordCapabilityGrant (c t capType grantor lease) :
    (k.recordCapabilityGrant c t capType grantor lease).LogAgrees := by
  intro a
  refine (congrArg (·[a]?) (replayLog_append k.capabilityAudit _)).trans ?_
  refine (getElem?_insert _ c (t, CapabilityStatus.valid) a).trans ?_
  rw [h a]
  refine Eq.trans ?_ (congrArg _ (getElem?_insert k.capabilityTable c _ a).symm)
  split <;> rfl

theorem LogAgrees.endCapability {info info'} (hinfo : k.capabilityTable[c]? = some info)
    (howner : info'.owner = info.owner) {event} (hends : event.ends = some c) :
    (k.endCapability c info' event).LogAgrees := by
  intro a
  refine (congrArg (·[a]?) (replayLog_append k.capabilityAudit _)).trans ?_
  rw [CapabilityEvent.replay_ends hends, getElem?_modify, h a]
  refine Eq.trans ?_ (congrArg _ (getElem?_insert k.capabilityTable c _ a).symm)
  split
  · rename_i ha
    rw [← ha, hinfo, map_some, map_some, map_some, howner]
  · rfl

theorem LogAgrees.handOver {info} (hinfo : k.capabilityTable[c]? = some info) (t t') :
    (k.handOver c info t t').LogAgrees := by
  intro a
  refine (congrArg (·[a]?) (replayLog_append k.capabilityAudit _)).trans ?_
  refine (getElem?_modify _ c (fun entry => (t', entry.2)) a).trans ?_
  rw [h a]
  refine Eq.trans ?_ (congrArg _ (getElem?_insert k.capabilityTable c _ a).symm)
  split
  · rename_i ha
    rw [← ha, hinfo]
    rfl
  · rfl

theorem LogAgrees.foldl_endWith {event} (hevent : ∀ c info, (event c info).ends = some c) (l : List Nat) :
    (l.foldl (endWith event) k).LogAgrees := by
  induction l generalizing k with
  | nil => exact h
  | cons c l ih =>
    apply ih
    rw [endWith]
    split
    · rename_i info hinfo
      exact h.endCapability hinfo rfl (hevent c info)
    · exact h

theorem LogAgrees.invalidateTaskCapabilities (orders t) : (k.invalidateTaskCapabilities orders t).LogAgrees :=
  h.foldl_endWith (fun _ _ => rfl) _

theorem LogAgrees.expireCapabilityLeases (orders) : (k.expireCapabilityLeases orders).LogAgrees :=
  h.foldl_endWith (fun _ _ => rfl) _

theorem LogAgrees.terminateTaskWithReason (orders t reason) :
    (k.terminateTaskWithReason orders t reason).LogAgrees := by
  have hk1 : LogAgrees { k.releaseIdentity t reason with tasks := (k.releaseIdentity t reason).tasks.erase t } := by
    obtain ⟨_, hrelease⟩ := releaseIdentity_parts k t reason
    rw [hrelease]
    exact h
  rw [SimulatedKernel.terminateTaskWithReason, exitTask]
  split <;> exact hk1.invalidateTaskCapabilities orders t

theorem LogAgrees.advanceTime {orders duration} (hk : k.advanceTime orders duration = some k') : k'.LogAgrees := by
  obtain ⟨ticks, -, hk⟩ := bind_eq_some_iff.mp hk
  obtain ⟨timerTicks, -, hk⟩ := bind_eq_some_iff.mp hk
  obtain ⟨k1, hsync, hk⟩ := bind_eq_some_iff.mp hk
  obtain ⟨scheduler, -, ⟨⟩⟩ := bind_eq_some_iff.mp hk
  obtain ⟨nanos, -, ⟨⟩⟩ := bind_eq_some_iff.mp hsync
  have hk1 : ({ k with timerTicks := timerTicks, currentTime := nanos } : SimulatedKernel).LogAgrees := h
  exact hk1.expireCapabilityLeases orders

end

theorem runRule_logAgrees : RunRule fun k k' => k.LogAgrees → k'.LogAgrees where
  refl _ := id
  trans h h' := h' ∘ h
  schedule _ _ _ h := h
  advance hk h := h.advanceTime hk
  used hk h := h.congr hk.spared.capabilityTable hk.spared.capabilityAudit

end SimulatedKernel

namespace Session

open SimulatedKernel

theorem Effect.logAgrees {call answer} (h : Effect k call answer k') (hk : k.LogAgrees) : k'.LogAgrees := by
  cases h with
  | untouched h => exact hk.congr h.capabilityTable h.capabilityAudit
  | cancelled h mem => exact runRule_logAgrees.used (.cancelled h mem) hk
  | identity => exact hk
  | spawned _ _ h =>
    obtain ⟨_, _, _, -, -, rfl⟩ := admitTask_parts h
    exact hk
  | terminated => exact hk.terminateTaskWithReason _ _ _
  | timed h => exact runRule_logAgrees.timed h hk
  | granted => exact hk.recordCapabilityGrant _ _ _ _ _
  | delegated hinfo _ _ hnoted =>
    obtain rfl | ⟨fromDomain, toDomain, rfl⟩ := hnoted
    · exact hk.handOver hinfo _ _
    · refine LogAgrees.handOver (k := k.recordCapability _) (fun a => ?_) hinfo _ _
      exact (congrArg (·[a]?) (replayLog_append _ _)).trans (hk a)
  | dropped hinfo | revoked hinfo =>
    apply hk.endCapability hinfo <;> rfl
  | accessGranted => exact hk
  | accessRevoked =>
    obtain ⟨_, heq⟩ := revokeChannelAccess_parts k _ _
    rw [heq]
    exact hk

theorem Effect.capabilityAudit_of_isErr {call answer} (h : Effect k call answer k') (herr : answer.isErr = true) :
    k'.capabilityAudit = k.capabilityAudit := by
  cases h with
  | untouched h => exact h.capabilityAudit
  | cancelled h mem => exact (Used.cancelled h mem).spared.capabilityAudit
  | spawned _ hok => exact absurd herr (Bool.eq_false_iff.mp hok)
  | timed h => cases h <;> cases herr
  | _ => cases herr

theorem logAgrees_start (setup) : (start setup).kernel.LogAgrees := by
  intro c
  rw [start, setup.boot_eq]
  simp [replayLog, withTickResolution]

/-- In every run, replaying the log from an empty table gives the owner and the status of every capability, and a
call that returns an error adds nothing that changes the replayed table. -/
theorem audit_log_replays {setup : Setup} {tr : Trace} {w : Session}
    (h : machine.FreeRun (start setup) tr w) : (∀ c : Nat, (replayLog w.kernel.capabilityAudit)[c]? =
      w.kernel.capabilityTable[c]?.map fun info => (info.owner, info.status)) ∧
    ∀ call answer w', machine.step w call = some (answer, w') → answer.isErr = true →
      replayLog w'.kernel.capabilityAudit = replayLog w.kernel.capabilityAudit := by
  constructor
  · exact h.invariantTrace (P := fun _ (w : Session) => w.kernel.LogAgrees)
      (fun _ _ _ _ _ hk hs _ => (step_effect hs).logAgrees hk) [] (logAgrees_start setup)
  · intro call answer w' hs herr
    rw [(step_effect hs).capabilityAudit_of_isErr herr]

/-- A lease is granted, delegated and expires; the drop that the former owner asks for is refused. -/
theorem audit_log_replays_leased : ∃ (tr : Trace) (w w' : Session) (answer : Answer),
    machine.FreeRun (start .default) tr w ∧ w.kernel.capabilityAudit.length = 3 ∧
      (replayLog w.kernel.capabilityAudit)[5]? =
        w.kernel.capabilityTable[5]?.map (fun info => (info.owner, info.status)) ∧
      w.kernel.capabilityTable[5]?.map (fun info => (info.owner, info.status)) = some (⟨2⟩, .invalid) ∧
      machine.step w (.dropCapability 5 ⟨1⟩) = some (answer, w') ∧ answer.isErr = true ∧
      replayLog w'.kernel.capabilityAudit = replayLog w.kernel.capabilityAudit := by
  obtain ⟨tr, w, hrun, hlength, hentry, answer, w', hstep, herr⟩ : ∃ tr w,
      machine.FreeRun (start .default) tr w ∧ w.kernel.capabilityAudit.length = 3 ∧
      w.kernel.capabilityTable[5]?.map (fun info => (info.owner, info.status)) = some (⟨2⟩, .invalid) ∧
      ∃ answer w', machine.step w (.dropCapability 5 ⟨1⟩) = some (answer, w') ∧ answer.isErr = true :=
    Machine.exists_run [.spawn 1, .spawn 2, .grantCapabilityWithLease ⟨1⟩ 5 2000, .delegateCapability 5 ⟨1⟩ ⟨2⟩,
      .advanceTime .listed 3000] (by decide +kernel)
  exact ⟨tr, w, w', answer, hrun, hlength, (audit_log_replays hrun).1 5, hentry, hstep, herr,
    (audit_log_replays hrun).2 _ _ _ hstep herr⟩

end Session

end PandaGen.Kernel
