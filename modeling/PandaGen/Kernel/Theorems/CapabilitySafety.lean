import PandaGen.Kernel.Lemmas.Identity
import PandaGen.Kernel.Lemmas.Lifetime

/-!
# Who may use a capability
-/

namespace PandaGen.Kernel

open Lib Option BTreeMap

variable {k : SimulatedKernel} {c : Nat} {k' : SimulatedKernel}

namespace SimulatedKernel

theorem Terminated.isCapabilityValid {t} (h : Terminated k t k')
    (hother : k.ownedBy t c = false) (u) : k'.isCapabilityValid c u = k.isCapabilityValid c u := by
  rw [Bool.eq_iff_iff, isCapabilityValid_iff, isCapabilityValid_iff, h.entry c]
  cases hinfo : k.capabilityTable[c]? with
  | none => simp
  | some info =>
    have howner : info.owner ≠ t := by
      simpa [ownedBy, hinfo] using hother
    have halive : info.owner ∈ k'.tasks ↔ info.owner ∈ k.tasks := by
      rw [h.tasks, Std.ExtTreeMap.mem_erase]
      simp [Ne.symm howner]
    simp only [map_some, if_neg howner, some.injEq, exists_eq_left']
    constructor
    · intro hu
      exact ⟨h.currentTime ▸ hu.lease, hu.revoked, hu.status, halive.mp hu.alive, hu.owner⟩
    · intro hu
      exact ⟨h.currentTime ▸ hu.lease, hu.revoked, hu.status, halive.mpr hu.alive, hu.owner⟩

def Over (k : SimulatedKernel) (c : Nat) : Prop :=
  ∀ info, k.capabilityTable[c]? = some info →
    info.status ≠ .valid ∨ info.revoked = true ∨ info.leasePassed k.currentTime = true

theorem Over.not_usableBy (h : k.Over c) {info}
    (hinfo : k.capabilityTable[c]? = some info) (t) : ¬ k.UsableBy info t := by
  intro husable
  obtain hstatus | hrevoked | hpassed := h info hinfo
  · exact hstatus husable.status
  · cases husable.revoked.symm.trans hrevoked
  · cases husable.lease.symm.trans hpassed

theorem Over.isCapabilityValid (h : k.Over c) (t) : k.isCapabilityValid c t = false := by
  rw [Bool.eq_false_iff, Ne, isCapabilityValid_iff]
  rintro ⟨info, hinfo, husable⟩
  exact h.not_usableBy hinfo t husable

theorem over_of_invalid {info}
    (hinfo : k.capabilityTable[c]? = some info) (hstatus : info.status = .invalid) : k.Over c := by
  intro info' hinfo'
  cases hinfo.symm.trans hinfo'
  rw [hstatus]
  exact .inl (by decide)

def Without (k : SimulatedKernel) (c : Nat) (t : TaskId) : Prop :=
  ∀ info, k.capabilityTable[c]? = some info → info.owner ≠ t

theorem Without.isCapabilityValid {t} (h : k.Without c t) : k.isCapabilityValid c t = false := by
  rw [Bool.eq_false_iff, Ne, isCapabilityValid_iff]
  rintro ⟨info, hinfo, husable⟩
  exact h info hinfo husable.owner

def Held (k : SimulatedKernel) (c : Nat) (t : TaskId) (lease : Option Nat) : Prop :=
  ∃ info, k.capabilityTable[c]? = some info ∧ info.owner = t ∧ info.leaseExpiresAtNanos = lease ∧
    (info.status = .valid ∧ info.revoked = false ∨ t ∉ k.tasks ∨ info.leasePassed k.currentTime = true)

theorem Held.isCapabilityValid_iff {t} {info : CapabilityMetadata} (h : k.Held c t info.leaseExpiresAtNanos) :
    k.isCapabilityValid c t = true ↔ t ∈ k.tasks ∧ info.leasePassed k.currentTime = false := by
  obtain ⟨info', hinfo', rfl, hlease, hstate⟩ := h
  have hpassed : info.leasePassed k.currentTime = info'.leasePassed k.currentTime := by
    rw [CapabilityMetadata.leasePassed, ← hlease]
    rfl
  rw [SimulatedKernel.isCapabilityValid_iff, hinfo', hpassed]
  simp only [some.injEq, exists_eq_left']
  constructor
  · exact fun husable => ⟨husable.alive, husable.lease⟩
  · rintro ⟨halive, hleft⟩
    obtain ⟨hstatus, hrevoked⟩ | hgone | hover := hstate
    · exact ⟨hleft, hrevoked, hstatus, halive, rfl⟩
    · exact absurd halive hgone
    · cases hleft.symm.trans hover

end SimulatedKernel

namespace Session

open SimulatedKernel

/-! ## One capability over a call -/

def Call.grants (c : Nat) (call : Call) : Bool :=
  call.grant.any fun g => g.2 = c

def Call.gives (c : Nat) (t : TaskId) : Call → Bool
  | .delegateCapability a _ u => a = c && u = t
  | call => call.grant = some (t, c)

def Call.closes (c : Nat) : Call → Bool
  | .dropCapability a _ => a = c
  | .revokeCapability a _ _ => a = c
  | _ => false

def Call.names (c : Nat) : Call → Bool
  | .delegateCapability a _ _ => a = c
  | call => call.grants c || call.closes c

theorem Call.gives_of_grant {call : Call} {t} (h : call.grant = some (t, c)) :
    call.gives c t = true ∧ call.grants c = true ∧ call.names c = true := by
  cases call <;> cases h <;> simp [Call.gives, Call.grants, Call.names, Call.grant]

inductive EntryChange (k : SimulatedKernel) (call : Call) (answer : Answer) (k' : SimulatedKernel) (c : Nat) : Prop
  | kept (entry : k'.capabilityTable[c]? = k.capabilityTable[c]?)
  | stored {info} (stored : Stored k c info call) (ok : answer.isErr = false)
      (entry : k'.capabilityTable[c]? = some info)
  | terminated {orders reason info} (call : call = .terminateTask orders info.owner reason)
      (before : k.capabilityTable[c]? = some info) (gone : info.owner ∉ k'.tasks)
      (entry : k'.capabilityTable[c]? = some (ended info))
  | expired {info} (before : k.capabilityTable[c]? = some info) (passed : info.leasePassed k'.currentTime = true)
      (entry : k'.capabilityTable[c]? = some (ended info))

theorem Change.entry {call answer} (h : Change k call answer k') (c) : EntryChange k call answer k' c := by
  cases h with
  | elapsed h =>
    obtain hkept | ⟨info, hinfo, hpassed, hended⟩ := h.entry c
    · exact .kept hkept
    · exact .expired hinfo hpassed hended
  | spawned _ _ _ table => exact .kept (by rw [table])
  | terminated hcall h =>
    rename_i orders t reason
    have hentry := h.entry c
    cases hinfo : k.capabilityTable[c]? with
    | none => exact .kept (by rw [hentry, hinfo, map_none])
    | some info =>
      rw [hinfo, map_some] at hentry
      by_cases howner : info.owner = t
      · subst howner
        rw [if_pos rfl] at hentry
        refine .terminated hcall hinfo ?_ hentry
        simp [h.tasks]
      · rw [if_neg howner] at hentry
        exact .kept (hentry.trans hinfo.symm)
  | @stored a info hstored ok _ _ table =>
    have hentry := getElem?_insert k.capabilityTable a info c
    rw [← table] at hentry
    by_cases ha : a = c
    · subst ha
      exact .stored hstored ok (hentry.trans (if_pos rfl))
    · exact .kept (hentry.trans (if_neg ha))

variable {w w' : Session} {call : Call} {answer : Answer} {c : Nat} {t : TaskId}

section

variable (h : w.Sound) (hs : machine.step w call = some (answer, w'))
include h hs

theorem Sound.over_step
    (hgrant : call.grants c = true → answer.isErr = true) (hover : w.kernel.Over c) : w'.kernel.Over c := by
  have hchange := (h.step hs).2
  cases hchange.entry c with
  | kept entry =>
    intro info hinfo
    obtain hstatus | hrevoked | hpassed := hover info (entry ▸ hinfo)
    · exact .inl hstatus
    · exact .inr (.inl hrevoked)
    · exact .inr (.inr (leasePassed_mono hpassed hchange.currentTime))
  | stored hstored ok entry =>
    cases hstored with
    | granted hcall => cases ok.symm.trans (hgrant (Call.gives_of_grant hcall).2.1)
    | delegated hinfo husable => exact absurd husable (hover.not_usableBy hinfo _)
    | dropped | revoked => exact over_of_invalid entry rfl
  | terminated _ _ _ entry | expired _ _ entry => exact over_of_invalid entry rfl

theorem Sound.without_step (hgives : call.gives c t = true → answer.isErr = true) (hwithout : w.kernel.Without c t) :
    w'.kernel.Without c t := by
  have hentry : ∀ {info}, w'.kernel.capabilityTable[c]? = some info → info.owner ≠ t → w'.kernel.Without c t := by
    intro info hinfo howner info' hinfo'
    cases hinfo.symm.trans hinfo'
    exact howner
  cases (h.step hs).2.entry c with
  | kept entry => exact fun info hinfo => hwithout info (entry ▸ hinfo)
  | stored hstored ok entry =>
    cases hstored with
    | granted hcall =>
      refine hentry entry ?_
      rintro rfl
      cases ok.symm.trans (hgives (Call.gives_of_grant hcall).1)
    | delegated =>
      refine hentry entry ?_
      rintro rfl
      cases ok.symm.trans (hgives (by simp [Call.gives]))
    | dropped hinfo | revoked hinfo =>
      have howner := hwithout _ hinfo
      exact hentry entry howner
  | terminated _ before _ entry | expired before _ entry =>
    have howner := hwithout _ before
    exact hentry entry howner

theorem Sound.held_step (hnames : call.names c = true → answer.isErr = true) (hdrawn : t ∈ w.drawnTasks) {lease}
    (hheld : w.kernel.Held c t lease) : w'.kernel.Held c t lease := by
  have hchange := (h.step hs).2
  obtain ⟨info, hinfo, rfl, hlease, hstate⟩ := hheld
  cases hchange.entry c with
  | kept entry =>
    refine ⟨info, entry.trans hinfo, rfl, hlease, ?_⟩
    obtain hvalid | hgone | hpassed := hstate
    · exact .inl hvalid
    · refine .inr (.inl fun ht => ?_)
      obtain ht | ⟨ids, hids, hdraws⟩ := hchange.mem_tasks ht
      · exact hgone ht
      · exact ((step_perform hs).1 ids hids).1 (hdraws ▸ hdrawn)
    · exact .inr (.inr (leasePassed_mono hpassed hchange.currentTime))
  | stored hstored ok entry =>
    cases hstored with
    | granted hcall => cases ok.symm.trans (hnames (Call.gives_of_grant hcall).2.2)
    | delegated => cases ok.symm.trans (hnames (by simp [Call.names]))
    | dropped | revoked => cases ok.symm.trans (hnames (by simp [Call.names, Call.closes]))
  | terminated _ before gone entry =>
    cases hinfo.symm.trans before
    exact ⟨_, entry, rfl, hlease, .inr (.inl gone)⟩
  | expired before passed entry =>
    cases hinfo.symm.trans before
    exact ⟨_, entry, rfl, hlease, .inr (.inr passed)⟩

end

/-! ## Runs -/

def Call.endsCapability (k : SimulatedKernel) (c : Nat) : Call → Bool
  | .terminateTask _ t _ => k.ownedBy t c
  | call => call.closes c

theorem terminated_of_step {orders reason} (hs : machine.step w (.terminateTask orders t reason) = some (answer, w')) :
    Terminated w.kernel t w'.kernel := by
  have hk : w.kernel.terminateTaskWithReason orders t reason = w'.kernel :=
    congrArg Prod.snd (some.inj (step_perform hs).2.1)
  rw [← hk]
  exact terminated_terminateTaskWithReason w.kernel orders t reason

theorem over_of_endsCapability (hs : machine.step w call = some (answer, w')) (hok : answer.isErr = false)
    (hends : call.endsCapability w.kernel c = true) : w'.kernel.Over c := by
  have hperform := (step_perform hs).2.1
  cases call with
  | dropCapability a t =>
    obtain ⟨info, -, -, hk⟩ := of_answer_ok hperform hok (dropCapability_post _ _ _)
    cases of_decide_eq_true hends
    have hentry : w'.kernel.capabilityTable[c]? = some (ended info) := by
      rw [hk]
      exact (getElem?_insert _ c (ended info) c).trans (if_pos rfl)
    exact over_of_invalid hentry rfl
  | revokeCapability a t reason =>
    obtain ⟨info, -, -, hk⟩ := of_answer_ok hperform hok (revokeCapability_post _ _ _ _)
    cases of_decide_eq_true hends
    have hentry : w'.kernel.capabilityTable[c]? = some (ended { info with revoked := true }) := by
      rw [hk]
      exact (getElem?_insert _ c (ended { info with revoked := true }) c).trans (if_pos rfl)
    exact over_of_invalid hentry rfl
  | terminateTask orders t reason =>
    obtain ⟨info, hinfo, howner⟩ := (any_eq_true _ _).mp hends
    have hentry := (terminated_of_step hs).entry c
    rw [hinfo, map_some, if_pos (of_decide_eq_true howner)] at hentry
    exact over_of_invalid hentry rfl
  | _ => cases hends

theorem held_of_delegate {u info}
    (hs : machine.step w (.delegateCapability c t u) = some (answer, w')) (hok : answer.isErr = false)
    (hinfo : w.kernel.capabilityTable[c]? = some info) :
    w'.kernel.Held c u info.leaseExpiresAtNanos ∧ (t ≠ u → w'.kernel.Without c t) ∧ u ∈ w.kernel.tasks := by
  obtain ⟨info', k1, hinfo', husable, hto, -, hk⟩ :=
    of_answer_ok (step_perform hs).2.1 hok (delegateCapability_post _ _ _ _)
  cases hinfo.symm.trans hinfo'
  have hentry : w'.kernel.capabilityTable[c]? = some { info with owner := u } := by
    rw [hk]
    exact (getElem?_insert _ c { info with owner := u } c).trans (if_pos rfl)
  refine ⟨⟨_, hentry, rfl, rfl, .inl ⟨husable.status, husable.revoked⟩⟩, fun hne info' hinfo' => ?_, hto⟩
  cases hentry.symm.trans hinfo'
  exact hne.symm

theorem Sound.over_run (h : w.Sound) (hover : w.kernel.Over c) {tr}
    (hrun : machine.Run (fun _ call answer => call.grants c = true → answer.isErr = true) w tr w') (t) :
    w'.kernel.isCapabilityValid c t = false :=
  (hrun.invariantTrace (P := fun _ (w : Session) => w.Sound ∧ w.kernel.Over c)
    (fun _ _ _ _ _ hw hs hg => ⟨(hw.1.step hs).1, hw.1.over_step hs hg hw.2⟩) [] ⟨h, hover⟩).2.isCapabilityValid t

theorem Sound.held_run (h : w.Sound) (hdrawn : t ∈ w.drawnTasks) {info : CapabilityMetadata}
    (hheld : w.kernel.Held c t info.leaseExpiresAtNanos) {tr}
    (hrun : machine.Run (fun _ call answer => call.names c = true → answer.isErr = true) w tr w') :
    w'.kernel.isCapabilityValid c t = true ↔
      t ∈ w'.kernel.tasks ∧ info.leasePassed w'.kernel.currentTime = false := by
  refine (hrun.invariantTrace (P := fun _ (w : Session) =>
    (w.Sound ∧ t ∈ w.drawnTasks) ∧ w.kernel.Held c t info.leaseExpiresAtNanos) ?_ [] ⟨⟨h, hdrawn⟩, hheld⟩).2
      |>.isCapabilityValid_iff
  intro _ w _ _ _ hw hs hg
  refine ⟨⟨(hw.1.1.step hs).1, ?_⟩, hw.1.1.held_step hs hg hw.1.2 hw.2⟩
  rw [(step_perform hs).2.2.1]
  exact List.mem_append_right _ hw.1.2

/-- In every run a capability is valid for at most one task. After a delegation to another task it is valid for
the receiver while that lives and the lease lasts, and not for the giver until it gets the capability back. A
capability that was dropped or revoked, whose owner was terminated or whose lease has passed is valid for nobody
until it is granted again. A termination changes nothing for the capabilities of others. -/
theorem capability_safe {setup : Setup} {tr : Trace} {w : Session}
    (h : machine.FreeRun (start setup) tr w) (c : Nat) :
    (∀ t u, w.kernel.isCapabilityValid c t = true → w.kernel.isCapabilityValid c u = true → t = u) ∧
    (∀ t u answer w₁ info, machine.step w (.delegateCapability c t u) = some (answer, w₁) → answer.isErr = false →
      w.kernel.capabilityTable[c]? = some info → t ≠ u →
        (∀ tr' w', machine.Run (fun _ call answer => call.names c = true → answer.isErr = true) w₁ tr' w' →
          (w'.kernel.isCapabilityValid c u = true ↔
            u ∈ w'.kernel.tasks ∧ info.leasePassed w'.kernel.currentTime = false)) ∧
        ∀ tr' w', machine.Run (fun _ call answer => call.gives c t = true → answer.isErr = true) w₁ tr' w' →
          w'.kernel.isCapabilityValid c t = false) ∧
    (∀ call answer w₁, machine.step w call = some (answer, w₁) → answer.isErr = false →
      call.endsCapability w.kernel c = true →
        ∀ tr' w', machine.Run (fun _ call answer => call.grants c = true → answer.isErr = true) w₁ tr' w' →
          ∀ t, w'.kernel.isCapabilityValid c t = false) ∧
    (∀ info, w.kernel.capabilityTable[c]? = some info → info.leasePassed w.kernel.currentTime = true →
      ∀ tr' w', machine.Run (fun _ call answer => call.grants c = true → answer.isErr = true) w tr' w' →
        ∀ t, w'.kernel.isCapabilityValid c t = false) ∧
    ∀ orders t reason answer w₁, machine.step w (.terminateTask orders t reason) = some (answer, w₁) →
      w.kernel.ownedBy t c = false → ∀ u, w₁.kernel.isCapabilityValid c u = w.kernel.isCapabilityValid c u := by
  have hsound := sound_of_run h
  refine ⟨?_, ?_, ?_, ?_, ?_⟩
  · intro t u ht hu
    obtain ⟨info, hinfo, husable⟩ := isCapabilityValid_iff.mp ht
    obtain ⟨info', hinfo', husable'⟩ := isCapabilityValid_iff.mp hu
    cases hinfo.symm.trans hinfo'
    exact husable.owner.symm.trans husable'.owner
  · intro t u answer w₁ info hs hok hinfo hne
    obtain ⟨hheld, hwithout, hto⟩ := held_of_delegate hs hok hinfo
    have hsound₁ := (hsound.step hs).1
    have hdrawn : u ∈ w₁.drawnTasks := by
      rw [(step_perform hs).2.2.1]
      exact List.mem_append_right _ (hsound.drawn u hto)
    refine ⟨fun tr' w' hrun => hsound₁.held_run hdrawn hheld hrun, fun tr' w' hrun => ?_⟩
    exact (hrun.invariantTrace (P := fun _ (w : Session) => w.Sound ∧ w.kernel.Without c t)
      (fun _ _ _ _ _ hw hs hg => ⟨(hw.1.step hs).1, hw.1.without_step hs hg hw.2⟩) []
        ⟨hsound₁, hwithout hne⟩).2.isCapabilityValid
  · intro call answer w₁ hs hok hends tr' w' hrun t
    exact (hsound.step hs).1.over_run (over_of_endsCapability hs hok hends) hrun t
  · intro info hinfo hpassed tr' w' hrun t
    refine hsound.over_run (fun info' hinfo' => ?_) hrun t
    cases hinfo.symm.trans hinfo'
    exact .inr (.inr hpassed)
  · intro orders t reason answer w₁ hs hother u
    exact (terminated_of_step hs).isCapabilityValid hother u

set_option synthInstance.maxSize 1000 in
theorem capability_safe_leased : ∃ (tr : Trace) (w : Session) (answer : Answer) (w₁ : Session)
    (tr' : Trace) (w' : Session) (tr'' : Trace) (w'' : Session),
    machine.FreeRun (start .default) tr w ∧
      machine.step w (.delegateCapability 5 ⟨1⟩ ⟨2⟩) = some (answer, w₁) ∧ answer.isErr = false ∧
      machine.Run (fun _ call answer => call.names 5 = true → answer.isErr = true) w₁ tr' w' ∧
      w'.kernel.isCapabilityValid 5 ⟨2⟩ = true ∧
      machine.Run (fun _ call answer => call.names 5 = true → answer.isErr = true) w₁ tr'' w'' ∧
      w''.kernel.isCapabilityValid 5 ⟨2⟩ = false := by
  obtain ⟨tr, w, hrun, answer, w₁, hstep, hok, tr', w', hrun', tr'', w'', hrun'', info, hinfo, hlasts, hpassed⟩ :
      ∃ tr w, machine.FreeRun (start .default) tr w ∧
      ∃ answer w₁, machine.step w (.delegateCapability 5 ⟨1⟩ ⟨2⟩) = some (answer, w₁) ∧ answer.isErr = false ∧
      ∃ tr' w', machine.exec (fun _ call answer => decide (call.names 5 = true → answer.isErr = true)) w₁
        [.advanceTime .listed 2000, .dropCapability 5 ⟨1⟩] = some (tr', w') ∧
      ∃ tr'' w'', machine.exec (fun _ call answer => decide (call.names 5 = true → answer.isErr = true)) w₁
        [.advanceTime .listed 2000, .advanceTime .listed 1000] = some (tr'', w'') ∧
      ∃ info, w.kernel.capabilityTable[5]? = some info ∧
        (⟨2⟩ ∈ w'.kernel.tasks ∧ info.leasePassed w'.kernel.currentTime = false) ∧
        info.leasePassed w''.kernel.currentTime = true :=
    Machine.exists_run [.spawn 1, .spawn 2, .grantCapabilityWithLease ⟨1⟩ 5 3000] (by decide +kernel)
  have hrun' := Machine.exec_guarded hrun'
  have hrun'' := Machine.exec_guarded hrun''
  have hsafe := ((capability_safe hrun 5).2.1 ⟨1⟩ ⟨2⟩ answer w₁ info hstep hok hinfo (by decide)).1
  refine ⟨tr, w, answer, w₁, tr', w', tr'', w'', hrun, hstep, hok, hrun', (hsafe tr' w' hrun').mpr hlasts, hrun'', ?_⟩
  rw [Bool.eq_false_iff, Ne, hsafe tr'' w'' hrun'', hpassed]
  exact fun h => Bool.noConfusion h.2

/-- A task that delegates a capability to itself is the giver and keeps it. -/
theorem self_delegation_keeps : ∃ (tr : Trace) (w : Session) (answer : Answer) (w₁ : Session),
    machine.FreeRun (start .default) tr w ∧
      machine.step w (.delegateCapability 5 ⟨1⟩ ⟨1⟩) = some (answer, w₁) ∧ answer.isErr = false ∧
      w₁.kernel.isCapabilityValid 5 ⟨1⟩ = true := by
  simp only [exists_and_left]
  exact Machine.exists_run [.spawn 1, .grantCapability ⟨1⟩ 5] (by decide +kernel)

/-- In every run no two tasks have one identity, the tables hold nothing that was not drawn, and the clock shows the
ticks. -/
theorem session_consistent {setup tr} {w : Session} (hrun : machine.FreeRun (start setup) tr w) :
    (∀ (t u : TaskId) e, w.kernel.taskToIdentity[t]? = some e → w.kernel.taskToIdentity[u]? = some e → t = u) ∧
    (∀ e, e ∈ w.kernel.identityTable ∨ e ∈ w.kernel.cancelledIdentities → e ∈ w.drawnExecutions) ∧
    (∀ t ∈ w.kernel.tasks, t ∈ w.drawnTasks) ∧ w.kernel.currentTime = w.kernel.timerTicks * w.kernel.nanosPerTick := by
  have hid := hrun.invariantTrace (P := fun _ w => w.Identified) (fun _ _ _ _ _ hw hs _ => hw.step hs) []
    (identified_start setup)
  have hsound := sound_of_run hrun
  exact ⟨hid.distinct, fun e he => he.elim (hid.identity e) (hid.cancelled e), hsound.drawn, hsound.clock⟩

theorem session_consistent_two : ∃ tr w, machine.FreeRun (start .default) tr w ∧
    w.kernel.taskToIdentity[(⟨1⟩ : TaskId)]? = some ⟨1⟩ ∧ w.kernel.taskToIdentity[(⟨2⟩ : TaskId)]? ≠ some ⟨1⟩ := by
  obtain ⟨tr, w, hrun, hfirst⟩ : ∃ tr w, machine.FreeRun (start .default) tr w ∧
      w.kernel.taskToIdentity[(⟨1⟩ : TaskId)]? = some ⟨1⟩ :=
    Machine.exists_run [.spawn 1, .spawn 2] (by decide +kernel)
  exact ⟨tr, w, hrun, hfirst, fun h => by cases (session_consistent hrun).1 ⟨1⟩ ⟨2⟩ ⟨1⟩ hfirst h⟩

end Session

end PandaGen.Kernel
