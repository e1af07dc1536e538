import PandaGen.Kernel.Lemmas.Identity
import PandaGen.Kernel.Lemmas.Outcome

/-!
# The address spaces of a session

What a session with the kernel does to the address spaces is a session with their manager.
-/

namespace PandaGen.Kernel

open Lib AddressSpaceManager Option List

namespace Session

open SimulatedKernel

variable {e : ExecutionId} {events : List MemoryEvent} {h : MemoryHistory} {w w' : Session} {orders : HashOrders}
  {t : TaskId}
  {reason : ExitReason}

/-! ## Sessions with the manager -/

def spawnEvents (k : SimulatedKernel) (ids : SpawnIds) (a : Answer) : List MemoryEvent :=
  if a.isErr then []
  else [(.create ids.space ids.execution k.currentTime, .space ⟨ids.space, k.addressSpaceManager.nextCapId⟩)]

def allocationEvents (k : SimulatedKernel) (spaceCap : AddressSpaceCap) (region : MemoryRegion) (e : ExecutionId) :
    Answer → List MemoryEvent
  | .region (.ok cap) => [(.allocate spaceCap region e k.currentTime, .region (.ok cap))]
  | _ => []

def memoryEvents (k : SimulatedKernel) (call : Call) (a : Answer) : List MemoryEvent :=
  match call with
  | .spawnTask ids _ => spawnEvents k ids a
  | .spawnTaskWithIdentity ids _ _ _ _ _ => spawnEvents k ids a
  | .terminateTask _ taskId _ =>
    (k.taskToIdentity[taskId]?.map fun e => (MemoryCall.destroy e k.currentTime, MemoryAnswer.destroyed)).toList
  | .createAddressSpace spaceId e =>
    match a with
    | .space (.ok cap) => [(.create spaceId e k.currentTime, .space cap)]
    | _ => []
  | .allocateRegion r cap size p b e => allocationEvents k cap ⟨r, size, p, b⟩ e a
  | .allocateRegionOp r cap size p b e => allocationEvents k cap ⟨r, size, p, b⟩ e a
  | .accessRegion cap kind e =>
    match a with
    | .access r => [(.access cap kind e k.currentTime, .checked r)]
    | _ => []
  | .activateAddressSpace drawn e =>
    match a with
    | .access r => [(.activate drawn e k.currentTime, .checked r)]
    | _ => []
  | _ => []

def memoryTrace (w : Session) (tr : Trace) : List MemoryEvent :=
  machine.observe (fun w call a => memoryEvents w.kernel call a) w tr

def Call.space : Call → Option AddressSpaceId
  | .createAddressSpace spaceId _ => some spaceId
  | call => call.drawn.map SpawnIds.space

def FreshMemory (k : SimulatedKernel) (call : Call) : Prop :=
  (∀ s ∈ call.space, s ∉ loggedSpaces k.addressSpaceManager.auditLog) ∧
    ∀ allocation ∈ call.allocation,
      allocation.2.1.regionId ∉ loggedRegions k.addressSpaceManager.auditLog

instance (k : SimulatedKernel) (call : Call) : Decidable (FreshMemory k call) := by
  unfold FreshMemory
  infer_instance

abbrev MemorySession := machine.Run fun w call _ => FreshMemory w.kernel call

abbrev ManagerRun := AddressSpaceManager.machine.Run fun m call _ => m.Fresh call

inductive Shown (k : SimulatedKernel) : Call → List MemoryEvent → SimulatedKernel → Prop
  | nothing {call k'} (same : k'.addressSpaceManager = k.addressSpaceManager) : Shown k call [] k'
  | destroyed {orders t reason e k'} (task : k.taskToIdentity[t]? = some e)
      (manager : k'.addressSpaceManager = k.addressSpaceManager.destroyAddressSpace e k.currentTime) :
      Shown k (.terminateTask orders t reason) [(.destroy e k.currentTime, .destroyed)] k'
  | made {call c answer k'} (kind : ∀ e now, c ≠ .destroy e now) (fresh : k.addressSpaceManager.Fresh c)
      (performed : k.addressSpaceManager.perform c = some (answer, k'.addressSpaceManager)) :
      Shown k call [(c, answer)] k'

variable {k k' : SimulatedKernel} {w w0 w1 : Session} {call : Call} {a : Answer}

theorem memoryEvents_of_drawn {ids} (h : call.drawn = some ids) : memoryEvents k call a = spawnEvents k ids a := by
  cases call <;> cases h <;> rfl

theorem memoryEvents_of_allocation {cap region} (h : call.allocation = some (cap, region, e)) :
    memoryEvents k call a = allocationEvents k cap region e a := by
  cases call <;> cases h <;> rfl

theorem memoryEvents_eq_nil (h : call.isBookkeeping = true ∨ call.isTimed = true ∨ call.charge.isSome = true) :
    memoryEvents k call a = [] := by
  cases call <;> first | rfl | simp [Call.isBookkeeping, Call.isTimed, Call.charge] at h

theorem space_of_drawn {ids} (h : call.drawn = some ids) : call.space = some ids.space := by
  cases call <;> cases h <;> rfl

theorem Outcome.shown (h : Outcome k call a k') (hfresh : FreshMemory k call) :
    Shown k call (memoryEvents k call a) k' := by
  have hmailed : ∀ {k'}, Mailed k k' → k'.addressSpaceManager = k.addressSpaceManager := by
    rintro k' ⟨_, ⟨_, _, _, _, _, rfl⟩, -, ⟨_, _, _, rfl⟩⟩
    rfl
  cases h with
  | created | updated | opened => exact .nothing rfl
  | bookkept kind kept =>
    rw [memoryEvents_eq_nil (.inl kind)]
    exact .nothing kept.addressSpaceManager
  | timed kind loop =>
    rw [memoryEvents_eq_nil (.inr (.inl kind))]
    exact .nothing (loop loopRule_passed).addressSpaceManager
  | charged kind _ consumed =>
    rw [memoryEvents_eq_nil (.inr (.inr (by rw [kind]; rfl)))]
    obtain ⟨_, _, _, _, _, rfl⟩ := consumed.accounting
    exact .nothing rfl
  | refused spawn refused =>
    obtain ⟨ids, hdrawn⟩ := isSome_iff_exists.mp spawn
    rw [memoryEvents_of_drawn hdrawn, spawnEvents, if_pos refused]
    exact .nothing rfl
  | @spawned _ _ ids _ _ _ _ drawn accepted admitted =>
    obtain ⟨_, cap, _, -, hcreate, rfl⟩ := admitTask_parts admitted
    rw [memoryEvents_of_drawn drawn, spawnEvents, if_neg (Bool.eq_false_iff.mp accepted),
      ← (AddressSpaceManager.createAddressSpace_eq_some hcreate).1]
    exact .made (by simp) (hfresh.1 _ (space_of_drawn drawn)) (by rw [AddressSpaceManager.perform, hcreate]; rfl)
  | @terminated orders t reason =>
    obtain ⟨_, _, _, heq, -⟩ := terminateTaskWithReason_parts k orders t reason
    rw [heq, memoryEvents]
    cases htask : k.taskToIdentity[t]? with
    | none => exact .nothing rfl
    | some e => exact .destroyed htask rfl
  | @sent orders c m _ _ call => exact .nothing (hmailed ((sendMessage_mailed orders k c m).of_call call))
  | @received orders c _ _ call => exact .nothing (hmailed ((receiveMessage_mailed orders k c).of_call call))
  | space created => exact .made (by simp) (hfresh.1 _ rfl) (by rw [AddressSpaceManager.perform, created]; rfl)
  | @allocated _ _ _ _ r _ kind allocated =>
    have hmanager := allocated.manager
    rw [memoryEvents_of_allocation kind]
    cases r with
    | error => exact .nothing hmanager
    | ok cap' =>
      exact .made (by simp) (hfresh.2 _ kind) (by rw [AddressSpaceManager.perform, hmanager]; rfl)
  | accessed call | activated call => exact .made (by simp) trivial (by rw [AddressSpaceManager.perform, call]; rfl)

theorem Shown.managerRun (h : Shown k call events k') :
    ManagerRun k.addressSpaceManager events k'.addressSpaceManager := by
  cases h with
  | nothing same => exact same ▸ .nil
  | destroyed _ manager => exact .cons (by rw [manager]; rfl) trivial .nil
  | made _ fresh performed => exact .cons performed fresh .nil

/-! ## Spaces and their owners -/

open MemoryHistory

inductive Ownership (k : SimulatedKernel) (h : MemoryHistory) : Call → MemoryHistory → Prop
  | same {call h'} (issued : h'.issued = h.issued) (destroyed : h'.destroyed = h.destroyed) : Ownership k h call h'
  | issued {call h' c e} (fresh : c.spaceId ∉ h.created) (issued : h'.issued = h.issued ++ [(c, e)])
      (destroyed : h'.destroyed = h.destroyed) : Ownership k h call h'
  | released {orders t reason e h'} (task : k.taskToIdentity[t]? = some e) (issued : h'.issued = h.issued)
      (destroyed : h'.destroyed = h.destroyed ++ (h.current e).toList) :
      Ownership k h (.terminateTask orders t reason) h'

theorem Shown.ownership (hs : Shown k call events k')
    (ha : Agrees h k.addressSpaceManager) : Ownership k h call (events.foldl after h) := by
  cases hs with
  | nothing => exact .same rfl rfl
  | destroyed task =>
    rw [foldl_cons, foldl_nil, after_destroy]
    exact .released task rfl rfl
  | made kind fresh performed =>
    rw [foldl_cons, foldl_nil]
    generalize k'.addressSpaceManager = m' at performed
    cases AddressSpaceManager.perform_effect performed with
    | created =>
      have hfresh : _ ∉ AddressSpaceManager.loggedSpaces k.addressSpaceManager.auditLog := fresh
      rw [ha.loggedSpaces] at hfresh
      rw [after_create]
      exact .issued (c := ⟨_, _⟩) hfresh rfl rfl
    | allocated =>
      rw [after_allocate]
      exact .same rfl rfl
    | refused =>
      rw [after_refused]
      exact .same rfl rfl
    | quiet =>
      rw [after_checked]
      exact .same rfl rfl
    | destroyed => exact absurd rfl (kind _ _)

theorem Agrees.foldl_after {m m'} (ha : Agrees h m) (hrun : ManagerRun m events m') :
    Agrees (events.foldl after h) m' := by
  induction hrun generalizing h with
  | nil => exact ha
  | cons hs hfresh _ ih => exact ih (ha.step hfresh hs)

def Ended (w : Session) (e : ExecutionId) : Prop :=
  e ∈ w.drawnExecutions ∧ ∀ t : TaskId, w.kernel.taskToIdentity[t]? ≠ some e

theorem Ended.step (h : w.Ended e) (hs : machine.step w call = some (a, w')) : w'.Ended e := by
  obtain ⟨hfresh, -, -, hexecutions⟩ := step_perform hs
  refine ⟨hexecutions ▸ mem_append_right _ h.1, fun t ht => ?_⟩
  obtain ht | ⟨ids, hids, rfl⟩ := (step_outcome hs).task_origin ht
  · exact h.2 t ht
  · exact (hfresh ids hids).2 h.1

theorem ended_of_terminateTask (hw : w.Identified) (ht : w.kernel.taskToIdentity[t]? = some e)
    (hs : machine.step w (.terminateTask orders t reason) = some (a, w')) : w'.Ended e := by
  obtain ⟨-, hperform, -, hexecutions⟩ := step_perform hs
  refine ⟨hexecutions ▸ mem_append_right _ (hw.task t e ht), fun u hu => ?_⟩
  obtain ⟨_, _, _, heq, -⟩ := terminateTaskWithReason_parts w.kernel orders t reason
  have hkernel : w.kernel.terminateTaskWithReason orders t reason = w'.kernel :=
    congrArg Prod.snd (some.inj hperform)
  rw [← hkernel, heq, BTreeMap.getElem?_erase] at hu
  split at hu
  · cases hu
  · rename_i hne
    exact hne (hw.distinct t u e ht hu)

/-- The tables, the identities and the owners are in step: a space that was destroyed belonged to an execution
whose task has ended. -/
structure Tracked (h : MemoryHistory) (w : Session) : Prop where
  agrees : Agrees h w.kernel.addressSpaceManager
  identified : w.Identified
  owned : ∀ cap e, (cap, e) ∈ h.issued → cap.spaceId ∈ h.destroyed → w.Ended e

theorem tracked_start (setup) : Tracked .empty (start setup) where
  agrees := by
    rw [start, setup.boot_eq]
    exact agrees_new
  identified := identified_start setup
  owned _ _ hmem := by cases hmem

theorem Ownership.owned {h'} (ho : Ownership w.kernel h call h') (ht : Tracked h w)
    (hs : machine.step w call = some (a, w')) :
    ∀ cap e, (cap, e) ∈ h'.issued → cap.spaceId ∈ h'.destroyed → w'.Ended e := by
  intro cap e hissued hdestroyed
  cases ho with
  | same issued destroyed =>
    rw [issued] at hissued
    rw [destroyed] at hdestroyed
    exact (ht.owned cap e hissued hdestroyed).step hs
  | issued fresh issued destroyed =>
    rw [issued] at hissued
    rw [destroyed] at hdestroyed
    rcases mem_append.mp hissued with hold | hnew
    · exact (ht.owned cap e hold hdestroyed).step hs
    · cases mem_singleton.mp hnew
      exact absurd (ht.agrees.destroyed_created _ hdestroyed) fresh
  | released task issued destroyed =>
    rw [issued] at hissued
    rw [destroyed] at hdestroyed
    rcases mem_append.mp hdestroyed with hold | hnew
    · exact (ht.owned cap e hissued hold).step hs
    · obtain ⟨cap', hmem, hspace⟩ := ht.agrees.current_issued _ _ (mem_toList.mp hnew)
      obtain rfl := ht.agrees.owner_unique hmem hissued hspace
      exact ended_of_terminateTask ht.identified task hs

theorem Tracked.step (ht : Tracked h w) (hs : machine.step w call = some (a, w')) (hfresh : FreshMemory w.kernel call) :
    Tracked ((memoryEvents w.kernel call a).foldl after h) w' :=
  let hshown := (step_outcome hs).shown hfresh
  ⟨Agrees.foldl_after ht.agrees hshown.managerRun, ht.identified.step hs, (hshown.ownership ht.agrees).owned ht hs⟩

structure Released (e : ExecutionId) (s : Option AddressSpaceId) (h : MemoryHistory) (w : Session) : Prop where
  agrees : Agrees h w.kernel.addressSpaceManager
  ended : w.Ended e
  created : ∀ x ∈ s, x ∈ h.created
  destroyed : ∀ cap, (cap, e) ∈ h.issued → (cap.spaceId ∈ h.destroyed ↔ s = some cap.spaceId)

theorem Tracked.released (ht : Tracked h w) (htask : w.kernel.taskToIdentity[t]? = some e)
    (hs : machine.step w (.terminateTask orders t reason) = some (a, w')) :
    Released e (h.current e) ((memoryEvents w.kernel (.terminateTask orders t reason) a).foldl after h) w' := by
  have hafter : (memoryEvents w.kernel (.terminateTask orders t reason) a).foldl after h = { h with
        current := Function.update h.current e none
        destroyed := h.destroyed ++ (h.current e).toList } := by
    rw [memoryEvents, htask]
    exact after_destroy h e w.kernel.currentTime
  have hagrees := (ht.step hs ⟨by simp [Call.space, Call.drawn], by simp [Call.allocation]⟩).agrees
  refine ⟨hagrees, ended_of_terminateTask ht.identified htask hs, ?_, ?_⟩
  · rw [hafter]
    exact fun x hx => ht.agrees.current_created hx
  · rw [hafter]
    intro cap hmem
    have halive : cap.spaceId ∉ h.destroyed := fun hd => (ht.owned cap e hmem hd).2 t htask
    simp [halive, mem_toList]

theorem Released.step {s} (hr : Released e s h w) (hs : machine.step w call = some (a, w'))
    (hfresh : FreshMemory w.kernel call) : Released e s ((memoryEvents w.kernel call a).foldl after h) w' := by
  have hshown := (step_outcome hs).shown hfresh
  have hagrees := Agrees.foldl_after hr.agrees hshown.managerRun
  have hownership := hshown.ownership hr.agrees
  generalize (memoryEvents w.kernel call a).foldl after h = h' at hagrees hownership
  have hsub : ∀ x ∈ h.created, x ∈ h'.created := by
    intro x hx
    cases hownership with
    | same issued | released _ issued => rwa [MemoryHistory.created, issued]
    | issued _ issued =>
      rw [MemoryHistory.created, issued, map_append]
      exact mem_append_left _ hx
  refine ⟨hagrees, hr.ended.step hs, fun x hx => hsub x (hr.created x hx), fun cap hmem => ?_⟩
  cases hownership with
  | same issued destroyed =>
    rw [issued] at hmem
    rw [destroyed]
    exact hr.destroyed cap hmem
  | issued fresh issued destroyed =>
    rw [issued] at hmem
    rw [destroyed]
    rcases mem_append.mp hmem with hold | hnew
    · exact hr.destroyed cap hold
    · cases mem_singleton.mp hnew
      exact iff_of_false (fun hd => fresh (hr.agrees.destroyed_created _ hd)) fun hc => fresh (hr.created _ hc)
  | released task issued destroyed =>
    -- the space that goes belongs to another execution, since `e` has no task
    rw [issued] at hmem
    rw [destroyed, mem_append, hr.destroyed cap hmem]
    refine or_iff_left fun hnew => ?_
    obtain ⟨cap', hmem', hspace⟩ := hr.agrees.current_issued _ _ (mem_toList.mp hnew)
    obtain rfl := hr.agrees.owner_unique hmem' hmem hspace
    exact hr.ended.2 _ task

theorem released_of_run {setup tr tr' w0 w1} (hbefore : MemorySession (start setup) tr w0)
    (htask : w0.kernel.taskToIdentity[t]? = some e)
    (hs : machine.step w0 (.terminateTask orders t reason) = some (a, w1)) (hafter : MemorySession w1 tr' w) :
    Released e w0.kernel.addressSpaceManager.executionToSpace[e]?
      (of (memoryTrace (start setup) (tr ++ (.terminateTask orders t reason, a) :: tr'))) w := by
  have htracked : Tracked (of (memoryTrace (start setup) tr)) w0 :=
    hbefore.invariantObserved (P := Tracked) (fun _ _ _ _ _ ht hs hfresh => ht.step hs hfresh) _ (tracked_start setup)
  have htrace : memoryTrace (start setup) (tr ++ (.terminateTask orders t reason, a) :: tr') =
      memoryTrace (start setup) tr ++
        (memoryEvents w0.kernel (.terminateTask orders t reason) a ++ memoryTrace w1 tr') := by
    rw [memoryTrace, hbefore.observe_append, Machine.observe, hs]
    rfl
  rw [of, htrace, foldl_append, foldl_append, htracked.agrees.current]
  exact hafter.invariantObserved (P := Released e _) (fun _ _ _ _ _ hr hs hfresh => hr.step hs hfresh) _
    (htracked.released htask hs)

end Session

end PandaGen.Kernel
