import PandaGen.Kernel.Lemmas.MemoryTrace

/-!
# The life of memory capabilities
-/

namespace PandaGen.Kernel

open Lib AddressSpaceManager

/-! ## Memory isolation -/

namespace AddressSpaceManager

variable {tr : List MemoryEvent} {m : AddressSpaceManager}

/-- Access and allocation need the very capability that was issued to the caller, for a space that was not
destroyed since. Identifiers of spaces and regions are unique. -/
theorem access_iff_granted (hrun : machine.Run (fun m call _ => m.Fresh call) .new tr m) :
    (∀ cap kind caller now, (∃ m', (accessRegion cap kind caller now).call m = some (.ok (), m')) ↔
      ∃ spaceCap region t, (.allocate spaceCap region caller t, .region (.ok cap)) ∈ tr ∧
        cap.spaceId ∉ (MemoryHistory.of tr).destroyed ∧ region.permissions.allows kind = true) ∧
    ∀ cap region caller now cap' m', (allocateRegion cap region caller now).call m = some (.ok cap', m') →
      (∃ s t, (.create s caller t, .space cap) ∈ tr) ∧ cap.spaceId ∉ (MemoryHistory.of tr).destroyed := by
  have hagrees := MemoryHistory.agrees_of_run hrun
  constructor
  · intro cap kind caller now
    have haccess : m.Accessible cap kind caller ↔ ∃ spaceCap region t,
        (.allocate spaceCap region caller t, .region (.ok cap)) ∈ tr ∧
          cap.spaceId ∉ (MemoryHistory.of tr).destroyed ∧ region.permissions.allows kind = true := by
      rw [hagrees.accessible_iff]
      simp only [MemoryHistory.mem_allocated]
      constructor
      · rintro ⟨region, ⟨spaceCap, t, hmem⟩, hlive, hallows⟩
        exact ⟨spaceCap, region, t, hmem, hlive, hallows⟩
      · rintro ⟨spaceCap, region, t, hmem, hlive, hallows⟩
        exact ⟨region, ⟨spaceCap, t, hmem⟩, hlive, hallows⟩
    rw [← haccess]
    exact accessRegion_ok_iff
  · intro cap region caller now cap' m' hcall
    have hok := ((allocateRegion_post m cap region caller now).of_call hcall).1
    rw [hagrees.allocatable_iff, MemoryHistory.mem_issued] at hok
    exact hok

theorem access_iff_granted_two : ∃ (tr : List MemoryEvent) (m : AddressSpaceManager) (cap cap' : MemoryRegionCap),
    machine.Run (fun m call _ => m.Fresh call) .new tr m ∧ tr.length = 5 ∧
      (∃ m', (accessRegion cap' .read ⟨2⟩ 9).call m = some (.ok (), m')) ∧
      ¬ (∃ m', (accessRegion cap' .write ⟨2⟩ 9).call m = some (.ok (), m')) ∧
      ¬ (∃ m', (accessRegion cap .read ⟨1⟩ 9).call m = some (.ok (), m')) := by
  obtain ⟨_, m, hrun, rfl⟩ : ∃ tr m, machine.Run (fun m call _ => m.Fresh call) .new tr m ∧
      tr = [(.create ⟨1⟩ ⟨1⟩ 0, .space ⟨⟨1⟩, 1⟩), (.create ⟨2⟩ ⟨2⟩ 0, .space ⟨⟨2⟩, 2⟩),
        (.allocate ⟨⟨1⟩, 1⟩ ⟨⟨1⟩, 4096, ⟨true, true, false⟩, .anonymous⟩ ⟨1⟩ 0, .region (.ok ⟨⟨1⟩, ⟨1⟩, 3⟩)),
        (.allocate ⟨⟨2⟩, 2⟩ ⟨⟨2⟩, 4096, ⟨true, false, false⟩, .anonymous⟩ ⟨2⟩ 0, .region (.ok ⟨⟨2⟩, ⟨2⟩, 4⟩)),
        (.destroy ⟨1⟩ 0, .destroyed)] :=
    Machine.exists_run [.create ⟨1⟩ ⟨1⟩ 0, .create ⟨2⟩ ⟨2⟩ 0,
      .allocate ⟨⟨1⟩, 1⟩ ⟨⟨1⟩, 4096, ⟨true, true, false⟩, .anonymous⟩ ⟨1⟩ 0,
      .allocate ⟨⟨2⟩, 2⟩ ⟨⟨2⟩, 4096, ⟨true, false, false⟩, .anonymous⟩ ⟨2⟩ 0, .destroy ⟨1⟩ 0] (by decide +kernel)
  have hiff := (access_iff_granted hrun).1
  refine ⟨_, m, ⟨⟨1⟩, ⟨1⟩, 3⟩, ⟨⟨2⟩, ⟨2⟩, 4⟩, hrun, rfl, ?_, ?_, ?_⟩
  · rw [hiff]
    exact ⟨⟨⟨2⟩, 2⟩, ⟨⟨2⟩, 4096, ⟨true, false, false⟩, .anonymous⟩, 0, by decide, by decide, rfl⟩
  · rw [hiff]
    rintro ⟨spaceCap, region, t, hmem, -, hallows⟩
    have hregion : region = ⟨⟨2⟩, 4096, ⟨true, false, false⟩, .anonymous⟩ := by
      simp at hmem
      exact hmem.2.1
    subst hregion
    cases hallows
  · rw [hiff]
    rintro ⟨spaceCap, region, t, -, hlive, -⟩
    exact hlive (by decide)

end AddressSpaceManager

namespace Session

variable {setup : Setup} {tr tr' : Trace} {w₀ w₁ w : Session} {orders : HashOrders} {t : TaskId}
  {reason : ExitReason} {e : ExecutionId} {a : Answer}

/-- After the task of `e` has ended, a capability that was ever issued to `e` is refused by all calls if it is for
the space that `e` was given last. If it is for another one, the manager still allocates with it, and still grants
every access that the region permits. -/
theorem capability_dead_iff_last (hbefore : MemorySession (start setup) tr w₀)
    (htask : w₀.kernel.taskToIdentity[t]? = some e)
    (hend : machine.step w₀ (.terminateTask orders t reason) = some (a, w₁)) (hafter : MemorySession w₁ tr' w) :
    let history := MemoryHistory.of (memoryTrace (start setup) (tr ++ (.terminateTask orders t reason, a) :: tr'))
    let last := w₀.kernel.addressSpaceManager.executionToSpace[e]?
    (∀ cap, (cap, e) ∈ history.issued →
      (last = some cap.spaceId → ∀ call region caller a k', call.allocation = some (cap, region, caller) →
        perform w.kernel call = some (a, k') → a.isErr = true) ∧
      (last ≠ some cap.spaceId → ∀ region now error m',
        (allocateRegion cap region e now).call w.kernel.addressSpaceManager ≠
          some (.error error, m'))) ∧
    ∀ cap region, (cap, region, e) ∈ history.allocated →
      ∀ kind caller, (∃ k', perform w.kernel (.accessRegion cap kind caller) = some (.access (.ok ()), k')) ↔
        caller = e ∧ last ≠ some cap.spaceId ∧ region.permissions.allows kind = true := by
  have hreleased := released_of_run hbefore htask hend hafter
  intro history last
  have hagrees := hreleased.agrees
  refine ⟨fun cap hissued => ⟨fun hlast call region caller a k' hcall hperform => ?_,
    fun hlast region now error m' hcall => ?_⟩, fun cap region hallocated kind caller => ?_⟩
  · have hdead := (hreleased.destroyed cap hissued).mpr hlast
    obtain ⟨r, rfl, hr⟩ := allocated_of_perform hcall hperform
    cases r with
    | error => rfl
    | ok cap' =>
      have hok := ((allocateRegion_post _ _ _ _ _).of_call hr.manager).1
      exact absurd hdead (hagrees.allocatable_iff.mp hok).2
  · have hlive : cap.spaceId ∉ history.destroyed := fun hd => hlast ((hreleased.destroyed cap hissued).mp hd)
    have hrefused := ((allocateRegion_post _ cap region e now).of_call hcall).1
    exact hrefused (hagrees.allocatable_iff.mpr ⟨hissued, hlive⟩)
  · obtain ⟨-, spaceCap, hissued, hspace⟩ := hagrees.allocated _ hallocated
    have hdestroyed := hreleased.destroyed spaceCap hissued
    rw [hspace] at hdestroyed
    rw [perform_accessRegion_ok_iff, hagrees.accessible_iff, Ne, ← hdestroyed]
    constructor
    · rintro ⟨region', hallocated', hlive, hallows⟩
      have hid := (hagrees.allocated _ hallocated).1.symm.trans (hagrees.allocated _ hallocated').1
      cases List.inj_on_of_nodup_map hagrees.distinct hallocated hallocated' hid
      exact ⟨rfl, hlive, hallows⟩
    · rintro ⟨rfl, hlive, hallows⟩
      exact ⟨region, hallocated, hlive, hallows⟩

def readWrite : MemoryPerms := ⟨true, true, false⟩

/-- A task makes a space of its own and allocates a region in it. After it has ended, nobody reads the region or
allocates in the space, and its first space is still there. -/
theorem capability_dead_iff_last_two : ∃ (w₀ w₁ w : Session) (tr tr' : Trace) (a : Answer),
    MemorySession (start .default) tr w₀ ∧ w₀.kernel.taskToIdentity[(⟨1⟩ : TaskId)]? = some ⟨1⟩ ∧
      machine.step w₀ (.terminateTask .listed ⟨1⟩ .normal) = some (a, w₁) ∧ MemorySession w₁ tr' w ∧ tr'.length = 1 ∧
      (∀ region caller a k', perform w.kernel (.allocateRegionOp region ⟨⟨5⟩, 2⟩ 1 readWrite .anonymous caller) =
        some (a, k') → a.isErr = true) ∧
      ¬ (∃ k', perform w.kernel (.accessRegion ⟨⟨5⟩, ⟨9⟩, 3⟩ .read ⟨1⟩) = some (.access (.ok ()), k')) ∧
      ∀ region now error m', (allocateRegion ⟨⟨1⟩, 1⟩ region ⟨1⟩ now).call
        w.kernel.addressSpaceManager ≠ some (.error error, m') := by
  obtain ⟨tr, w₀, hbefore, htask, hlast, a, w₁, hend, tr', w, hrun', hlength, hissued, hissued', hallocated⟩ :
      ∃ tr w₀, MemorySession (start .default) tr w₀ ∧ w₀.kernel.taskToIdentity[(⟨1⟩ : TaskId)]? = some ⟨1⟩ ∧
      w₀.kernel.addressSpaceManager.executionToSpace[(⟨1⟩ : ExecutionId)]? = some ⟨5⟩ ∧
      ∃ a w₁, machine.step w₀ (.terminateTask .listed ⟨1⟩ .normal) = some (a, w₁) ∧
      ∃ tr' w, machine.exec (fun w call _ => decide (FreshMemory w.kernel call)) w₁ [.spawn 2] = some (tr', w) ∧
      tr'.length = 1 ∧
      let history := MemoryHistory.of (memoryTrace (start .default)
        (tr ++ (.terminateTask .listed ⟨1⟩ .normal, a) :: tr'))
      (⟨⟨5⟩, 2⟩, ⟨1⟩) ∈ history.issued ∧ (⟨⟨1⟩, 1⟩, ⟨1⟩) ∈ history.issued ∧
      (⟨⟨5⟩, ⟨9⟩, 3⟩, ⟨⟨9⟩, 4096, readWrite, .anonymous⟩, ⟨1⟩) ∈ history.allocated :=
    Machine.exists_run [.spawn 1, .createAddressSpace ⟨5⟩ ⟨1⟩,
      .allocateRegion ⟨9⟩ ⟨⟨5⟩, 2⟩ 4096 readWrite .anonymous ⟨1⟩] (by decide +kernel)
  have hafter := Machine.exec_guarded hrun'
  have hdead := capability_dead_iff_last hbefore htask hend hafter
  refine ⟨w₀, w₁, w, tr, tr', a, hbefore, htask, hend, hafter, hlength, ?_, ?_, ?_⟩
  · exact fun region caller a k' => (hdead.1 _ hissued).1 hlast _ _ caller a k' rfl
  · rw [hdead.2 _ _ hallocated]
    exact fun h => h.2.1 hlast
  · exact (hdead.1 _ hissued').2 (by rw [hlast]; decide)

/-- An execution is given a second space. After its task has ended, it still allocates in the first one, by both
entry points, and still reads a region there. -/
theorem capability_outlives_task : ∃ (tr : Trace) (w : Session) (a : Answer) (w₁ w₂ w₃ w₄ : Session),
    MemorySession (start .default) tr w ∧ w.kernel.taskToIdentity[(⟨1⟩ : TaskId)]? = some ⟨1⟩ ∧
      ((⟨⟨5⟩, 2⟩ : AddressSpaceCap), (⟨1⟩ : ExecutionId)) ∈
        (MemoryHistory.of (memoryTrace (start .default) tr)).issued ∧
      machine.step w (.terminateTask .listed ⟨1⟩ .normal) = some (a, w₁) ∧
      machine.step w₁ (.allocateRegion ⟨10⟩ ⟨⟨5⟩, 2⟩ 4096 readWrite .anonymous ⟨1⟩) =
        some (.region (.ok ⟨⟨5⟩, ⟨10⟩, 5⟩), w₂) ∧
      machine.step w₂ (.allocateRegionOp ⟨11⟩ ⟨⟨5⟩, 2⟩ 4096 readWrite .anonymous ⟨1⟩) =
        some (.region (.ok ⟨⟨5⟩, ⟨11⟩, 6⟩), w₃) ∧
      machine.step w₃ (.accessRegion ⟨⟨5⟩, ⟨9⟩, 3⟩ .read ⟨1⟩) = some (.access (.ok ()), w₄) := by
  simp only [exists_and_left]
  exact Machine.exists_run [.spawn 1, .createAddressSpace ⟨5⟩ ⟨1⟩,
    .allocateRegion ⟨9⟩ ⟨⟨5⟩, 2⟩ 4096 readWrite .anonymous ⟨1⟩, .createAddressSpace ⟨6⟩ ⟨1⟩] (by decide +kernel)

end Session

end PandaGen.Kernel
