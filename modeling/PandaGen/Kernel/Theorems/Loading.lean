import PandaGen.Kernel.Loader
import PandaGen.Kernel.Session

/-!
# Loading a program

The loader works on the kernel by calls that a session can make, so what holds of every session holds after a load.
-/

namespace PandaGen.Kernel.Session

open Lib Proc SimulatedKernel

variable {w : Session} {call : Call} {calls : List Call} {k : SimulatedKernel}

/-- The session has come to the kernel by calls of the list, the first ones in order. -/
def Makes (w : Session) (calls : List Call) (k : SimulatedKernel) : Prop :=
  ∃ tr w', machine.FreeRun w tr w' ∧ tr.map Prod.fst <+: calls ∧ w'.kernel = k

theorem Makes.nil : Makes w calls w.kernel := ⟨[], w, .nil, List.nil_prefix, rfl⟩

theorem Makes.cons {a w'} (hstep : machine.step w call = some (a, w')) (h : Makes w' calls k) :
    Makes w (call :: calls) k := by
  obtain ⟨tr, w'', hrun, hcalls, hk⟩ := h
  exact ⟨(call, a) :: tr, w'', .cons hstep trivial hrun, List.cons_prefix_cons.mpr ⟨rfl, hcalls⟩, hk⟩

/-- A method that begins with a call ends after it, or goes on from the session that the call leads to. -/
theorem step_of_bind {ε ε' α β : Type} {m : Proc SimulatedKernel ε α} {body : α → Proc SimulatedKernel ε' β} {f g r}
    (call : Call)
    (hfresh : ∀ ids ∈ call.drawn, ids.task ∉ w.drawnTasks ∧ ids.execution ∉ w.drawnExecutions)
    (hcall : perform w.kernel call = answer w.kernel m f) (h : (m.mapErr g >>= body).call w.kernel = some (r, k)) :
    ∃ a w', machine.step w call = some (a, w') ∧ (w'.kernel = k ∨ ∃ x, (body x).call w'.kernel = some (r, k)) := by
  rw [call_bind, call_mapErr] at h
  cases hm : m.call w.kernel with
  | none => simp [hm] at h
  | some answered =>
    obtain ⟨x, k'⟩ := answered
    rw [hm] at h
    refine ⟨f x, ⟨k', (call.drawn.map SpawnIds.task).toList ++ w.drawnTasks, call.executions ++ w.drawnExecutions⟩,
      ?_, ?_⟩
    · simp only [machine, if_pos hfresh, hcall, answer, hm]
      rfl
    · cases x with
      | error => exact .inl (congrArg Prod.snd (Option.some.inj h))
      | ok x => exact .inr ⟨x, h⟩

/-- A load spawns the task of the program, if the text is that of a program. -/
theorem loadExecutable_makes {ids e name data r}
    (hfresh : ids.task ∉ w.drawnTasks ∧ ids.execution ∉ w.drawnExecutions)
    (h : (loadExecutable ids e name data).call w.kernel = some (r, k)) : Makes w [.spawnTask ids ⟨name, []⟩] k := by
  refine post_or_panic.mp ?_ r k h
  simp only [loadExecutable, load, bind_assoc, pure_bind]
  rw [post_okOrPanic_bind]
  split
  · rw [post_ofExcept_bind]
    split
    · rw [post_ofExcept_bind]
      split
      · refine post_or_panic.mpr fun r k h => ?_
        obtain ⟨a, w', hstep, rfl | ⟨t, h⟩⟩ :=
          step_of_bind (.spawnTask ids ⟨name, []⟩) (by rintro _ ⟨⟩; exact hfresh) rfl h
        · exact .cons hstep .nil
        · have hkept : w'.kernel = k := by
            refine (post_or_panic (P := (w'.kernel = ·))).mp ?_ r k h
            rw [post_get_bind]
            split <;> exact .inr rfl
          exact .cons hstep (hkept ▸ .nil)
      · exact .inr .nil
    · exact .inr .nil
  · exact .inl rfl

def sectionCall (cap : AddressSpaceCap) (e : ExecutionId) : MemoryRegionId × Section → Call
  | (id, s) => .allocateRegion id cap s.size s.permissions.toMemoryPerms s.sectionType.backing e

theorem mapSections_makes {cap e sections r} (h : (mapSections cap e sections).call w.kernel = some (r, k)) :
    Makes w (sections.map (sectionCall cap e)) k := by
  induction sections generalizing w with
  | nil =>
    cases h
    exact .nil
  | cons first rest ih =>
    simp only [mapSections, mapSection, bind_assoc, pure_bind] at h
    obtain ⟨a, w', hstep, rfl | ⟨-, h⟩⟩ := step_of_bind (sectionCall cap e first) nofun rfl h
    · exact .cons hstep .nil
    · exact .cons hstep (ih h)

/-- The mapping of a program creates an address space, and then asks for a region for each section, up to the first
that is refused. -/
theorem mapProgramSections_makes {spaceId regionIds r} {program : LoadedProgram}
    (h : (mapProgramSections spaceId regionIds program).call w.kernel = some (r, k)) :
    ∃ cap, Makes w (.createAddressSpace spaceId program.executionId ::
      (program.sections.zipIdx.map fun (s, i) => (regionIds i, s)).map (sectionCall cap program.executionId)) k := by
  obtain ⟨a, w', hstep, rfl | ⟨cap, h⟩⟩ :=
    step_of_bind (.createAddressSpace spaceId program.executionId) nofun rfl h
  · exact ⟨⟨spaceId, 0⟩, .cons hstep .nil⟩
  · exact ⟨cap, .cons hstep (mapSections_makes h)⟩

end PandaGen.Kernel.Session
