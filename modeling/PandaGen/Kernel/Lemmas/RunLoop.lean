import PandaGen.Kernel.Lemmas.Effect

/-!
# The rule of the run loops

The run loops only move tasks between queues, let time pass and charge for it.
-/

namespace PandaGen.Kernel.SimulatedKernel

open Lib Option SimulatedKernel

variable {orders : HashOrders} {k k' : SimulatedKernel} {n ticks fuel steps : Nat}

theorem runUntilIdle_keeps {P : SimulatedKernel → Prop}
    (hP : ∀ {k k' duration}, P k → k.advanceTime orders duration = some k' → P k') (h : P k)
    (hk : k.runUntilIdle orders = some k') : P k' := by
  have hloop : ∀ n k, P k → runUntilIdleLoop orders n k = some k' → P k' := by
    intro n
    induction n with
    | zero =>
      intro k h hk
      cases hk
      exact h
    | succ n ih =>
      intro k h hk
      rw [runUntilIdleLoop] at hk
      split at hk
      · cases hk
        exact h
      · obtain ⟨k1, hadvance, hk⟩ := bind_eq_some_iff.mp hk
        exact ih k1 (hP h hadvance) hk
  exact hloop 1000 k h hk

section

variable {P : SimulatedKernel → Prop} {n' coreCount : Nat}

theorem stepQuantum_keeps {t quantum}
    (hP : ∀ {k n failed k'}, P k → k.executeTick orders t = some (n, failed, k') → P k') (h : P k)
    (hk : stepQuantum orders t quantum k = some k') : P k' := by
  induction quantum generalizing k with
  | zero =>
    cases hk
    exact h
  | succ quantum ih =>
    rw [stepQuantum] at hk
    split at hk
    · obtain ⟨⟨advanced, failed, k1⟩, htick, hk⟩ := bind_eq_some_iff.mp hk
      dsimp only at hk
      split at hk
      · cases hk
        exact hP h htick
      · exact ih (hP h htick) hk
    · cases hk
      exact h

theorem foldlM_settleTicked_keeps (hP : ∀ {k t k'}, P k → settleTicked orders k t = some k' → P k')
    {ticked : List SmpRuntime.Ticked} (h : P k) (hk : ticked.foldlM (settleTicked orders) k = some k') : P k' := by
  induction ticked generalizing k with
  | nil =>
    cases hk
    exact h
  | cons t ticked ih =>
    obtain ⟨k1, hsettle, hk⟩ := bind_eq_some_iff.mp hk
    exact ih (hP h hsettle) hk

variable (hP : ∀ {k smp n k'}, P k → k.smp = some smp → k.tickCores orders smp coreCount = some (n, k') → P k')
include hP

theorem runForTicksSmp_keeps (h : P k) (hk : runForTicksSmp orders coreCount ticks n k = some (n', k')) : P k' := by
  induction ticks generalizing n k with
  | zero =>
    cases hk
    exact h
  | succ ticks ih =>
    rw [runForTicksSmp] at hk
    split at hk
    · rename_i smp hsmp
      split at hk
      · obtain ⟨⟨rounds, k1⟩, htick, hk⟩ := bind_eq_some_iff.mp hk
        exact ih (hP h hsmp htick) hk
      · cases hk
        exact h
    · cases hk
      exact h

theorem runForStepsSmp_keeps (h : P k) (hk : runForStepsSmp orders coreCount steps n k = some (n', k')) : P k' := by
  induction steps generalizing n k with
  | zero =>
    cases hk
    exact h
  | succ steps ih =>
    rw [runForStepsSmp] at hk
    split at hk
    · obtain ⟨⟨rounds, k1⟩, htick, hk⟩ := bind_eq_some_iff.mp hk
      exact ih (runForTicksSmp_keeps hP h htick) hk
    · cases hk
      exact h

end

structure LoopRule (R : SimulatedKernel → SimulatedKernel → Prop) : Prop where
  refl : ∀ k, R k k
  trans : ∀ {k k' k''}, R k k' → R k' k'' → R k k''
  schedule : ∀ k scheduler smp, R k { k with scheduler, smp }
  advance : ∀ {k orders duration k'}, k.advanceTime orders duration = some k' → R k k'
  charge : ∀ {k orders t ticks failed k'}, k.chargeCpu orders t ticks = some (failed, k') → R k k'

namespace LoopRule

variable {t : TaskId} {n' coreCount : Nat} {R : SimulatedKernel → SimulatedKernel → Prop}

section

variable (hR : LoopRule R)
include hR

theorem executeTick {failed} (h : k.executeTick orders t = some (n, failed, k')) : R k k' := by
  obtain ⟨k1, hadvance, h⟩ := bind_eq_some_iff.mp h
  obtain ⟨⟨failed, k2⟩, hcharge, ⟨⟩⟩ := bind_eq_some_iff.mp h
  exact hR.trans (hR.advance hadvance) (hR.charge hcharge)

theorem sleep {duration} (h : k.sleep orders duration = some k') : R k k' := by
  obtain ⟨ticks, -, h⟩ := bind_eq_some_iff.mp h
  obtain ⟨wakeTick, -, h⟩ := bind_eq_some_iff.mp h
  refine hR.trans ?_ (hR.advance h)
  rw [blockCurrent]
  split
  · exact hR.schedule k _ _
  · exact hR.refl k

theorem runUntilIdle (h : k.runUntilIdle orders = some k') : R k k' :=
  runUntilIdle_keeps (P := R k) (fun hk hadvance => hR.trans hk (hR.advance hadvance)) (hR.refl k) h

/-! ## One core -/

theorem runQuantum {quantum n n'} (h : runQuantum orders t quantum ticks fuel n k = some (n', k')) : R k k' := by
  induction fuel generalizing n k with
  | zero => cases h
  | succ fuel ih =>
    rw [runQuantum] at h
    split at h
    · obtain ⟨⟨advanced, failed, k1⟩, htick, h⟩ := bind_eq_some_iff.mp h
      dsimp only at h
      split at h
      · cases h
        exact hR.executeTick htick
      · exact hR.trans (hR.executeTick htick) (ih h)
    · cases h
      exact hR.refl _

theorem dequeueNext {next} (h : k.dequeueNext = (next, k')) : R k k' := by
  obtain rfl : { k with scheduler := k.scheduler.dequeueNext.2 } = k' := congrArg Prod.snd h
  exact hR.schedule k _ k.smp

theorem runForTicksLoop {rounds n} (h : runForTicksLoop orders ticks fuel rounds n k = some (n', k')) : R k k' := by
  induction rounds generalizing n k with
  | zero => cases h
  | succ rounds ih =>
    rw [runForTicksLoop] at h
    split at h
    · split at h
      · rename_i t k1 heq
        obtain ⟨⟨⟨taskTicks, consumed⟩, k2⟩, hquantum, h⟩ := bind_eq_some_iff.mp h
        refine hR.trans (hR.dequeueNext heq) (hR.trans (hR.runQuantum hquantum) (hR.trans ?_ (ih h)))
        split
        · exact hR.schedule k2 _ k2.smp
        · exact hR.refl k2
      · rename_i k1 heq
        cases h
        exact hR.dequeueNext heq
    · cases h
      exact hR.refl _

theorem stepQuantum {quantum} (h : stepQuantum orders t quantum k = some k') : R k k' :=
  stepQuantum_keeps (P := R k) (fun hk htick => hR.trans hk (hR.executeTick htick)) (hR.refl k) h

theorem runForStepsLoop (h : runForStepsLoop orders steps n k = some (n', k')) : R k k' := by
  induction steps generalizing n k with
  | zero =>
    cases h
    exact hR.refl _
  | succ steps ih =>
    rw [runForStepsLoop] at h
    split at h
    · split at h
      · rename_i t k1 heq
        obtain ⟨k2, hquantum, h⟩ := bind_eq_some_iff.mp h
        refine hR.trans (hR.dequeueNext heq) (hR.trans (hR.stepQuantum hquantum) (hR.trans ?_ (ih h)))
        split
        · exact hR.schedule k2 _ k2.smp
        · exact hR.refl k2
      · rename_i k1 heq
        exact hR.trans (hR.dequeueNext heq) (ih h)
    · cases h
      exact hR.refl _

theorem settleTicked {t} (h : settleTicked orders k t = some k') : R k k' := by
  obtain ⟨⟨cancelled, k1⟩, hcharge, ⟨⟩⟩ := bind_eq_some_iff.mp h
  refine hR.trans (hR.charge hcharge) ?_
  split
  · exact hR.schedule k1 k1.scheduler _
  · split
    · exact hR.schedule k1 k1.scheduler _
    · exact hR.refl k1

theorem tickCores {smp} (h : k.tickCores orders smp coreCount = some (n, k')) : R k k' := by
  obtain ⟨k1, hadvance, h⟩ := bind_eq_some_iff.mp h
  obtain ⟨k2, hsettle, ⟨⟩⟩ := bind_eq_some_iff.mp h
  refine hR.trans (hR.trans (hR.schedule k k.scheduler _) (hR.advance hadvance)) ?_
  exact foldlM_settleTicked_keeps (P := R k1) (fun hk hsettle => hR.trans hk (hR.settleTicked hsettle))
    (hR.schedule k1 k1.scheduler _) hsettle

/-! ## The entry points -/

theorem runForTicks (h : k.runForTicks orders fuel ticks = some (n, k')) : R k k' := by
  rw [SimulatedKernel.runForTicks] at h
  split at h
  · exact runForTicksSmp_keeps (P := R k) (fun hk _ htick => hR.trans hk (hR.tickCores htick)) (hR.refl k) h
  · exact hR.runForTicksLoop h

theorem runForSteps (h : k.runForSteps orders steps = some (n, k')) : R k k' := by
  rw [SimulatedKernel.runForSteps] at h
  split at h
  · exact runForStepsSmp_keeps (P := R k) (fun hk _ htick => hR.trans hk (hR.tickCores htick)) (hR.refl k) h
  · exact hR.runForStepsLoop h

theorem timed {call answer} (h : Session.Timed k call answer k') : R k k' := by
  cases h with
  | advanced h => exact hR.advance h
  | slept h => exact hR.sleep h
  | yielded => exact hR.schedule k _ _
  | ranTicks h => exact hR.runForTicks h
  | ranSteps h => exact hR.runForSteps h
  | idled h => exact hR.runUntilIdle h

end

end LoopRule

/-- A relation that the parts of a run loop keep, whatever a charge does to an account. -/
structure RunRule (R : SimulatedKernel → SimulatedKernel → Prop) : Prop where
  refl : ∀ k, R k k
  trans : ∀ {k k' k''}, R k k' → R k' k'' → R k k''
  schedule : ∀ k scheduler smp, R k { k with scheduler, smp }
  advance : ∀ {k orders duration k'}, k.advanceTime orders duration = some k' → R k k'
  used : ∀ {orders k k'}, Used orders k k' → R k k'

namespace RunRule

variable {R : SimulatedKernel → SimulatedKernel → Prop}

theorem loopRule (hR : RunRule R) : LoopRule R where
  refl := hR.refl
  trans := hR.trans
  schedule := hR.schedule
  advance := hR.advance
  charge {k orders t ticks failed k'} h := by
    rw [chargeCpu] at h
    split at h
    · rename_i e _
      obtain ⟨⟨r, k1⟩, hcall, ⟨⟩⟩ := bind_eq_some_iff.mp h
      exact hR.used ((tryConsume_consumed orders k e _).of_call hcall).used
    · cases h
      exact hR.refl k

theorem timed (hR : RunRule R) {call answer} (h : Session.Timed k call answer k') : R k k' := hR.loopRule.timed h

end RunRule

end PandaGen.Kernel.SimulatedKernel
