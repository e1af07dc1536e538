import PandaGen.Kernel.Lemmas.Budget

/-!
# Budgets
-/

namespace PandaGen.Kernel.Session

open Lib SimulatedKernel

variable {setup : Setup} {tr tr' : Trace} {w w' : Session} {e : ExecutionId}

/-- In every run whose edits by hand keep the limits, all accounts are within their limits, and a charged call fails
to return exactly where it overflows. -/
theorem within_budget_and_panics_iff
    (hrun : machine.Run (fun w call _ => KeepsBudgets w.kernel call) (start setup) tr w) :
    (∀ (e : ExecutionId) i, w.kernel.identityTable[e]? = some i → i.WithinBudget) ∧
      ∀ call, call.isCharged = true → (perform w.kernel call = none ↔ Overflows w.kernel call) := by
  refine ⟨?_, fun call hcall => perform_eq_none_iff hcall⟩
  have hstart : WithinBudgets (start setup).kernel := by
    rw [start, setup.boot_eq]
    intro e i hi
    simp [withTickResolution] at hi
  exact hrun.invariantTrace (P := fun _ w => WithinBudgets w.kernel)
    (fun _ _ _ _ _ hw hs hkeeps => (step_accounts hs).withinBudgets hw hkeeps) [] hstart

def smallBudget : ResourceBudget := ⟨some 10, some 100, none, none, none, none⟩

def Call.giveSmallBudget : Call := .updateIdentity ⟨1⟩ fun i => i.withBudget smallBudget

theorem within_budget_and_panics_iff_used_up : ∃ (tr : Trace) (w : Session),
    machine.Run (fun w call _ => KeepsBudgets w.kernel call) (start .default) tr w ∧ tr.length = 3 ∧
      (∃ i, w.kernel.identityTable[(⟨1⟩ : ExecutionId)]? = some i ∧ i.usage.cpuTicks = 10 ∧ i.WithinBudget) ∧
      perform w.kernel (.tryConsumeCpuTicks .listed ⟨1⟩ 1) ≠ none := by
  obtain ⟨tr, w, hrun, hlength, i, hi, husage⟩ : ∃ tr w,
      machine.Run (fun w call _ => KeepsBudgets w.kernel call) (start .default) tr w ∧ tr.length = 3 ∧
      ∃ i, w.kernel.identityTable[(⟨1⟩ : ExecutionId)]? = some i ∧ i.usage.cpuTicks = 10 :=
    Machine.exists_run [.spawn 1, .giveSmallBudget, .tryConsumeCpuTicks .listed ⟨1⟩ 10] (by decide +kernel)
  obtain ⟨hwithin, hpanics⟩ := within_budget_and_panics_iff hrun
  refine ⟨tr, w, hrun, hlength, ⟨i, hi, husage, hwithin _ i hi⟩, ?_⟩
  rw [Ne, hpanics (.tryConsumeCpuTicks .listed ⟨1⟩ 1) rfl]
  rintro ⟨x, hx, -, i', hi', budget, hbudget, limit, hlimit, hsum, -⟩
  cases hx
  cases hi.symm.trans hi'
  dsimp only [ResourceUsage.amount] at hsum
  omega

/-- An identity that has used one of ten ticks asks for the largest number of them: the sum overflows. -/
theorem consume_largest_amount_panics : ∃ (tr : Trace) (w : Session),
    machine.Run (fun w call _ => KeepsBudgets w.kernel call) (start .default) tr w ∧
      machine.step w (.tryConsumeCpuTicks .listed ⟨1⟩ (2 ^ 64 - 1)) = none :=
  Machine.exists_run [.spawn 1, .giveSmallBudget, .tryConsumeCpuTicks .listed ⟨1⟩ 1] (by decide +kernel)

/-- Once an identity is cancelled, whatever calls follow: it stays cancelled, its usage rises in nothing but memory
and only if it allocates, and every other call that is charged to it returns an error and changes nothing. -/
theorem cancelled_refused_but_memory (hbefore : machine.FreeRun (start setup) tr w)
    (hcancelled : e ∈ w.kernel.cancelledIdentities)
    (hafter : machine.Run (fun _ call _ => call.edited ≠ some e) w tr' w') : e ∈ w'.kernel.cancelledIdentities ∧
      (∀ i', w'.kernel.identityTable[e]? = some i' → ∃ i, w.kernel.identityTable[e]? = some i ∧
        ∀ r, r ≠ .memoryUnits → i'.usage.amount r = i.usage.amount r) ∧
      ((∀ event ∈ tr', ∀ x ∈ event.1.allocation, x.2.2 ≠ e) →
        w'.kernel.identityTable[e]? = w.kernel.identityTable[e]?) ∧
      ∀ call, payer w'.kernel call = some e → ∃ a, perform w'.kernel call = some (a, w'.kernel) ∧ a.isErr = true := by
  have hidentified : w.Identified :=
    hbefore.invariantTrace (P := fun _ w => w.Identified) (fun _ _ _ _ _ hw hs _ => hw.step hs) []
      (identified_start setup)
  have hstays := hafter.invariantTrace (P := StaysCancelled e w.kernel.identityTable[e]?)
    (fun _ _ _ _ _ h hs hedited => h.step hs hedited) [] ⟨hidentified, hcancelled, .of_eq rfl, fun _ => rfl⟩
  exact ⟨hstays.cancelled, hstays.usage, hstays.entry, fun call hpayer => perform_refused hstays.cancelled hpayer⟩

/-- An identity asks for one tick too many and is cancelled. A packet is refused it, and then a storage operation. -/
theorem cancelled_refused_but_memory_packet : ∃ (tr tr' : Trace) (w w' : Session),
    machine.FreeRun (start .default) tr w ∧ (⟨1⟩ : ExecutionId) ∈ w.kernel.cancelledIdentities ∧
      machine.Run (fun _ call _ => call.edited ≠ some ⟨1⟩) w tr' w' ∧ tr'.length = 1 ∧
      w'.kernel.identityTable[(⟨1⟩ : ExecutionId)]? = w.kernel.identityTable[(⟨1⟩ : ExecutionId)]? ∧
      ∃ a, perform w'.kernel (.tryConsumeStorageOp .listed ⟨1⟩ .read) = some (a, w'.kernel) ∧ a.isErr = true := by
  obtain ⟨tr, w, hbefore, hcancelled, tr', w', hrun', hlength, hnone⟩ : ∃ tr w,
      machine.FreeRun (start .default) tr w ∧ (⟨1⟩ : ExecutionId) ∈ w.kernel.cancelledIdentities ∧
      ∃ tr' w', machine.exec (fun _ call _ => decide (call.edited ≠ some ⟨1⟩)) w
        [.tryConsumePacket .listed ⟨1⟩ .send] = some (tr', w') ∧ tr'.length = 1 ∧
        ∀ event ∈ tr', event.1.allocation = none :=
    Machine.exists_run [.spawn 1, .giveSmallBudget, .tryConsumeCpuTicks .listed ⟨1⟩ 11] (by decide +kernel)
  have hafter := Machine.exec_guarded hrun'
  obtain ⟨-, -, hentry, hrefused⟩ := cancelled_refused_but_memory hbefore hcancelled hafter
  refine ⟨tr, tr', w, w', hbefore, hcancelled, hafter, hlength, hentry ?_, hrefused _ rfl⟩
  intro event hevent x hx
  cases (hnone event hevent).symm.trans hx

/-- An identity asks for one tick too many and is cancelled. It then allocates memory by both entry points, and is
charged for it. -/
theorem cancelled_identity_allocates : ∃ (tr : Trace) (w w₁ w₂ : Session) (i i' : IdentityMetadata),
    machine.FreeRun (start .default) tr w ∧ (⟨1⟩ : ExecutionId) ∈ w.kernel.cancelledIdentities ∧
      machine.step w (.allocateRegion ⟨9⟩ ⟨⟨1⟩, 1⟩ 4096 ⟨true, true, false⟩ .anonymous ⟨1⟩) =
        some (.region (.ok ⟨⟨1⟩, ⟨9⟩, 2⟩), w₁) ∧
      machine.step w₁ (.allocateRegionOp ⟨10⟩ ⟨⟨1⟩, 1⟩ 4096 ⟨true, true, false⟩ .anonymous ⟨1⟩) =
        some (.region (.ok ⟨⟨1⟩, ⟨10⟩, 3⟩), w₂) ∧
      w.kernel.identityTable[(⟨1⟩ : ExecutionId)]? = some i ∧ i.usage.memoryUnits = 0 ∧
      w₂.kernel.identityTable[(⟨1⟩ : ExecutionId)]? = some i' ∧ i'.usage.memoryUnits = 2 := by
  simp only [exists_and_left]
  exact Machine.exists_run [.spawn 1, .giveSmallBudget, .tryConsumeCpuTicks .listed ⟨1⟩ 11] (by decide +kernel)

end PandaGen.Kernel.Session

/-! ## Allocations that are refused -/

namespace PandaGen.Kernel.SimulatedKernel

open Lib Proc Session Option

variable {k : SimulatedKernel} {r : MemoryRegionId} {cap : AddressSpaceCap} {size : Nat} {p : MemoryPerms}
  {b : MemoryBacking} {e : ExecutionId}

end PandaGen.Kernel.SimulatedKernel
