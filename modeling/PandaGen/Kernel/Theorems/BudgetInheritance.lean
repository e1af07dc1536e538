import Mathlib.Logic.Relation
import PandaGen.Kernel.Lemmas.Budget

/-!
# Budget inheritance
-/

namespace PandaGen.Kernel

open Lib Option BTreeMap

namespace SimulatedKernel

variable {k : SimulatedKernel} {a d e : ExecutionId}

def limitOf (k : SimulatedKernel) (e : ExecutionId) (r : Resource) : Option Nat :=
  (k.identityTable[e]?.bind IdentityMetadata.budget).bind fun budget => budget.limit r

def ParentOf (k : SimulatedKernel) (a d : ExecutionId) : Prop :=
  ∃ i, k.identityTable[d]? = some i ∧ i.parentId = some a

def Ancestor (k : SimulatedKernel) : ExecutionId → ExecutionId → Prop := Relation.TransGen k.ParentOf

/-- Where an ancestor is limited, the identity has a limit that is no larger. -/
def Inherits (k : SimulatedKernel) (d : ExecutionId) : Prop :=
  ∀ a, k.Ancestor a d → ∀ r, ∀ limit ∈ k.limitOf a r, ∃ limit' ∈ k.limitOf d r, limit' ≤ limit

def assignBudget (k : SimulatedKernel) (d : ExecutionId) (budget : ResourceBudget) : SimulatedKernel :=
  { k with identityTable := k.identityTable.modify d fun i => i.withBudget budget }

variable (budget : ResourceBudget)

theorem assignBudget_getElem? : (k.assignBudget d budget).identityTable[e]? =
    if d = e then k.identityTable[e]?.map fun i => i.withBudget budget else k.identityTable[e]? := by
  rw [assignBudget, getElem?_modify]

theorem parentOf_assignBudget : (k.assignBudget d budget).ParentOf = k.ParentOf := by
  funext a e
  rw [ParentOf, ParentOf, assignBudget_getElem?]
  split
  · simp only [map_eq_some_iff, exists_exists_and_eq_and, IdentityMetadata.withBudget]
  · rfl

theorem ancestor_assignBudget : (k.assignBudget d budget).Ancestor = k.Ancestor := by
  rw [Ancestor, Ancestor, parentOf_assignBudget]

theorem limitOf_assignBudget_self {i} (hi : k.identityTable[d]? = some i) (budget r) :
    (k.assignBudget d budget).limitOf d r = budget.limit r := by
  rw [limitOf, assignBudget_getElem?, if_pos rfl, hi]
  rfl

theorem limitOf_eq_none {i} (hi : k.identityTable[d]? = some i) (hbudget : i.budget = none) (r) :
    k.limitOf d r = none := by
  rw [limitOf, hi, bind_some, hbudget, bind_none]

/-- An identity that is its own ancestor had no limit to inherit from itself, and inherits the new one. -/
theorem inherits_assignBudget {i} (hi : k.identityTable[d]? = some i) (hbudget : i.budget = none) (budget) :
    (k.assignBudget d budget).Inherits d ↔
      ∀ a, k.Ancestor a d → ∀ r, ∀ limit ∈ k.limitOf a r, ∃ limit' ∈ budget.limit r, limit' ≤ limit := by
  simp only [Inherits, ancestor_assignBudget, limitOf_assignBudget_self hi]
  refine forall₂_congr fun a _ => forall_congr' fun r => ?_
  by_cases ha : d = a
  · subst ha
    rw [limitOf_eq_none hi hbudget, limitOf_assignBudget_self hi]
    simp only [mem_def, reduceCtorEq, false_implies, implies_true, iff_true]
    exact fun limit hlimit => ⟨limit, hlimit, le_rfl⟩
  · rw [limitOf, assignBudget_getElem?, if_neg ha, limitOf]

end SimulatedKernel

namespace Session

open SimulatedKernel

variable {w w₁ w₂ : Session} {call : Call} {a : Answer} {d : ExecutionId} {parent : Option ExecutionId}
  {tr : Trace}

structure Unmetered (d : ExecutionId) (parent : Option ExecutionId) (w : Session) : Prop where
  drawn : d ∈ w.drawnExecutions
  entry : ∃ i, w.kernel.identityTable[d]? = some i ∧ i.budget = none ∧ i.parentId = parent

theorem unmetered_of_recharged {o o'} (h : Recharged o o')
    (ho : ∃ i, o = some i ∧ i.budget = none ∧ i.parentId = parent) :
    ∃ i, o' = some i ∧ i.budget = none ∧ i.parentId = parent := by
  obtain rfl | ⟨i, usage, rfl, rfl, -⟩ := h
  · exact ho
  · obtain ⟨_, hi, hbudget, hparent⟩ := ho
    cases hi
    exact ⟨_, rfl, hbudget, hparent⟩

theorem Unmetered.step (h : Unmetered d parent w) (hs : machine.step w call = some (a, w₁))
    (hedited : call.edited ≠ some d) : Unmetered d parent w₁ := by
  obtain ⟨hfresh, -, -, hdrawn⟩ := step_perform hs
  refine ⟨hdrawn ▸ List.mem_append_right _ h.drawn, ?_⟩
  have heffect := step_accounts hs
  have hentry := h.entry
  generalize w₁.kernel = k' at heffect
  cases heffect with
  | charged charges => exact unmetered_of_recharged (charges.entry d) hentry
  | @allocated _ _ _ e _ _ charged =>
    by_cases he : d = e
    · subst he
      exact unmetered_of_recharged charged.entry hentry
    · rwa [charged.others d he]
  | @spawned _ ids _ _ drawn _ _ table =>
    have hne : ids.execution ≠ d := fun heq => (hfresh ids drawn).2 (heq ▸ h.drawn)
    rwa [table, getElem?_insert, if_neg hne]
  | @created i =>
    have hne : i.executionId ≠ d := fun heq => hedited (congrArg some heq)
    rwa [getElem?_insert, if_neg hne]
  | @updated e f =>
    have hne : e ≠ d := fun heq => hedited (congrArg some heq)
    rwa [getElem?_modify, if_neg hne]

theorem unmetered_of_spawn {ids descriptor kind domain creator} (haccepted : a.isErr = false)
    (hs : machine.step w (.spawnTaskWithIdentity ids descriptor kind domain parent creator) = some (a, w₁)) :
    Unmetered ids.execution parent w₁ := by
  obtain ⟨-, -, -, hexecutions⟩ := step_perform hs
  refine ⟨hexecutions ▸ List.mem_cons_self, ?_⟩
  have houtcome := step_outcome hs
  generalize w₁.kernel = k' at houtcome
  cases houtcome with
  | refused _ refused => cases haccepted.symm.trans refused
  | spawned drawn _ admitted =>
    cases drawn
    obtain ⟨_, _, _, -, -, rfl⟩ := admitTask_parts admitted
    exact ⟨_, by rw [getElem?_insert, if_pos rfl], rfl, rfl⟩
  | bookkept kind | timed kind | charged kind | allocated kind => cases kind

/-- The kernel lets any child be spawned without limits, whatever its ancestors are limited to, and lets any budget be
assigned to it. So the limits are inherited exactly if there are none, or if the caller assigns a budget within all
of them. -/
theorem inherits_iff_assigned_within {ids : SpawnIds} {descriptor : TaskDescriptor} {kind : IdentityKind}
    {domain : TrustDomain} {creator : Option ExecutionId} (haccepted : a.isErr = false)
    (hspawn : machine.step w (.spawnTaskWithIdentity ids descriptor kind domain parent creator) = some (a, w₁))
    (hafter : machine.Run (fun _ call _ => call.edited ≠ some ids.execution) w₁ tr w₂) :
    (∀ p, parent = some p ↔ w₂.kernel.ParentOf p ids.execution) ∧
      (w₂.kernel.Inherits ids.execution ↔
        ∀ a, w₂.kernel.Ancestor a ids.execution → ∀ r, w₂.kernel.limitOf a r = none) ∧
      ∀ budget, ∃ w₃, machine.step w₂ (.updateIdentity ids.execution fun i => i.withBudget budget) = some (.done, w₃) ∧
        w₃.kernel.Ancestor = w₂.kernel.Ancestor ∧
        (w₃.kernel.Inherits ids.execution ↔ ∀ a, w₂.kernel.Ancestor a ids.execution →
          ∀ r, ∀ limit ∈ w₂.kernel.limitOf a r, ∃ limit' ∈ budget.limit r, limit' ≤ limit) := by
  have hunmetered := hafter.invariantTrace (P := fun _ w => Unmetered ids.execution parent w)
    (fun _ _ _ _ _ h hs hedited => h.step hs hedited) [] (unmetered_of_spawn haccepted hspawn)
  obtain ⟨i, hi, hbudget, hparent⟩ := hunmetered.entry
  have hnone : ∀ r, w₂.kernel.limitOf ids.execution r = none := limitOf_eq_none hi hbudget
  refine ⟨fun p => ?_, ?_, fun budget => ?_⟩
  · rw [ParentOf, hi, ← hparent]
    simp
  · simp only [Inherits, hnone, mem_def, reduceCtorEq, false_and, exists_false, imp_false,
      eq_none_iff_forall_ne_some, ne_eq]
  · exact ⟨_, rfl, ancestor_assignBudget budget, inherits_assignBudget hi hbudget budget⟩

def Call.spawnChild (n : Nat) : Call :=
  .spawnTaskWithIdentity ⟨⟨n⟩, ⟨n⟩, ⟨n⟩⟩ ⟨"child", []⟩ .component .user (some ⟨1⟩) none

def ticks (n : Nat) : ResourceBudget := { ResourceBudget.unlimited with cpuTicks := some n }

def Call.assignTicks (e : ExecutionId) (n : Nat) : Call := .updateIdentity e fun i => i.withBudget (ticks n)

theorem inherits_iff_assigned_within_five : ∃ (tr : Trace) (w w₁ w₂ : Session) (a : Answer),
    machine.FreeRun (start .default) tr w ∧ w.kernel.limitOf ⟨1⟩ .cpuTicks = some 10 ∧
      machine.step w (.spawnChild 2) = some (a, w₁) ∧ a.isErr = false ∧
      machine.step w₁ (.assignTicks ⟨2⟩ 5) = some (.done, w₂) ∧ w₂.kernel.Inherits ⟨2⟩ := by
  obtain ⟨tr, w, hrun, hlimit, a, w₁, hspawn, haccepted, i, hi, horphan, hbudget⟩ : ∃ tr w,
      machine.FreeRun (start .default) tr w ∧ w.kernel.limitOf ⟨1⟩ .cpuTicks = some 10 ∧
      ∃ a w₁, machine.step w (.spawnChild 2) = some (a, w₁) ∧ a.isErr = false ∧
      ∃ i, w₁.kernel.identityTable[(⟨1⟩ : ExecutionId)]? = some i ∧ i.parentId = none ∧ i.budget = some (ticks 10) :=
    Machine.exists_run [.spawn 1, .assignTicks ⟨1⟩ 10] (by decide +kernel)
  obtain ⟨hparent, -, hassign⟩ := inherits_iff_assigned_within haccepted hspawn .nil
  obtain ⟨w₂, hstep, -, hinherits⟩ := hassign (ticks 5)
  refine ⟨tr, w, w₁, w₂, a, hrun, hlimit, hspawn, haccepted, hstep, hinherits.mpr ?_⟩
  have hroot : ∀ a, ¬ w₁.kernel.Ancestor a ⟨1⟩ := by
    intro a ha
    obtain ⟨_, -, j, hj, hp⟩ := Relation.TransGen.tail'_iff.mp ha
    cases hi.symm.trans hj
    cases horphan.symm.trans hp
  intro a ha r limit hlimit
  obtain rfl : a = ⟨1⟩ := by
    cases ha with
    | single hp => exact (some.inj ((hparent a).mpr hp)).symm
    | tail ha hp =>
      cases (hparent _).mpr hp
      exact absurd ha (hroot a)
  rw [limitOf, hi, bind_some, hbudget] at hlimit
  cases r with
  | cpuTicks =>
    cases hlimit
    exact ⟨5, rfl, by decide⟩
  | _ => cases hlimit

set_option synthInstance.maxSize 1000 in
/-- A child of an identity with ten ticks is spawned without a limit. It is then assigned a hundred. -/
theorem child_exceeds_parent : ∃ (tr : Trace) (w w₁ w₂ : Session) (a : Answer),
    machine.FreeRun (start .default) tr w ∧ w.kernel.limitOf ⟨1⟩ .cpuTicks = some 10 ∧
      machine.step w (.spawnChild 2) = some (a, w₁) ∧ a.isErr = false ∧ w₁.kernel.Ancestor ⟨1⟩ ⟨2⟩ ∧
      w₁.kernel.limitOf ⟨2⟩ .cpuTicks = none ∧
      machine.step w₁ (.assignTicks ⟨2⟩ 100) = some (.done, w₂) ∧ w₂.kernel.limitOf ⟨1⟩ .cpuTicks = some 10 ∧
      w₂.kernel.limitOf ⟨2⟩ .cpuTicks = some 100 := by
  obtain ⟨tr, w, hrun, hlimit, a, w₁, hspawn, haccepted, hnone, ⟨i, hi, hparent⟩, w₂, hassign, hexceeds⟩ : ∃ tr w,
      machine.FreeRun (start .default) tr w ∧ w.kernel.limitOf ⟨1⟩ .cpuTicks = some 10 ∧
      ∃ a w₁, machine.step w (.spawnChild 2) = some (a, w₁) ∧ a.isErr = false ∧
      w₁.kernel.limitOf ⟨2⟩ .cpuTicks = none ∧
      (∃ i, w₁.kernel.identityTable[(⟨2⟩ : ExecutionId)]? = some i ∧ i.parentId = some ⟨1⟩) ∧
      ∃ w₂, machine.step w₁ (.assignTicks ⟨2⟩ 100) = some (.done, w₂) ∧ w₂.kernel.limitOf ⟨1⟩ .cpuTicks = some 10 ∧
      w₂.kernel.limitOf ⟨2⟩ .cpuTicks = some 100 :=
    Machine.exists_run [.spawn 1, .assignTicks ⟨1⟩ 10] (by decide +kernel)
  exact ⟨tr, w, w₁, w₂, a, hrun, hlimit, hspawn, haccepted, .single ⟨i, hi, hparent⟩, hnone, hassign, hexceeds⟩

end Session

end PandaGen.Kernel
