import Mathlib.Algebra.Order.BigOperators.Group.List
import Mathlib.Algebra.Order.Ring.Nat
import Mathlib.Data.List.Perm.Basic

/-!
# Where a task is

A processor holds tasks in a run queue and at most one task that is current. The occupancy of a task counts
the places it has on the processor. Moving a task between the queue and the processor keeps it.
-/

namespace PandaGen.Lib

open List

variable {α : Type} [DecidableEq α]

def occupancy (queue : List α) (current : Option α) (a : α) : Nat :=
  queue.count a + if current = some a then 1 else 0

variable {queue queue' : List α} {current : Option α} {a b : α}

theorem occupancy_none (queue : List α) (a : α) : occupancy queue none a = queue.count a := by
  simp [occupancy]

theorem occupancy_eq_zero : occupancy queue current a = 0 ↔ a ∉ queue ∧ current ≠ some a := by
  simp [occupancy, count_eq_zero]

theorem occupancy_eq_one : occupancy queue current a = 1 ↔
    current = some a ∧ a ∉ queue ∨ current ≠ some a ∧ queue.count a = 1 := by
  rw [occupancy, ← count_eq_zero]
  by_cases h : current = some a
  · simp [h]
  · simp [h]

theorem occupancy_pos_of_mem (h : a ∈ queue) : 0 < occupancy queue current a := by
  have := count_pos_iff.mpr h
  rw [occupancy]
  omega

theorem occupancy_push (h : queue'.Perm (b :: queue)) :
    occupancy queue' current a = occupancy queue current a + if b = a then 1 else 0 := by
  simp only [occupancy, h.count_eq, count_cons, beq_iff_eq]
  omega

theorem occupancy_select (h : queue.Perm (b :: queue')) : occupancy queue' (some b) a = queue.count a := by
  simp only [occupancy, h.count_eq, count_cons, beq_iff_eq, Option.some.injEq]

theorem occupancy_requeue (h : queue'.Perm (b :: queue)) : occupancy queue' none a = occupancy queue (some b) a := by
  simp only [occupancy, h.count_eq, count_cons, beq_iff_eq, Option.some.injEq, reduceCtorEq, if_false]
  omega

theorem occupancy_remove : occupancy (queue.filter fun c => c != b) (if current = some b then none else current) a =
      if b = a then 0 else occupancy queue current a := by
  by_cases hab : b = a
  · subst hab
    rw [if_pos rfl, occupancy_eq_zero]
    refine ⟨by simp, ?_⟩
    split
    · simp
    · assumption
  · rw [if_neg hab, occupancy, occupancy]
    congr 1
    · rw [count_filter]
      simpa using Ne.symm hab
    · split
      · rename_i hcur
        simp [hcur, hab]
      · rfl

/-! ## Several processors

`g` counts the places on one of them. -/

section Processors

variable {γ : Type} {g : γ → Nat} {l : List γ} {i d : Nat}

theorem sum_map_set {x y} (h : l[i]? = some x) (hg : g y = g x + d) : ((l.set i y).map g).sum = (l.map g).sum + d := by
  induction l generalizing i with
  | nil => cases h
  | cons c l ih =>
    cases i with
    | zero =>
      cases h
      simp only [set_cons_zero, map_cons, sum_cons, hg]
      omega
    | succ i =>
      have ih := ih h
      simp only [set_cons_succ, map_cons, sum_cons]
      omega

theorem sum_map_modify {f} (hi : i < l.length) (hg : ∀ x, g (f x) = g x + d) :
    ((l.modify i f).map g).sum = (l.map g).sum + d := by
  rw [modify_eq_set_get f hi]
  exact sum_map_set (getElem?_eq_getElem hi) (hg _)

theorem exists_of_sum_map_eq_one (h : (l.map g).sum = 1) :
    ∃ (i : Nat) (x : γ), l[i]? = some x ∧ g x = 1 ∧ ∀ (j : Nat) y, l[j]? = some y → j ≠ i → g y = 0 := by
  induction l with
  | nil => cases h
  | cons c l ih =>
    rw [map_cons, sum_cons] at h
    by_cases hc : g c = 0
    · obtain ⟨i, x, hx, hone, hothers⟩ := ih (by omega)
      refine ⟨i + 1, x, hx, hone, fun j y hy hj => ?_⟩
      cases j with
      | zero =>
        cases hy
        exact hc
      | succ j => exact hothers j y hy fun hji => hj (congrArg Nat.succ hji)
    · have hzero : (l.map g).sum = 0 := by omega
      refine ⟨0, c, rfl, by omega, fun j y hy hj => ?_⟩
      cases j with
      | zero => exact absurd rfl hj
      | succ j => exact sum_eq_zero_iff.mp hzero _ (mem_map_of_mem (mem_of_getElem? hy))

end Processors

end PandaGen.Lib
