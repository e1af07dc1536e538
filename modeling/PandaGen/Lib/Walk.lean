import Mathlib.Data.List.Basic

/-!
# Walking through a list

Facts about a loop that goes through a list by an index, and about one that leaves elements behind.
-/

namespace PandaGen.Lib

open List

variable {α : Type} {l rest : List α} {x : α} {i : Nat}

theorem walk_cons (h : l.drop i = x :: rest) : l[i]? = some x ∧ l.drop (i + 1) = rest := by
  constructor
  · rw [← head?_drop, h, head?_cons]
  · rw [← drop_drop, h, drop_one, tail_cons]

theorem length_filter_lt {p q} (himp : ∀ y, p y → q y) (hx : x ∈ l) (hq : q x) (hp : ¬ p x) :
    (l.filter p).length < (l.filter q).length := by
  have hsub : (l.filter p).Sublist (l.filter q) := monotone_filter_right l himp
  refine Nat.lt_of_le_of_ne hsub.length_le fun heq => hp ?_
  have hmem : x ∈ l.filter p := hsub.eq_of_length heq ▸ mem_filter.mpr ⟨hx, hq⟩
  exact (mem_filter.mp hmem).2

theorem pairwise_of_filter {R p} (hyes : (l.filter p).Pairwise R)
    (hno : (l.filter fun x => !p x).Pairwise R) (hcross : ∀ x ∈ l, ∀ y ∈ l, p x ≠ p y → R x y) : l.Pairwise R := by
  induction l with
  | nil => exact .nil
  | cons x l ih =>
    have hl : l.Pairwise R := by
      refine ih ?_ ?_ fun y hy z hz => hcross y (mem_cons_of_mem _ hy) z (mem_cons_of_mem _ hz)
      · exact hyes.sublist ((sublist_cons_self x l).filter p)
      · exact hno.sublist ((sublist_cons_self x l).filter _)
    refine .cons (fun y hy => ?_) hl
    by_cases hpq : p x = p y
    · cases hp : p x with
      | true =>
        rw [filter_cons_of_pos hp] at hyes
        exact rel_of_pairwise_cons hyes (mem_filter.mpr ⟨hy, hpq ▸ hp⟩)
      | false =>
        rw [filter_cons_of_pos (by simp [hp])] at hno
        exact rel_of_pairwise_cons hno (mem_filter.mpr ⟨hy, by simp [← hpq, hp]⟩)
    · exact hcross x mem_cons_self y (mem_cons_of_mem _ hy) hpq

end PandaGen.Lib
