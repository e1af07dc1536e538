import Mathlib.Logic.Basic

/-!
# Lanes

A lane carries contents that are due at some time. They are posted, may wait, are queued and then taken, and none is
queued before it is due.
-/

namespace PandaGen.Lib

open List

structure Lane (α : Type) where
  now : Nat
  posted : List (α × Nat)
  taken : List (α × Nat)
  queued : List (α × Nat)
  waiting : List (α × Nat)
  conserved : (taken ++ queued ++ waiting).Perm posted
  due : ∀ x ∈ taken ++ queued, x.2 ≤ now

namespace Lane

variable {α : Type}

def empty (now : Nat) : Lane α := ⟨now, [], [], [], [], .nil, fun _ h => nomatch h⟩

/-- What is posted without a delay is queued at once. -/
def post (l : Lane α) (a : α) : Lane α where
  now := l.now
  posted := l.posted ++ [(a, l.now)]
  taken := l.taken
  queued := l.queued ++ [(a, l.now)]
  waiting := l.waiting
  conserved := by
    have hmoved : (l.taken ++ (l.queued ++ [(a, l.now)]) ++ l.waiting).Perm
        (l.taken ++ l.queued ++ l.waiting ++ [(a, l.now)]) := by
      rw [← append_assoc, append_assoc, append_assoc (l.taken ++ l.queued)]
      exact perm_append_comm.append_left _
    exact hmoved.trans (l.conserved.append_right _)
  due := by
    intro x hx
    rw [← append_assoc, mem_append, mem_singleton] at hx
    obtain hx | rfl := hx
    · exact l.due x hx
    · exact Nat.le_refl _

def delay (l : Lane α) (a : α) (due : Nat) : Lane α where
  now := l.now
  posted := l.posted ++ [(a, due)]
  taken := l.taken
  queued := l.queued
  waiting := l.waiting ++ [(a, due)]
  conserved := by
    rw [← append_assoc]
    exact l.conserved.append_right _
  due := l.due

def pass (l : Lane α) (now : Nat) (h : l.now ≤ now) : Lane α :=
  { l with now, due := fun x hx => Nat.le_trans (l.due x hx) h }

/-- What is due moves from those that wait to the end of the queue. -/
def deliver (l : Lane α) {before after : List (α × Nat)} {x : α × Nat} (h : l.waiting = before ++ x :: after)
    (hdue : x.2 ≤ l.now) : Lane α where
  now := l.now
  posted := l.posted
  taken := l.taken
  queued := l.queued ++ [x]
  waiting := before ++ after
  conserved := by
    have hconserved := l.conserved
    rw [h] at hconserved
    have hmoved : (l.taken ++ (l.queued ++ [x]) ++ (before ++ after)).Perm
        (l.taken ++ l.queued ++ (before ++ x :: after)) := by
      rw [← append_assoc l.taken, append_assoc _ [x], singleton_append]
      exact perm_middle.symm.append_left _
    exact hmoved.trans hconserved
  due := by
    intro y hy
    rw [← append_assoc, mem_append, mem_singleton] at hy
    obtain hy | rfl := hy
    · exact l.due y hy
    · exact hdue

def take (l : Lane α) {x : α × Nat} {rest : List (α × Nat)} (h : l.queued = x :: rest) : Lane α where
  now := l.now
  posted := l.posted
  taken := l.taken ++ [x]
  queued := rest
  waiting := l.waiting
  conserved := by simpa [h] using l.conserved
  due := by simpa [h] using l.due

end Lane

end PandaGen.Lib
