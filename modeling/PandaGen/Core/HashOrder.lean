import Mathlib.Data.List.Basic

/-!
# The order of a hash map

The order in which a `HashMap` yields its entries depends on a random seed. Where it matters, it is an input.
-/

namespace PandaGen

structure HashOrder (α : Type) where
  order : List α → List α
  perm : ∀ l, (order l).Perm l

namespace HashOrder

variable {α : Type}

def listed : HashOrder α := ⟨id, List.Perm.refl⟩

theorem mem_order (o : HashOrder α) {l a} : a ∈ o.order l ↔ a ∈ l := (o.perm l).mem_iff

def last (p : α → Bool) : HashOrder α where
  order l := l.filter (fun a => !p a) ++ l.filter p
  perm l := List.perm_append_comm.trans (List.filter_append_perm p l)

end HashOrder

end PandaGen
