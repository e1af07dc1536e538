import Std.Data.ExtTreeMap.Lemmas
import Mathlib.Logic.Basic

/-!
# Numbered tokens

A table of tokens that a counter numbers. Tokens are added under the next number, and removed by what they
stand for. The table holds exactly the tokens that were issued and do not stand for something dead.
-/

namespace PandaGen.Lib.Tokens

variable {P : Type}

/-- The table holds the issued tokens that are not dead, all with numbers below `next`. -/
structure Reflects (table : Std.ExtTreeMap Nat P compare) (issued : List (Nat × P)) (dead : P → Prop) (next : Nat) :
    Prop where
  entry : ∀ n p, table[n]? = some p ↔ (n, p) ∈ issued ∧ ¬ dead p
  bound : ∀ n p, (n, p) ∈ issued → n < next

variable {table : Std.ExtTreeMap Nat P compare} {issued : List (Nat × P)} {dead : P → Prop} {next : Nat}

theorem reflects_empty (next : Nat) : Reflects (∅ : Std.ExtTreeMap Nat P compare) [] dead next :=
  ⟨by simp, by simp⟩

theorem Reflects.mono (h : Reflects table issued dead next) {next'} (hle : next ≤ next') :
    Reflects table issued dead next' :=
  ⟨h.entry, fun n p hp => Nat.lt_of_lt_of_le (h.bound n p hp) hle⟩

theorem Reflects.issue (h : Reflects table issued dead next) {p} (hp : ¬ dead p) :
    Reflects (table.insert next p) (issued ++ [(next, p)]) dead (next + 1) := by
  constructor
  · intro n q
    rw [Std.ExtTreeMap.getElem?_insert]
    simp only [Std.LawfulEqOrd.compare_eq_iff_eq, List.mem_append, List.mem_singleton, Prod.mk.injEq]
    split
    · rename_i hn
      subst hn
      have hfresh : (next, q) ∉ issued := fun hq => absurd (h.bound next q hq) (Nat.lt_irrefl _)
      constructor
      · intro hq
        cases hq
        exact ⟨.inr ⟨rfl, rfl⟩, hp⟩
      · rintro ⟨hq | ⟨-, rfl⟩, -⟩
        · exact absurd hq hfresh
        · rfl
    · rename_i hn
      have hn' : n ≠ next := fun he => hn he.symm
      rw [h.entry]
      simp [hn']
  · intro n q hq
    rcases List.mem_append.mp hq with hq | hq
    · exact Nat.lt_succ_of_lt (h.bound n q hq)
    · cases List.mem_singleton.mp hq
      exact Nat.lt_succ_self _

theorem Reflects.revoke (h : Reflects table issued dead next) {keep : P → Bool} {dead' : P → Prop}
    (hdead : ∀ p, dead' p ↔ dead p ∨ keep p = false) : Reflects (table.filter fun _ p => keep p) issued dead' next := by
  refine ⟨fun n p => ?_, h.bound⟩
  rw [Std.ExtTreeMap.getElem?_filter, Option.pfilter_eq_filter, Option.filter_eq_some_iff, h.entry, hdead]
  cases hp : keep p <;> simp

end PandaGen.Lib.Tokens
