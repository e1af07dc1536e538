import Mathlib.Data.List.Basic

/-!
# Rings of slots

A ring of `n` slots that holds the last `n` entries of a log, each in the slot of its number modulo `n`.
-/

namespace PandaGen.Lib.Ring

open List

variable {α : Type} {slots log : List α}

/-- The entries of the log that are not older than the ring is long are in their slots. -/
def Holds (slots log : List α) : Prop :=
  ∀ i, i < log.length → log.length ≤ i + slots.length → slots[i % slots.length]? = log[i]?

theorem holds_nil (slots : List α) : Holds slots [] := nofun

theorem Holds.push (h : Holds slots log) (hpos : 0 < slots.length) (x : α) :
    Holds (slots.set (log.length % slots.length) x) (log ++ [x]) := by
  intro i hi hrecent
  rw [length_set] at hrecent ⊢
  simp only [length_append, length_singleton] at hi hrecent
  by_cases hnew : i = log.length
  · subst hnew
    rw [getElem?_set_self (Nat.mod_lt _ hpos), getElem?_append_right (Nat.le_refl _), Nat.sub_self]
    rfl
  · -- Two entries that are less than a round apart have different slots.
    have hne : log.length % slots.length ≠ i % slots.length := by
      intro heq
      have hdvd : slots.length ∣ log.length - i := Nat.dvd_of_mod_eq_zero (Nat.sub_mod_eq_zero_of_mod_eq heq)
      have := Nat.le_of_dvd (by omega) hdvd
      omega
    rw [getElem?_set_ne hne, getElem?_append_left (by omega)]
    exact h i (by omega) (by omega)

/-- The slots from the entry `r` on show the end of the log. -/
theorem Holds.window (h : Holds slots log) {r} (hrecent : log.length ≤ r + slots.length) (d : α) :
    ((range (log.length - r)).map fun i => slots.getD ((r + i) % slots.length) d) = log.drop r := by
  apply ext_getElem?
  intro i
  rw [getElem?_drop, getElem?_map]
  by_cases hi : i < log.length - r
  · have hslot := h (r + i) (by omega) (by omega)
    rw [getElem?_range hi, Option.map_some, getD_eq_getElem?_getD, hslot,
      getElem?_eq_getElem (by omega), Option.getD_some]
  · rw [getElem?_eq_none (by simpa using hi), getElem?_eq_none (by omega), Option.map_none]

end PandaGen.Lib.Ring
