import Mathlib.Data.List.Basic

/-!
# Monitors

A monitor follows a program by the events that the program makes, and says which events may come next.
-/

namespace PandaGen.Lib

variable {σ ι : Type} {step : σ → ι → σ → Prop}

/-- The events `w` lead the monitor with the transitions `step` from `s` to `t`. -/
inductive Reads (step : σ → ι → σ → Prop) (s : σ) : List ι → σ → Prop
  | nil : Reads step s [] s
  | concat {w t e u} : Reads step s w t → step t e u → Reads step s (w ++ [e]) u

namespace Reads

/-- An event was allowed in the state that the events before it lead to. -/
theorem split {s w u v e t} (h : Reads step s w t) (hw : w = u ++ e :: v) : ∃ m m', Reads step s u m ∧ step m e m' := by
  induction h generalizing v with
  | nil => simp at hw
  | @concat w t e' t' hr hs ih =>
    rcases List.eq_nil_or_concat v with rfl | ⟨v', e'', rfl⟩
    · obtain ⟨rfl, he⟩ := List.append_inj' hw rfl
      cases he
      exact ⟨t, t', hr, hs⟩
    · have heq : w ++ [e'] = (u ++ e :: v') ++ [e''] := by simpa using hw
      exact ih (List.append_inj' heq rfl).1

/-- What holds at the start and is kept by every event holds of the events read and of the state they lead to. -/
theorem invariant {P : List ι → σ → Prop} {s} (h0 : P [] s) (hstep : ∀ w t e u, P w t → step t e u → P (w ++ [e]) u)
    {w t} (h : Reads step s w t) : P w t := by
  induction h with
  | nil => exact h0
  | concat _ hs ih => exact hstep _ _ _ _ ih hs

end Reads

end PandaGen.Lib
