import Mathlib.Logic.Basic

/-!
# Runs of a machine

A machine answers a call with an output and a next state, or refuses it. A run is a list of calls with
their outputs; a guard restricts the calls a run may make.
-/

namespace PandaGen.Lib

open Option

/-- `step s i` is the output and the next state of the call `i` in state `s`. It is `none` where the
call cannot be made or does not return. -/
structure Machine (σ ι ο : Type) where
  step : σ → ι → Option (ο × σ)

section

variable {α β : Type}

instance decidableExistsSome {r : Option α} {p : α → Prop} [DecidablePred p] : Decidable (∃ a, r = some a ∧ p a) :=
  decidable_of_iff (r.any fun a => decide (p a)) (by simp [any_eq_true])

instance decidableExistsSnd [DecidableEq α] {r : Option (α × β)} {a : α} {p : β → Prop} [DecidablePred p] :
    Decidable (∃ b, r = some (a, b) ∧ p b) :=
  decidable_of_iff (r.any fun x => decide (x.1 = a ∧ p x.2)) (by rcases r with _ | ⟨a', b⟩ <;> simp [and_assoc])

instance decidableExistsEqSnd [DecidableEq α] {r : Option (α × β)} {a : α} : Decidable (∃ b, r = some (a, b)) :=
  decidable_of_iff (r.any fun x => decide (x.1 = a)) (by rcases r with _ | ⟨a', b⟩ <;> simp)

instance decidableExistsPair {r : Option (α × β)} {p : α → β → Prop} [∀ a b, Decidable (p a b)] :
    Decidable (∃ a b, r = some (a, b) ∧ p a b) :=
  decidable_of_iff (r.any fun x => decide (p x.1 x.2)) (by simp [any_eq_true])

end

namespace Machine

variable {σ ι ο : Type} {M : Machine σ ι ο} {G : σ → ι → ο → Prop} {P : List (ι × ο) → σ → Prop}

/-- The run with the events `tr` leads from `s` to `t`, and every call of it meets the guard `G`. -/
inductive Run (M : Machine σ ι ο) (G : σ → ι → ο → Prop) : σ → List (ι × ο) → σ → Prop
  | nil {s} : Run M G s [] s
  | cons {s i o s' tr t} : M.step s i = some (o, s') → G s i o → Run M G s' tr t →
      Run M G s ((i, o) :: tr) t

/-- A run without a guard. -/
abbrev FreeRun (M : Machine σ ι ο) : σ → List (ι × ο) → σ → Prop := Run M fun _ _ _ => True

/-- What holds at the start and is kept by every guarded call holds at the end. It may speak of the events
made so far. -/
theorem Run.invariantTrace (hstep : ∀ tr s i o s', P tr s → M.step s i = some (o, s') → G s i o → P (tr ++ [(i, o)]) s')
    {s tr t} (h : Run M G s tr t) : ∀ pre, P pre s → P (pre ++ tr) t := by
  induction h with
  | nil => intro pre h0; simpa using h0
  | @cons s i o s' tr t hs hg _ ih =>
    intro pre h0
    have := ih (pre ++ [(i, o)]) (hstep pre s i o s' h0 hs hg)
    simpa using this

theorem Run.append {s tr t tr' u} (h : Run M G s tr t) (h' : Run M G t tr' u) : Run M G s (tr ++ tr') u := by
  induction h with
  | nil => exact h'
  | cons hs hg _ ih => exact .cons hs hg (ih h')

/-- An invariant may use that its state was reached by the events it speaks of. -/
theorem Run.invariantReached {s0}
    (hstep : ∀ tr s i o s', Run M G s0 tr s → P tr s → M.step s i = some (o, s') → G s i o → P (tr ++ [(i, o)]) s')
    (h0 : P [] s0) {tr t} (h : Run M G s0 tr t) : P tr t := by
  refine (h.invariantTrace (P := fun tr s => Run M G s0 tr s ∧ P tr s) ?_ [] ⟨.nil, h0⟩).2
  intro tr s i o s' hs hi hg
  exact ⟨hs.1.append (.cons hi hg .nil), hstep tr s i o s' hs.1 hs.2 hi hg⟩

/-! ## What a run shows -/

/-- What the events of a run show, where `f` is asked in the state before each of them. -/
def observe {β : Type} (M : Machine σ ι ο) (f : σ → ι → ο → List β) : σ → List (ι × ο) → List β
  | _, [] => []
  | s, (i, o) :: tr => f s i o ++ (M.step s i).elim [] fun (_, s') => M.observe f s' tr

theorem Run.observe_append {β : Type} {f : σ → ι → ο → List β} {s tr t} (h : Run M G s tr t) (tr' : List (ι × ο)) :
    M.observe f s (tr ++ tr') = M.observe f s tr ++ M.observe f t tr' := by
  induction h with
  | nil => rfl
  | cons hs _ _ ih => simp [observe, hs, ih]

/-- A run of one machine shows a run of another, if every call does. -/
theorem Run.project {τ κ χ : Type} {N : Machine τ κ χ} {H : τ → κ → χ → Prop} {v : σ → τ} {f : σ → ι → ο → List (κ × χ)}
    (hstep : ∀ s i o s', M.step s i = some (o, s') → G s i o → Run N H (v s) (f s i o) (v s')) {s tr t}
    (h : Run M G s tr t) : Run N H (v s) (M.observe f s tr) (v t) := by
  induction h with
  | nil => exact .nil
  | @cons s i o s' tr t hs hg _ ih =>
    rw [observe, hs]
    exact (hstep s i o s' hs hg).append ih

/-- An invariant may speak of what the run has shown so far, folded up from `x`. -/
theorem Run.invariantObserved {β η : Type} {f : σ → ι → ο → List β} {next} {P : η → σ → Prop}
    (hstep : ∀ x s i o s', P x s → M.step s i = some (o, s') → G s i o → P ((f s i o).foldl next x) s') {s tr t}
    (h : Run M G s tr t) : ∀ x, P x s → P ((M.observe f s tr).foldl next x) t := by
  induction h with
  | nil => exact fun _ h0 => h0
  | @cons s i o s' tr t hs hg _ ih =>
    intro x h0
    have := ih _ (hstep x s i o s' h0 hs hg)
    simpa [observe, hs] using this

/-! ## Running a list of calls -/

/-- Makes the given calls one after the other, each of which has to pass the check `g`. -/
def exec (M : Machine σ ι ο) (g : σ → ι → ο → Bool) : σ → List ι → Option (List (ι × ο) × σ)
  | s, [] => some ([], s)
  | s, i :: is =>
    match M.step s i with
    | none => none
    | some (o, s') =>
      if g s i o then (M.exec g s' is).map fun (tr, t) => ((i, o) :: tr, t) else none

theorem exec_run {g} (hg : ∀ s i o, g s i o = true → G s i o) {s is tr t} (h : M.exec g s is = some (tr, t)) :
    Run M G s tr t := by
  induction is generalizing s tr with
  | nil =>
    cases h
    exact .nil
  | cons i is ih =>
    rw [exec] at h
    split at h
    · cases h
    · rename_i o s' hs
      split at h
      · rename_i hpass
        obtain ⟨⟨tr', t'⟩, he, ⟨⟩⟩ := map_eq_some_iff.mp h
        exact .cons hs (hg s i o hpass) (ih he)
      · cases h

/-- A run is found by making its calls, and what is said of it by evaluation. -/
theorem exists_run [∀ s i o, Decidable (G s i o)] {s} {p : List (ι × ο) → σ → Prop} [∀ tr t, Decidable (p tr t)]
    (is : List ι) (h : ((M.exec (fun s i o => decide (G s i o)) s is).any fun r => decide (p r.1 r.2)) = true) :
    ∃ tr t, Run M G s tr t ∧ p tr t := by
  obtain ⟨⟨tr, t⟩, hexec, hp⟩ := (any_eq_true _ _).mp h
  exact ⟨tr, t, exec_run (fun _ _ _ => of_decide_eq_true) hexec, of_decide_eq_true hp⟩

theorem exec_guarded [∀ s i o, Decidable (G s i o)] {s is tr t}
    (h : M.exec (fun s i o => decide (G s i o)) s is = some (tr, t)) : Run M G s tr t :=
  exec_run (fun _ _ _ => of_decide_eq_true) h

theorem exec_free {s is tr t} (h : M.exec (fun _ _ _ => true) s is = some (tr, t)) : FreeRun M s tr t :=
  exec_run (fun _ _ _ _ => trivial) h

/-- The outputs of the given calls, up to the first that does not return, and the state after the last. -/
def answers (M : Machine σ ι ο) : σ → List ι → List ο × Option σ
  | s, [] => ([], some s)
  | s, i :: is =>
    match M.step s i with
    | none => ([], none)
    | some (o, s') => ((M.answers s' is).1.cons o, (M.answers s' is).2)

/-- Two machines give the same outputs, if every call of the one is a call of the other. -/
theorem answers_of_step {τ κ : Type} {N : Machine τ κ ο} {v f}
    (hstep : ∀ s j, N.step (v s) j = (M.step s (f j)).map fun (o, s') => (o, v s')) (s : σ) (js : List κ) :
    N.answers (v s) js = (M.answers s (js.map f)).map id (Option.map v) := by
  induction js generalizing s with
  | nil => rfl
  | cons j js ih =>
    rw [List.map_cons, answers, answers, hstep]
    cases M.step s (f j) with
    | none => rfl
    | some r =>
      rw [Option.map_some]
      dsimp only
      rw [ih]
      rfl

end Machine

end PandaGen.Lib
