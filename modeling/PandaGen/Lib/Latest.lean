import Mathlib.Data.List.Induction
import Mathlib.Data.Set.Basic
import Mathlib.Order.Basic

/-!
# The latest of a list

The latest element of a list is one with the greatest key, and among these the last. Under another order of
the list it may be any element with the greatest key.
-/

namespace PandaGen.Lib

open Option List

variable {α β κ : Type} [LinearOrder κ] (key : α → κ)

/-- The later of two. Where the keys are equal it is the second. -/
def later (x y : α) : α := if key x ≤ key y then y else x

def latestStep : Option α → α → Option α
  | none, y => some y
  | some x, y => some (later key x y)

def latest (l : List α) : Option α := l.foldl (latestStep key) none

def latestOf : Option α → Option α → Option α
  | x, none => x
  | x, some y => latestStep key x y

theorem later_assoc (x y z : α) : later key (later key x y) z = later key x (later key y z) := by
  simp only [later]
  grind

theorem latestStep_latestOf (x y : Option α) (z : α) :
    latestStep key (latestOf key x y) z = latestOf key x (latestStep key y z) := by
  cases x with
  | none => cases y <;> rfl
  | some x =>
    cases y with
    | none => rfl
    | some y => exact congrArg some (later_assoc key x y z)

@[simp]
theorem latest_nil : latest key [] = none := rfl

@[simp]
theorem latest_concat (l : List α) (y : α) : latest key (l ++ [y]) = latestStep key (latest key l) y := by
  simp [latest]

theorem latest_append (l l' : List α) : latest key (l ++ l') = latestOf key (latest key l) (latest key l') := by
  induction l' using reverseRecOn with
  | nil => simp [latestOf]
  | append_singleton l' y ih =>
    rw [← append_assoc, latest_concat, latest_concat, ih]
    exact latestStep_latestOf key _ _ y

@[simp]
theorem latestOf_none_left (y : Option α) : latestOf key none y = y := by cases y <;> rfl

theorem latest_map (f : β → α) (l : List β) : latest key (l.map f) = (latest (fun b => key (f b)) l).map f := by
  induction l using reverseRecOn with
  | nil => rfl
  | append_singleton l y ih =>
    rw [map_append, map_singleton, latest_concat, latest_concat, ih]
    cases latest (fun b => key (f b)) l with
    | none => rfl
    | some x =>
      simp only [map_some, latestStep, later]
      split <;> rfl

theorem latestOf_eq_or (x y : Option α) : latestOf key x y = x ∨ latestOf key x y = y := by
  cases x with
  | none => exact .inr (latestOf_none_left key y)
  | some x =>
    cases y with
    | none => exact .inl rfl
    | some y =>
      simp only [latestOf, latestStep, later]
      split
      · exact .inr rfl
      · exact .inl rfl

theorem exists_latestOf_ge {x y z} (hz : z ∈ x ∨ z ∈ y) : ∃ e ∈ latestOf key x y, key z ≤ key e := by
  cases x with
  | none => exact ⟨z, by simpa using hz, le_rfl⟩
  | some x =>
    cases y with
    | none => exact ⟨z, by simpa [latestOf] using hz, le_rfl⟩
    | some y =>
      refine ⟨later key x y, rfl, ?_⟩
      simp only [mem_def, some.injEq] at hz
      rw [later]
      split <;> obtain rfl | rfl := hz
      · assumption
      · exact le_rfl
      · exact le_rfl
      · exact le_of_not_ge ‹_›

/-! ## What may be the latest under some order -/

/-- `r` is the latest of the elements of `E` under some order: one with the greatest key, if there is one. -/
def IsLatest (E : Set α) : Option α → Prop
  | none => E = ∅
  | some e => e ∈ E ∧ ∀ x ∈ E, key x ≤ key e

theorem isLatest_latest (l : List α) : IsLatest key {x | x ∈ l} (latest key l) := by
  induction l using reverseRecOn with
  | nil => simp [IsLatest]
  | append_singleton l y ih =>
    rw [latest_concat]
    cases hl : latest key l with
    | none =>
      rw [hl] at ih
      have hempty : ∀ x, x ∉ l := Set.eq_empty_iff_forall_notMem.mp ih
      simp [latestStep, IsLatest, hempty]
    | some x =>
      rw [hl] at ih
      obtain ⟨hmem, hmax⟩ := ih
      simp only [latestStep, later]
      split
      · rename_i hle
        refine ⟨by simp, fun z hz => ?_⟩
        cases mem_append.mp hz with
        | inl hz => exact (hmax z hz).trans hle
        | inr hz => rw [mem_singleton.mp hz]
      · rename_i hlt
        refine ⟨mem_append_left _ hmem, fun z hz => ?_⟩
        cases mem_append.mp hz with
        | inl hz => exact hmax z hz
        | inr hz =>
          rw [mem_singleton.mp hz]
          exact le_of_not_ge hlt

variable {key}

theorem latest_eq_none {l} : latest key l = none ↔ l = [] := by
  constructor
  · intro h
    have := isLatest_latest key l
    rw [h] at this
    exact eq_nil_iff_forall_not_mem.mpr (Set.eq_empty_iff_forall_notMem.mp this)
  · rintro rfl
    rfl

theorem mem_of_latest {l e} (h : latest key l = some e) : e ∈ l := by
  have := isLatest_latest key l
  rw [h] at this
  exact this.1

theorem le_of_latest {l e x} (h : latest key l = some e) (hx : x ∈ l) : key x ≤ key e := by
  have := isLatest_latest key l
  rw [h] at this
  exact this.2 x hx

theorem latestOf_eq_right {x e} (h : ∀ y ∈ x, key y ≤ key e) : latestOf key x (some e) = some e := by
  cases x with
  | none => rfl
  | some y => simp [latestOf, latestStep, later, h y rfl]

theorem latestOf_self (x : Option α) : latestOf key x x = x := by
  cases x with
  | none => rfl
  | some x => exact latestOf_eq_right fun y hy => by cases hy; exact le_rfl

theorem latest_filter {p l e} (h : latest key l = some e) (he : p e) : latest key (l.filter p) = some e := by
  induction l using reverseRecOn generalizing e with
  | nil => cases h
  | append_singleton l y ih =>
    rw [latest_concat] at h
    rw [filter_append]
    cases hl : latest key l with
    | none =>
      rw [hl] at h
      cases h
      rw [latest_eq_none.mp hl]
      simp [he, latest, latestStep]
    | some x =>
      rw [hl] at h
      simp only [latestStep, later, some.injEq] at h
      split at h
      · rename_i hle
        subst h
        rw [filter_cons_of_pos he, filter_nil, latest_append]
        apply latestOf_eq_right
        intro z hz
        exact (le_of_latest hl ((mem_filter.mp (mem_of_latest hz)).1)).trans hle
      · rename_i hlt
        subst h
        have hx := ih hl he
        cases hy : p y with
        | false => simpa [hy] using hx
        | true =>
          rw [filter_cons_of_pos hy, filter_nil, latest_concat, hx, latestStep, later, if_neg hlt]

variable (key) in
/-- All elements with the greatest key are one: the latest does not depend on the order. -/
def Settled (E : Set α) : Prop :=
  ∀ e ∈ E, ∀ e' ∈ E, (∀ x ∈ E, key x ≤ key e) → (∀ x ∈ E, key x ≤ key e') → e = e'

theorem settled_iff {E} : Settled key E ↔ ∀ r r', IsLatest key E r → IsLatest key E r' → r = r' := by
  constructor
  · intro h r r' hr hr'
    cases r with
    | none =>
      cases r' with
      | none => rfl
      | some e' => exact absurd (hr ▸ hr'.1) (Set.notMem_empty e')
    | some e =>
      cases r' with
      | none => exact absurd (hr' ▸ hr.1) (Set.notMem_empty e)
      | some e' => exact congrArg some (h e hr.1 e' hr'.1 hr.2 hr'.2)
  · intro h e he e' he' hmax hmax'
    exact some.inj (h (some e) (some e') ⟨he, hmax⟩ ⟨he', hmax'⟩)

end PandaGen.Lib
