import PandaGen.Kernel.Policy
import Mathlib.Data.List.Perm.Basic

/-!
# The law of policy composition
-/

namespace PandaGen.Kernel

open PolicyDecision List Bool

namespace PolicyDecision

def derivedSet (d : PolicyDecision) : Option (Finset Nat) := d.derivedAuthority.map (·.capabilities)

variable (ds : List PolicyDecision)

theorem isDeny_prod : ds.prod.isDeny = true ↔ ∃ d ∈ ds, d.isDeny = true := by
  induction ds with
  | nil => exact iff_of_false nofun nofun
  | cons d ds ih => simp [ih]

theorem isAllow_prod : ds.prod.isAllow = true ↔ ∀ d ∈ ds, d.isAllow = true := by
  induction ds with
  | nil => exact iff_of_true rfl nofun
  | cons d ds ih => simp [ih]

theorem isAllow_iff (d : PolicyDecision) : d.isAllow = true ↔ d.isDeny = false ∧ d.isRequire = false := by
  cases d <;> simp [isAllow, isDeny, isRequire]

theorem isRequire_prod : ds.prod.isRequire = true ↔ (∀ d ∈ ds, d.isDeny = false) ∧ ∃ d ∈ ds, d.isRequire = true := by
  have hdeny := isDeny_prod ds
  have hallow := isAllow_prod ds
  rw [isRequire_eq, and_eq_true, not_eq_true', not_eq_true', ← not_eq_true, ← not_eq_true, hdeny, hallow]
  constructor
  · rintro ⟨hnone, hsome⟩
    have hnone' : ∀ d ∈ ds, d.isDeny = false := by simpa using hnone
    push Not at hsome
    obtain ⟨d, hd, hd'⟩ := hsome
    exact ⟨hnone', d, hd, by simp [isRequire_eq, hnone' d hd, hd']⟩
  · rintro ⟨hnone, d, hd, hd'⟩
    refine ⟨by simpa using hnone, fun hall => ?_⟩
    have := (isAllow_iff d).mp (hall d hd)
    simp [this.2] at hd'

theorem derivedSet_of_not_isAllow {d : PolicyDecision} (h : d.isAllow = false) : d.derivedSet = none := by
  cases d with
  | allow derived => cases h
  | deny _ | require _ => rfl

end PolicyDecision

def IsIntersection (sets : List (Finset Nat)) : Option (Finset Nat) → Prop
  | none => sets = []
  | some s => sets ≠ [] ∧ ∀ n, n ∈ s ↔ ∀ t ∈ sets, n ∈ t

namespace IsIntersection

variable {sets sets' : List (Finset Nat)} {s s' : Option (Finset Nat)}

theorem perm (hp : sets.Perm sets') (h : IsIntersection sets s) : IsIntersection sets' s := by
  cases s with
  | none =>
    have hnil : sets = [] := h
    exact nil_perm.mp (hnil ▸ hp)
  | some s =>
    refine ⟨fun hnil => h.1 (perm_nil.mp (hnil ▸ hp)), fun n => ?_⟩
    rw [h.2 n]
    exact ⟨fun hn t ht => hn t (hp.mem_iff.mpr ht), fun hn t ht => hn t (hp.mem_iff.mp ht)⟩

theorem unique (h : IsIntersection sets s) (h' : IsIntersection sets s') : s = s' := by
  cases s with
  | none =>
    cases s' with
    | none => rfl
    | some s' => exact absurd h h'.1
  | some s =>
    cases s' with
    | none => exact absurd h' h.1
    | some s' => rw [Finset.ext fun n => (h.2 n).trans (h'.2 n).symm]

theorem cons {d : PolicyDecision} {derived : Option DerivedAuthority}
    (h : IsIntersection sets (derived.map (·.capabilities))) : IsIntersection (d.derivedSet.toList ++ sets)
      ((ComposedPolicy.mostRestrictive d.derivedAuthority derived).map (·.capabilities)) := by
  rw [PolicyDecision.derivedSet]
  cases d.derivedAuthority with
  | none => simpa [none_mostRestrictive] using h
  | some first =>
    cases derived with
    | none =>
      have hnil : sets = [] := h
      subst hnil
      exact ⟨by simp, by simp⟩
    | some second =>
      refine ⟨by simp, fun n => ?_⟩
      have hn := h.2 n
      simp only [DerivedAuthority.new, Finset.mem_inter, Option.map_some, Option.toList_some,
        cons_append, nil_append, forall_mem_cons]
      rw [hn]

end IsIntersection

namespace PolicyDecision

def derivedSets (ds : List PolicyDecision) : List (Finset Nat) := ds.flatMap (·.derivedSet.toList)

theorem derivedSet_prod {ds : List PolicyDecision} (h : ∀ d ∈ ds, d.isAllow = true) :
    IsIntersection (derivedSets ds) ds.prod.derivedSet := by
  induction ds with
  | nil => exact rfl
  | cons d ds ih =>
    rw [forall_mem_cons] at h
    have htail := (isAllow_prod ds).mpr h.2
    have hset := ih h.2
    rw [prod_cons]
    cases d with
    | deny _ | require _ => cases h.1
    | allow derived =>
      cases hprod : ds.prod with
      | deny _ | require _ => rw [hprod] at htail; cases htail
      | allow rest =>
        rw [hprod] at hset
        exact hset.cons (d := .allow derived)

end PolicyDecision

namespace ComposedPolicy

variable (event : PolicyEvent) (context : PolicyContext)

def SameOutcome (d d' : PolicyDecision) : Prop :=
  d'.isDeny = d.isDeny ∧ d'.isRequire = d.isRequire ∧ d'.isAllow = d.isAllow ∧ d'.derivedSet = d.derivedSet

theorem sameOutcome_prod {ds ds' : List PolicyDecision} (hp : ds.Perm ds') : SameOutcome ds.prod ds'.prod := by
  have hdeny : ds'.prod.isDeny = ds.prod.isDeny := by
    rw [Bool.eq_iff_iff, isDeny_prod, isDeny_prod]
    simp only [hp.mem_iff]
  have hallow : ds'.prod.isAllow = ds.prod.isAllow := by
    rw [Bool.eq_iff_iff, isAllow_prod, isAllow_prod]
    simp only [hp.mem_iff]
  refine ⟨hdeny, by rw [isRequire_eq, isRequire_eq, hdeny, hallow], hallow, ?_⟩
  cases ha : ds.prod.isAllow with
  | false =>
    rw [derivedSet_of_not_isAllow ha, derivedSet_of_not_isAllow (hallow.trans ha)]
  | true =>
    have hset := derivedSet_prod ((isAllow_prod ds).mp ha)
    have hset' := derivedSet_prod ((isAllow_prod ds').mp (hallow.trans ha))
    exact hset'.unique (hset.perm (hp.flatMap_right _))

/-- Deny beats Require beats Allow; an allowed operation gets the intersection of the derived sets; the order
of the policies and how they are nested do not matter, nesting not even to the texts. -/
theorem evaluate_composition_law (policies : List PolicyEngine) : let decisions := policies.map (· event context)
    let decision := evaluate ⟨policies⟩ event context
    (decision.isDeny = true ↔ ∃ d ∈ decisions, d.isDeny = true) ∧
      (decision.isRequire = true ↔ (∀ d ∈ decisions, d.isDeny = false) ∧ ∃ d ∈ decisions, d.isRequire = true) ∧
      (decision.isAllow = true ↔ ∀ d ∈ decisions, d.isDeny = false ∧ d.isRequire = false) ∧
      (decision.isAllow = true → IsIntersection (PolicyDecision.derivedSets decisions) decision.derivedSet) ∧
      (∀ permuted, policies.Perm permuted → SameOutcome decision (evaluate ⟨permuted⟩ event context)) ∧
      ∀ before block after, policies = before ++ block ++ after →
        evaluate ⟨before ++ evaluate ⟨block⟩ :: after⟩ event context = decision := by
  intro decisions decision
  have hdecision : decision = decisions.prod := evaluate_eq_prod _
  refine ⟨?_, ?_, ?_, ?_, ?_, ?_⟩
  · rw [hdecision]
    exact PolicyDecision.isDeny_prod _
  · rw [hdecision]
    exact PolicyDecision.isRequire_prod _
  · rw [hdecision, PolicyDecision.isAllow_prod]
    simp only [PolicyDecision.isAllow_iff]
  · intro hallow
    rw [hdecision] at hallow ⊢
    exact PolicyDecision.derivedSet_prod ((PolicyDecision.isAllow_prod _).mp hallow)
  · intro permuted hp
    rw [hdecision, evaluate_eq_prod]
    exact sameOutcome_prod (hp.map _)
  · rintro before block after rfl
    rw [hdecision]
    simp [evaluate_eq_prod, decisions]

end ComposedPolicy

end PandaGen.Kernel
