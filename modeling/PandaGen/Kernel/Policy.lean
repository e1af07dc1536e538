import PandaGen.Kernel.Types
import Mathlib.Algebra.BigOperators.Group.List.Basic

/-!
# Composed policies

`ComposedPolicy` of `policy/src/lib.rs`. A policy without side effects is a function of the event and the
context. What a list of policies decides is the product of their decisions in the monoid `PolicyDecision`.
-/

namespace PandaGen.Kernel

def DerivedAuthority.new (capabilities : Finset Nat) : DerivedAuthority := ⟨capabilities, []⟩

namespace PolicyDecision

def isAllow : PolicyDecision → Bool
  | allow _ => true
  | _ => false

def isDeny : PolicyDecision → Bool
  | deny _ => true
  | _ => false

def isRequire : PolicyDecision → Bool
  | require _ => true
  | _ => false

def derivedAuthority : PolicyDecision → Option DerivedAuthority
  | allow derived => derived
  | _ => none

end PolicyDecision

structure ComposedPolicy where
  policies : List PolicyEngine

namespace ComposedPolicy

structure Gathered where
  requires : List String
  mostRestrictiveDerived : Option DerivedAuthority

/-- The constraints of the first derived authority are kept until a second one comes. -/
def mostRestrictive : Option DerivedAuthority → Option DerivedAuthority → Option DerivedAuthority
  | existing, none => existing
  | none, some newDerived => some newDerived
  | some existing, some newDerived => some (.new (existing.capabilities ∩ newDerived.capabilities))

def conclude (g : Gathered) : PolicyDecision :=
  if g.requires.isEmpty then .allow g.mostRestrictiveDerived else .require ("; ".intercalate g.requires)

def evaluateLoop (event : PolicyEvent) (context : PolicyContext) : List PolicyEngine → Gathered → PolicyDecision
  | [], g => conclude g
  | policy :: rest, g =>
    match policy event context with
    | .deny reason => .deny reason
    | .require action => evaluateLoop event context rest { g with requires := g.requires ++ [action] }
    | .allow derived =>
      evaluateLoop event context rest
        { g with mostRestrictiveDerived := mostRestrictive g.mostRestrictiveDerived derived }

def evaluateAll (self : ComposedPolicy) (event : PolicyEvent) (context : PolicyContext) : PolicyDecision :=
  evaluateLoop event context self.policies ⟨[], none⟩

def evaluate (self : ComposedPolicy) : PolicyEngine := self.evaluateAll

end ComposedPolicy

/-! ## The monoid of decisions -/

namespace PolicyDecision

open ComposedPolicy (mostRestrictive)

def both : PolicyDecision → PolicyDecision → PolicyDecision
  | deny reason, _ => deny reason
  | _, deny reason => deny reason
  | require first, require second => require (first ++ "; " ++ second)
  | require action, allow _ => require action
  | allow _, require action => require action
  | allow first, allow second => allow (mostRestrictive first second)

theorem mostRestrictive_assoc (a b c) :
    mostRestrictive (mostRestrictive a b) c = mostRestrictive a (mostRestrictive b c) := by
  cases a <;> cases b <;> cases c <;> simp [mostRestrictive, DerivedAuthority.new, Finset.inter_assoc]

theorem none_mostRestrictive (a) : mostRestrictive none a = a := by
  cases a <;> rfl

instance : Monoid PolicyDecision where
  mul := both
  one := allow none
  mul_assoc a b c := by
    show both (both a b) c = both a (both b c)
    cases a <;> cases b <;> cases c <;> simp [both, mostRestrictive_assoc, String.append_assoc]
  one_mul a := by
    show both (allow none) a = a
    cases a <;> simp [both, none_mostRestrictive]
  mul_one a := by
    show both a (allow none) = a
    cases a <;> rfl

@[simp]
theorem deny_mul (reason d) : deny reason * d = deny reason := rfl

@[simp]
theorem isDeny_mul (a b : PolicyDecision) : (a * b).isDeny = (a.isDeny || b.isDeny) := by
  cases a <;> cases b <;> rfl

@[simp]
theorem isAllow_mul (a b : PolicyDecision) : (a * b).isAllow = (a.isAllow && b.isAllow) := by
  cases a <;> cases b <;> rfl

theorem isRequire_eq (d : PolicyDecision) : d.isRequire = (!d.isDeny && !d.isAllow) := by
  cases d <;> rfl

end PolicyDecision

namespace ComposedPolicy

variable {event : PolicyEvent} {context : PolicyContext}

variable (g : Gathered)

theorem conclude_mul_deny (reason) : conclude g * PolicyDecision.deny reason = .deny reason := by
  rw [conclude]
  split <;> rfl

theorem conclude_require (action) :
    conclude { g with requires := g.requires ++ [action] } = conclude g * PolicyDecision.require action := by
  have hne : (g.requires ++ [action]).isEmpty = false := by simp
  simp only [conclude, hne, Bool.false_eq_true, if_false]
  split
  · rename_i hempty
    rw [List.isEmpty_iff.mp hempty, List.nil_append, String.intercalate_singleton]
    rfl
  · rename_i hsome
    rw [List.isEmpty_iff] at hsome
    rw [String.intercalate_append_of_ne_nil hsome (by simp), String.intercalate_singleton]
    rfl

theorem evaluateLoop_eq (policies g) :
    evaluateLoop event context policies g = conclude g * (policies.map (· event context)).prod := by
  induction policies generalizing g with
  | nil => simp [evaluateLoop]
  | cons policy rest ih =>
    rw [evaluateLoop, List.map_cons, List.prod_cons, ← mul_assoc]
    split
    · rename_i reason hdeny
      rw [hdeny, conclude_mul_deny, PolicyDecision.deny_mul]
    · rename_i action hrequire
      rw [ih, hrequire, conclude_require]
    · rename_i derived hallow
      rw [ih, hallow]
      simp only [conclude]
      split <;> rfl

theorem evaluate_eq_prod (self : ComposedPolicy) :
    self.evaluate event context = (self.policies.map (· event context)).prod := by
  rw [evaluate, evaluateAll, evaluateLoop_eq]
  exact one_mul _

end ComposedPolicy

end PandaGen.Kernel
