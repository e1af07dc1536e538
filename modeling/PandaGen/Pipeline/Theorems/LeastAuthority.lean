import PandaGen.Pipeline.Lemmas.Executor

/-!
# Least authority
-/

namespace PandaGen.Pipeline

open Lib Kernel Storage Option Nat Event DerivedAuthority

/-! ## What a history says -/

namespace Event

def startDerives : Event → Option (Finset Nat)
  | .started (.allow (some derived)) => some derived.capabilities
  | _ => none

def stageDerives (index : Nat) : Event → Option (Finset Nat)
  | .stageStarted i (.allow (some derived)) => if i = index then some derived.capabilities else none
  | _ => none

def returns : Event → List Nat
  | .answered _ (.success _ capabilities) => capabilities
  | _ => []

end Event

def derivedAtStart (history : List Event) : Option (Finset Nat) := history.findSome? Event.startDerives

/-- The authority in force for a stage: the one derived for it, or else the one derived at the start. -/
def authorityInForce (history : List Event) (index : Nat) : Option (Finset Nat) :=
  (history.findSome? (Event.stageDerives index)).or (derivedAtStart history)

def poolAfter (pool : Finset Nat) (history : List Event) : Finset Nat :=
  pool ∪ (history.flatMap Event.returns).toFinset

section

variable {history : List Event} {event : Event} {index : Nat} {pool : Finset Nat}

theorem derivedAtStart_concat :
    derivedAtStart (history ++ [event]) = (derivedAtStart history).or event.startDerives := by
  simp [derivedAtStart, List.findSome?_append]

theorem poolAfter_concat : poolAfter pool (history ++ [event]) = poolAfter pool history ∪ event.returns.toFinset := by
  simp [poolAfter, Finset.union_assoc]

theorem poolAfter_of_returns_nil (h : event.returns = []) :
    poolAfter pool (history ++ [event]) = poolAfter pool history := by
  simp [poolAfter_concat, h]

theorem derivedAtStart_of_unasked (h : ∀ decision, .started decision ∉ history) : derivedAtStart history = none := by
  rw [derivedAtStart, List.findSome?_eq_none_iff]
  intro event hmem
  unfold startDerives
  split
  · exact absurd hmem (h _)
  · rfl

theorem stageDerives_of_unasked (h : ∀ i decision, .stageStarted i decision ∈ history → i < index) :
    history.findSome? (stageDerives index) = none := by
  rw [List.findSome?_eq_none_iff]
  intro event hmem
  unfold stageDerives
  split
  · rename_i i derived
    exact if_neg (Nat.ne_of_lt (h i _ hmem))
  · rfl

theorem startDerives_started (decision) :
    (started decision).startDerives = decision.derivedAuthority.map capabilities := by
  rcases decision with (_ | _) | _ | _ <;> rfl

theorem stageDerives_stageStarted (decision) : (stageStarted index decision).stageDerives index =
      decision.derivedAuthority.map capabilities := by
  rcases decision with (_ | _) | _ | _ <;> simp [stageDerives, PolicyDecision.derivedAuthority]

end

/-! ## The monitor keeps account -/

structure Started (policed : Bool) (pool : Finset Nat) (history : List Event) (authority : Option (Finset Nat)) :
    Prop where
  derived : derivedAtStart history = authority
  allowed : ∀ decision, .started decision ∈ history → decision.isAllow = true
  asked : policed = true → ∃ decision, .started decision ∈ history
  subset : ∀ a ∈ authority, a ⊆ pool

structure Admitted (policed : Bool) (history : List Event) (authority : Option (Finset Nat)) (index : Nat)
    (own : Option (Finset Nat)) : Prop where
  inForce : authorityInForce history index = own
  allowed : ∀ decision, .stageStarted index decision ∈ history → decision.isAllow = true
  asked : policed = true → ∃ decision, .stageStarted index decision ∈ history
  subset : ∀ a ∈ own, ∀ b ∈ authority, a ⊆ b
  last : ∀ i decision, .stageStarted i decision ∈ history → i ≤ index

def Phase.Accounts (policed : Bool) (pool : Finset Nat) (history : List Event) (authority : Option (Finset Nat)) :
    Phase → Prop
  | .initial _ => poolAfter pool history = pool ∧ (∀ decision, .started decision ∉ history) ∧
      ∀ i decision, .stageStarted i decision ∉ history
  | .ready index _ => Started policed pool history authority ∧
      ∀ i decision, .stageStarted i decision ∈ history → i < index
  | .admitted index _ own => Started policed pool history authority ∧ Admitted policed history authority index own
  | .awaiting index _ own => Started policed pool history authority ∧ Admitted policed history authority index own
  | .refused _ => Started policed pool history authority
  | .closed => True

structure Course.Accounts (engine : Bool) (start : Finset Nat) (history : List Event) (c : Course) : Prop where
  policed : c.policed = engine
  pool : c.pool = poolAfter start history
  phase : c.phase.Accounts c.policed start history c.authority

section

variable {policed : Bool} {pool : Finset Nat} {history : List Event} {event : Event} {c c' : Course}
  {authority own : Option (Finset Nat)} {index : Nat} {input : TypedPayload}

theorem Started.concat (h : Started policed pool history authority) (hevent : ∀ decision, event ≠ .started decision) :
    Started policed pool (history ++ [event]) authority := by
  have hnone : event.startDerives = none := by
    unfold startDerives
    split
    · exact absurd rfl (hevent _)
    · rfl
  refine ⟨by rw [derivedAtStart_concat, h.derived, hnone, or_none], ?_, ?_, h.subset⟩
  · intro decision hmem
    rcases List.mem_append.mp hmem with hmem | hmem
    · exact h.allowed decision hmem
    · exact absurd (List.mem_singleton.mp hmem).symm (hevent decision)
  · intro hpoliced
    obtain ⟨decision, hmem⟩ := h.asked hpoliced
    exact ⟨decision, List.mem_append_left _ hmem⟩

theorem Admitted.concat (h : Admitted policed history authority index own) (hstart : ∀ d, event ≠ .started d)
    (hstage : ∀ i d, event ≠ .stageStarted i d) : Admitted policed (history ++ [event]) authority index own := by
  have hmem : ∀ i d, .stageStarted i d ∈ history ++ [event] → .stageStarted i d ∈ history := by
    intro i d hmem
    rcases List.mem_append.mp hmem with hmem | hmem
    · exact hmem
    · exact absurd (List.mem_singleton.mp hmem).symm (hstage i d)
  refine ⟨?_, fun d hd => h.allowed d (hmem _ d hd), ?_, h.subset, fun i d hd => h.last i d (hmem i d hd)⟩
  · have hnone : event.startDerives = none ∧ event.stageDerives index = none := by
      cases event with
      | started d => exact absurd rfl (hstart d)
      | stageStarted i d => exact absurd rfl (hstage i d)
      | _ => exact ⟨rfl, rfl⟩
    rw [← h.inForce]
    simp [authorityInForce, derivedAtStart_concat, List.findSome?_append, hnone]
  · intro hpoliced
    obtain ⟨decision, hd⟩ := h.asked hpoliced
    exact ⟨decision, List.mem_append_left _ hd⟩

theorem Started.enter (h : Started c.policed pool history c.authority)
    (hlast : ∀ i decision, .stageStarted i decision ∈ history → i < index) :
    (c.enter index input).phase.Accounts c.policed pool history c.authority := by
  unfold Course.enter Course.goto
  split
  · exact ⟨h, hlast⟩
  · rename_i hpoliced
    refine ⟨h, ?_, ?_, fun hp => absurd hp hpoliced, ?_, fun i d hd => le_of_lt (hlast i d hd)⟩
    · rw [authorityInForce, stageDerives_of_unasked hlast, none_or, h.derived]
    · exact fun d hd => absurd (hlast index d hd) (lt_irrefl _)
    · intro a ha b hb
      rw [mem_unique ha hb]

theorem leaves_isAllow {current decision} (h : leaves current authority decision = some own) :
    decision.isAllow = true := by
  cases decision with
  | allow derived => rfl
  | _ => simp [leaves] at h

theorem leaves_eq {current decision} (h : leaves current authority decision = some own) :
    own = (decision.derivedAuthority.map capabilities).or authority ∧
      ∀ derived, decision.derivedAuthority = some derived → derived.capabilities ⊆ current := by
  cases decision with
  | allow derived =>
    cases derived with
    | none =>
      simp only [leaves, some.injEq] at h
      exact ⟨h.symm, fun _ h => by cases h⟩
    | some derived =>
      simp only [leaves, ite_none_right_eq_some, some.injEq] at h
      refine ⟨h.2.symm, fun derived' heq => ?_⟩
      cases heq
      exact h.1
  | _ => simp [leaves] at h

theorem Started.of_leaves {decision} (hpool : poolAfter pool history = pool)
    (hunasked : ∀ decision, .started decision ∉ history)
    (hleaves : leaves (poolAfter pool history) none decision = some own) :
    Started policed pool (history ++ [.started decision]) own := by
  obtain ⟨rfl, hsub⟩ := leaves_eq hleaves
  refine ⟨?_, ?_, fun _ => ⟨decision, by simp⟩, ?_⟩
  · rw [derivedAtStart_concat, derivedAtStart_of_unasked hunasked, startDerives_started, none_or, or_none]
  · intro decision' hmem
    rcases List.mem_append.mp hmem with hmem | hmem
    · exact absurd hmem (hunasked decision')
    · cases List.mem_singleton.mp hmem
      exact leaves_isAllow hleaves
  · intro a ha
    rw [or_none, mem_map] at ha
    obtain ⟨derived, hderived, rfl⟩ := ha
    exact hpool ▸ hsub derived hderived

theorem Admitted.of_leaves {decision} (hstarted : derivedAtStart history = authority)
    (hlast : ∀ i decision, .stageStarted i decision ∈ history → i < index)
    (hleaves : leaves (authority.getD (poolAfter pool history)) authority decision = some own) :
    Admitted policed (history ++ [.stageStarted index decision]) authority index own := by
  obtain ⟨rfl, hsub⟩ := leaves_eq hleaves
  refine ⟨?_, ?_, fun _ => ⟨decision, by simp⟩, ?_, ?_⟩
  · have hnone : (stageStarted index decision).startDerives = none := rfl
    rw [authorityInForce, List.findSome?_append, stageDerives_of_unasked hlast, derivedAtStart_concat, hstarted, hnone]
    simp [stageDerives_stageStarted]
  · intro decision' hmem
    rcases List.mem_append.mp hmem with hmem | hmem
    · exact absurd (hlast index decision' hmem) (lt_irrefl _)
    · cases List.mem_singleton.mp hmem
      exact leaves_isAllow hleaves
  · intro a ha b hb
    rw [mem_def.mp hb] at ha hsub
    cases hderived : decision.derivedAuthority with
    | none =>
      rw [hderived] at ha
      cases ha
      exact Finset.Subset.refl _
    | some derived =>
      rw [hderived] at ha
      cases ha
      exact hsub derived hderived
  · intro i decision' hmem
    rcases List.mem_append.mp hmem with hmem | hmem
    · exact le_of_lt (hlast i decision' hmem)
    · cases List.mem_singleton.mp hmem
      exact le_refl _

theorem Phase.Accounts.concat {phase : Phase} (h : phase.Accounts policed pool history authority)
    (hreturns : event.returns = []) (hstart : ∀ d, event ≠ .started d) (hstage : ∀ i d, event ≠ .stageStarted i d) :
    phase.Accounts policed pool (history ++ [event]) authority := by
  have hold {e : Event} (hmem : e ∈ history ++ [event]) (hne : e ≠ event) : e ∈ history :=
    (List.mem_append.mp hmem).resolve_right fun hlast => hne (List.mem_singleton.mp hlast)
  cases phase with
  | initial input =>
    refine ⟨(poolAfter_of_returns_nil hreturns).trans h.1, fun d hmem => ?_, fun i d hmem => ?_⟩
    · exact h.2.1 d (hold hmem (hstart d).symm)
    · exact h.2.2 i d (hold hmem (hstage i d).symm)
  | ready i input => exact ⟨h.1.concat hstart, fun j d hmem => h.2 j d (hold hmem (hstage j d).symm)⟩
  | admitted i input own | awaiting i input own => exact ⟨h.1.concat hstart, h.2.concat hstart hstage⟩
  | refused i => exact Started.concat h hstart
  | closed => trivial

theorem Course.Accounts.new (engine pool) (input : TypedPayload) :
    (Course.new engine pool input).Accounts engine pool [] := by
  have hnil : poolAfter pool [] = pool := by simp [poolAfter]
  unfold Course.new
  split
  · exact ⟨rfl, hnil.symm, hnil, nofun, nofun⟩
  · rename_i hengine
    refine ⟨rfl, hnil.symm, Started.enter (c := ⟨engine, pool, none, .initial input⟩) ⟨rfl, nofun, ?_, nofun⟩ nofun⟩
    exact fun h => absurd h hengine

variable [SerdeJson StageInvokeRequest] {spec : PipelineSpec} {engine : Bool}

theorem Course.Accounts.step (h : c.Accounts engine pool history) (hstep : Step spec c event c') :
    c'.Accounts engine pool (history ++ [event]) := by
  have hphase := h.phase
  cases hstep with
  | @started input decision own hc hleaves =>
    rw [hc] at hphase
    obtain ⟨hpool, hstart, hstage⟩ := hphase
    rw [h.pool] at hleaves
    refine ⟨h.policed, h.pool.trans (poolAfter_of_returns_nil rfl).symm, ?_⟩
    apply Started.enter (c := { c with authority := own }) (.of_leaves hpool hstart hleaves)
    intro i decision' hmem
    rcases List.mem_append.mp hmem with hmem | hmem
    · exact absurd hmem (hstage i decision')
    · cases List.mem_singleton.mp hmem
  | startRefused hc hleaves | invalidAuthority hc hsub | missingCapability hc hstage hmem hcovers =>
    exact ⟨h.policed, h.pool.trans (poolAfter_of_returns_nil rfl).symm, trivial⟩
  | @stageStarted index input decision own hc hleaves =>
    rw [hc] at hphase
    rw [h.pool] at hleaves
    refine ⟨h.policed, h.pool.trans (poolAfter_of_returns_nil rfl).symm, hphase.1.concat nofun, ?_⟩
    exact .of_leaves hphase.1.derived hphase.2 hleaves
  | stageRefused hc hleaves =>
    rw [hc] at hphase
    exact ⟨h.policed, h.pool.trans (poolAfter_of_returns_nil rfl).symm, hphase.1.concat nofun⟩
  | sent hc hstage hcovers hcarries =>
    rw [hc] at hphase
    refine ⟨h.policed, h.pool.trans (poolAfter_of_returns_nil rfl).symm, ?_⟩
    exact ⟨hphase.1.concat nofun, hphase.2.concat nofun nofun⟩
  | @answered index input own result hc =>
    rw [hc] at hphase
    have hstarted := hphase.1.concat fun decision (heq : answered index result = .started decision) => nomatch heq
    have hadmitted := hphase.2.concat (fun decision (heq : answered index result = .started decision) => nomatch heq)
      nofun
    cases result with
    | success output capabilities =>
      refine ⟨h.policed, ?_, ?_⟩
      · rw [poolAfter_concat, ← h.pool]
        rfl
      · refine Started.enter (c := { c with pool := c.pool ∪ capabilities.toFinset }) hstarted fun i d hd => ?_
        exact lt_succ_of_le (hadmitted.last i d hd)
    | retryable error =>
      exact ⟨h.policed, h.pool.trans (poolAfter_of_returns_nil rfl).symm, hstarted, hadmitted⟩
    | failure error | cancelled reason =>
      exact ⟨h.policed, h.pool.trans (poolAfter_of_returns_nil rfl).symm, trivial⟩
  | stageEnded =>
    exact ⟨h.policed, h.pool.trans (poolAfter_of_returns_nil rfl).symm, h.phase.concat rfl nofun nofun⟩

end

section

variable [SerdeDisplay StageInvokeRequest] [SerdeDisplay StageInvokeResponse]
variable {W : Type} {env : Environment W} {spec : PipelineSpec} {input : TypedPayload}

def Environment.historyOf (env : Environment W) (spec : PipelineSpec) (input : TypedPayload) (world : W)
    (pool : CapabilityPool) : List Event :=
  ((env.execute spec input).exec (.new world pool spec.id)).2.history

omit [SerdeDisplay StageInvokeResponse] in
theorem accounts_of_reads {pool history c} (h : Reads (Step spec) (env.courseOf input pool) history c) :
    c.Accounts env.policyEngine.isSome pool.getCapabilitySet history :=
  h.invariant (P := fun w t => t.Accounts env.policyEngine.isSome pool.getCapabilitySet w) (.new _ _ input)
    fun _ _ _ _ hc hs => hc.step hs

/-- An event comes where the monitor allows it, and the monitor has kept account of the events before. -/
theorem accounts_before {world pool before after event}
    (h : env.historyOf spec input world pool = before ++ event :: after) :
    ∃ c c', c.Accounts env.policyEngine.isSome pool.getCapabilitySet before ∧ Step spec c event c' := by
  obtain ⟨c, hreads⟩ := env.execute_reads spec input world pool
  obtain ⟨m, m', hbefore, hstep⟩ := hreads.split h
  exact ⟨m, m', accounts_of_reads hbefore, hstep⟩

/-- A request goes to a stage only under the authority in force for it, which no other stage restricts, and a stage is
refused for its own authority only. -/
theorem least_authority (env : Environment W) (spec : PipelineSpec) (input : TypedPayload) (world : W)
    (pool : CapabilityPool) (before after : List Event) :
    (∀ index request, env.historyOf spec input world pool = before ++ .sent index request :: after →
      (∃ stage, spec.stages[index]? = some stage ∧ ∀ capId ∈ stage.requiredCapabilities,
        capId ∈ poolAfter pool.getCapabilitySet before ∧ ∀ a ∈ authorityInForce before index, capId ∈ a) ∧
      (∀ a ∈ authorityInForce before index, ∀ s ∈ derivedAtStart before, a ⊆ s) ∧
      (∀ s ∈ derivedAtStart before, s ⊆ pool.getCapabilitySet) ∧
      (∀ decision, .started decision ∈ before ∨ .stageStarted index decision ∈ before → decision.isAllow = true) ∧
      (env.policyEngine.isSome →
        (∃ decision, .started decision ∈ before) ∧ ∃ decision, .stageStarted index decision ∈ before)) ∧
    (∀ index capId, env.historyOf spec input world pool = before ++ .missingCapability index capId :: after →
      ¬ (capId ∈ poolAfter pool.getCapabilitySet before ∧ ∀ a ∈ authorityInForce before index, capId ∈ a)) ∧
    (∀ index derived, env.historyOf spec input world pool = before ++ .invalidAuthority index derived :: after →
      ¬ derived ⊆ (derivedAtStart before).getD (poolAfter pool.getCapabilitySet before)) := by
  refine ⟨fun index request hhistory => ?_, fun index capId hhistory => ?_, fun index derived hhistory => ?_⟩
  · obtain ⟨c, c', ⟨hpoliced, hpool, hphase⟩, hstep⟩ := accounts_before hhistory
    cases hstep with
    | @sent _ input own stage _ hc hstage hcovers hcarries =>
      rw [hc] at hphase
      obtain ⟨hstarted, hadmitted⟩ := hphase
      rw [hpoliced] at hstarted hadmitted
      rw [hadmitted.inForce, hstarted.derived, ← hpool]
      refine ⟨⟨stage, hstage, hcovers⟩, hadmitted.subset, hstarted.subset, ?_, ?_⟩
      · rintro decision (hmem | hmem)
        · exact hstarted.allowed decision hmem
        · exact hadmitted.allowed decision hmem
      · exact fun hengine => ⟨hstarted.asked hengine, hadmitted.asked hengine⟩
  · obtain ⟨c, c', ⟨hpoliced, hpool, hphase⟩, hstep⟩ := accounts_before hhistory
    cases hstep with
    | missingCapability hc hstage hmem hcovers =>
      rw [hc] at hphase
      rw [hphase.2.inForce, ← hpool]
      exact hcovers
  · obtain ⟨c, c', ⟨hpoliced, hpool, hphase⟩, hstep⟩ := accounts_before hhistory
    cases hstep with
    | invalidAuthority hc hsub =>
      rw [hc] at hphase
      rw [hphase.derived, ← hpool]
      exact hsub

end

end PandaGen.Pipeline
