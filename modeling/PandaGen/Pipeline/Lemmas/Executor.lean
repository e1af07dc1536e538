import PandaGen.Lib.Walk
import PandaGen.Pipeline.Monitor
import Mathlib.Tactic.Common

/-!
# The executor under the reference monitor

The history of every execution, however it ends, is one that the reference monitor reads.
-/

namespace PandaGen.Pipeline

open Lib Kernel Storage Proc List Course Environment CapabilityPool Std.ExtTreeMap

variable {α : Type}

/-! ## The pool -/

namespace CapabilityPool

variable {pool : CapabilityPool} {capId : Nat}

theorem mem_getCapabilitySet : capId ∈ pool.getCapabilitySet ↔ pool.hasCapability capId = true := by
  unfold getCapabilitySet hasCapability
  simp only [mem_toFinset, mem_filterMap, Prod.exists, Option.ite_none_right_eq_some, Option.some.injEq]
  constructor
  · rintro ⟨_, present, hmem, hpresent, rfl⟩
    rw [mem_toList_iff_getElem?_eq_some] at hmem
    rw [hmem]
    exact hpresent
  · intro h
    cases hget : pool[capId]? with
    | none => simp [hget] at h
    | some present =>
      rw [hget] at h
      exact ⟨capId, present, mem_toList_iff_getElem?_eq_some.mpr hget, h, rfl⟩

theorem hasCapabilityWithAuthority_iff {authority} :
    pool.hasCapabilityWithAuthority capId authority = true ↔ Covers pool.getCapabilitySet authority capId := by
  unfold hasCapabilityWithAuthority Covers
  rw [mem_getCapabilitySet]
  cases pool.hasCapability capId <;> cases authority <;> simp

theorem hasCapability_insert (capId') :
    hasCapability (pool.insert capId' true) capId = (decide (capId' = capId) || pool.hasCapability capId) := by
  unfold hasCapability
  rw [BTreeMap.getElem?_insert]
  by_cases h : capId' = capId <;> simp [h]

theorem getCapabilitySet_addCapabilities (pool : CapabilityPool) (capIds : List Nat) :
    (pool.addCapabilities capIds).getCapabilitySet = pool.getCapabilitySet ∪ capIds.toFinset := by
  unfold addCapabilities
  induction capIds generalizing pool with
  | nil => simp
  | cons capId' rest ih =>
    rw [foldl_cons, ih]
    ext capId
    simp only [Finset.mem_union, mem_getCapabilitySet, hasCapability_insert, mem_toFinset, mem_cons,
      Bool.or_eq_true, decide_eq_true_eq]
    tauto

end CapabilityPool

variable {W : Type} {e e' : Execution W} {env : Environment W}

/-! ## Steps that leave the history, the trace and the pool alone -/

structure Quiet (e e' : Execution W) : Prop where
  history : e'.history = e.history
  entries : e'.trace.entries = e.trace.entries
  pool : e'.availableCapabilities = e.availableCapabilities

instance : Std.Refl (Quiet (W := W)) where
  refl _ := ⟨rfl, rfl, rfl⟩

instance : Trans (Quiet (W := W)) Quiet Quiet where
  trans h h' := ⟨h'.history.trans h.history, h'.entries.trans h.entries, h'.pool.trans h.pool⟩

abbrev Quietly {ε α : Type} (m : Proc (Execution W) ε α) : Prop := m.Relates Quiet

/-- A quiet step that may panic and does not return `Err`. -/
def Surely (m : Exec W α) : Prop := ∀ e, m.Keeps (fun _ => False) (Quiet e) e fun _ => Quiet e

namespace Exec

theorem quietly_onWorld {ε : Type} (m : Proc W ε α) : Quietly (onWorld m) :=
  relates_zoom fun _ _ => ⟨rfl, rfl, rfl⟩

theorem quietly_total (m : Proc W Empty α) : Quietly (total m) := (quietly_onWorld m).mapErr _

theorem surely_total (m : Proc W Empty α) : Surely (total m) := by
  refine fun e => post_mapErr.mpr (Post.mono (quietly_onWorld m e) fun r e' hq => ?_)
  rcases r with (⟨⟨⟩⟩ | _) | _ <;> exact hq

theorem quietly_fail (result error) : Quietly (fail result error : Exec W α) := fun _ => ⟨rfl, rfl, rfl⟩

end Exec

namespace Environment

open Exec Proc

variable (env : Environment W)

theorem quietly_now : Quietly env.now := quietly_total _

theorem quietly_timeoutMillis (timeoutMs) : Quietly (timeoutMillis timeoutMs : Exec W (Option Nat)) := by
  cases timeoutMs with
  | none => exact relates_pure none
  | some ms => exact (relates_okOrPanic _).map _

theorem quietly_deadline (timeoutMs) : Quietly (env.deadline timeoutMs) := by
  cases timeoutMs with
  | none => exact relates_pure none
  | some ms =>
    refine env.quietly_now.bind fun start => ?_
    refine (relates_okOrPanic _).bind fun duration => ?_
    exact (relates_okOrPanic _).bind fun _ => relates_pure _

theorem quietly_hasPassed (deadline) : Quietly (env.hasPassed deadline) := by
  cases deadline with
  | none => exact relates_pure false
  | some instant => exact env.quietly_now.bind fun _ => relates_pure _

theorem quietly_actorIdentity : Quietly env.actorIdentity := by
  unfold actorIdentity
  split
  · exact relates_pure _
  · exact env.quietly_now.bind fun _ => (quietly_total _).bind fun _ => relates_pure _

theorem surely_buildStageContext (spec : PipelineSpec) (stage : StageSpec) :
    Surely (env.buildStageContext spec stage) := by
  intro e
  refine Keeps.bind (P := fun _ => Quiet e) ?_ fun _ _ hq => keeps_pure hq
  unfold actorIdentity
  split
  · exact keeps_pure (Std.Refl.refl e)
  · refine (surely_total _ e).bind fun createdAt e1 hq1 => ?_
    refine ((surely_total _ e1).imp (fun _ => id) (fun _ => Trans.trans hq1) fun _ _ => Trans.trans hq1).bind
      fun _ _ hq => keeps_pure hq

theorem quietly_buildPipelineContext (spec : PipelineSpec) : Quietly (env.buildPipelineContext spec) :=
  env.quietly_actorIdentity.bind fun _ => relates_pure _

theorem quietly_buildStageContext (spec : PipelineSpec) (stage : StageSpec) :
    Quietly (env.buildStageContext spec stage) :=
  env.quietly_actorIdentity.bind fun _ => relates_pure _

theorem quietly_lookupHandler (stage : StageSpec) : Quietly (env.lookupHandler stage) := (quietly_onWorld _).mapErr _

theorem quietly_interrupted (stageDeadline) : Quietly (env.interrupted stageDeadline) := by
  refine relates_get.bind fun e => ?_
  split
  · exact relates_pure _
  · exact (env.quietly_hasPassed stageDeadline).bind fun _ => relates_pure _

theorem quietly_backOff (policy : RetryPolicy) (attempt : Nat) : Quietly (env.backOff policy attempt) := by
  unfold backOff
  dsimp only
  split
  · refine (relates_okOrPanic _).bind fun duration => ?_
    exact (quietly_onWorld _).attempt.bind fun _ => relates_pure _
  · exact relates_pure _

theorem quietly_checkCancelled (stage) : Quietly (env.checkCancelled stage) := by
  refine relates_get.bind fun e => ?_
  split
  · exact quietly_fail _ _
  · exact relates_pure _

theorem quietly_checkDeadline (stage pipelineDeadline) : Quietly (env.checkDeadline stage pipelineDeadline) := by
  refine (env.quietly_hasPassed pipelineDeadline).bind fun passed => ?_
  split
  · exact quietly_fail _ _
  · exact relates_pure _

variable [SerdeDisplay StageInvokeResponse]

theorem quietly_receiveResponse (stage : StageSpec) (channel : ChannelId) (requestId : MessageId) :
    Quietly (env.receiveResponse stage channel requestId) := by
  refine (quietly_timeoutMillis _).bind fun timeout => ?_
  refine ((quietly_onWorld _).mapErr _).bind fun response => ?_
  refine (relates_failIf _ _).bind fun _ => ?_
  split
  · exact relates_throw _
  · exact relates_pure _

end Environment

section Decisions

variable {current : Finset Nat} {authority : Option (Finset Nat)} {decision : PolicyDecision}

theorem applyDecision_eq_ok {policy : PolicyEngine W} {event : String} {pipelineId : PipelineId}
    {a : Option (Finset Nat)} : applyDecision policy event pipelineId current authority decision = .ok a ↔
      leaves current authority decision = some a := by
  cases decision with
  | allow derived =>
    cases derived with
    | none => simp [applyDecision, leaves]
    | some derived =>
      simp only [applyDecision, leaves]
      split <;> simp
  | _ => simp [applyDecision, leaves]

end Decisions

/-! ## Under the monitor -/

def Environment.courseOf (env : Environment W) (input : TypedPayload) (pool : CapabilityPool) : Course :=
  .new env.policyEngine.isSome pool.getCapabilitySet input

theorem Environment.courseOf_policed (input : TypedPayload) (pool) :
    (env.courseOf input pool).policed = env.policyEngine.isSome := by
  unfold courseOf new
  split <;> rfl

theorem Environment.courseOf_pool (input : TypedPayload) (pool) :
    (env.courseOf input pool).pool = pool.getCapabilitySet := by
  unfold courseOf new
  split <;> rfl

section Monitored

variable [SerdeDisplay StageInvokeRequest] {spec : PipelineSpec} {c₀ c c' : Course}

/-- The monitor reads the history. -/
def Read (spec : PipelineSpec) (c₀ : Course) (e : Execution W) : Prop := ∃ c, Reads (Step spec) c₀ e.history c

structure At (spec : PipelineSpec) (c₀ c : Course) (e : Execution W) : Prop where
  reads : Reads (Step spec) c₀ e.history c
  pool : e.availableCapabilities.getCapabilitySet = c.pool

def Followed (spec : PipelineSpec) (c₀ : Course) (e : Execution W) : Prop := ∃ c, At spec c₀ c e

/-- Between the answer of a stage and the insertion of what it returned the pool is behind: a step may only panic. -/
abbrev Monitored (spec : PipelineSpec) (c₀ : Course) (m : Exec W α) (e : Execution W) (P : α → Execution W → Prop) :
    Prop :=
  m.Keeps (Followed spec c₀) (Read spec c₀) e P

theorem At.followed (h : At spec c₀ c e) : Followed spec c₀ e := ⟨c, h⟩

theorem At.concat {event} (h : At spec c₀ c e) (hstep : Step spec c event c') (hpool : c'.pool = c.pool) :
    At spec c₀ c' { e with history := e.history ++ [event] } :=
  ⟨h.reads.concat hstep, h.pool.trans hpool.symm⟩

theorem At.quiet (h : At spec c₀ c e) (hq : Quiet e e') : At spec c₀ c e' :=
  ⟨hq.history ▸ h.reads, hq.pool ▸ h.pool⟩

theorem Quietly.monitored_bind {β : Type} {m : Exec W α} {f : α → Exec W β} {P : β → Execution W → Prop}
    (hm : Quietly m) (h : At spec c₀ c e)
    (hf : ∀ a e', At spec c₀ c e' → Quiet e e' → Monitored spec c₀ (f a) e' P) : Monitored spec c₀ (m >>= f) e P := by
  refine Keeps.bind (P := fun _ => Quiet e) (Post.mono (hm e) fun r e' hq => ?_) fun a e' hq => hf a e' (h.quiet hq) hq
  rcases r with (_ | _) | _
  · exact (h.quiet hq).followed
  · exact ⟨c, (h.quiet hq).reads⟩
  · exact hq

theorem Surely.monitored_bind {β : Type} {m : Exec W α} {f : α → Exec W β} {P : β → Execution W → Prop}
    (hm : Surely m) (h : Reads (Step spec) c₀ e.history c)
    (hf : ∀ a e', Reads (Step spec) c₀ e'.history c → Quiet e e' → Monitored spec c₀ (f a) e' P) :
    Monitored spec c₀ (m >>= f) e P :=
  Keeps.bind ((hm e).imp (fun _ => False.elim) (fun _ hq => ⟨c, hq.history ▸ h⟩) fun _ _ => id)
    fun a e' hq => hf a e' (hq.history ▸ h) hq

theorem monitored_fail {result error} {P} (h : At spec c₀ c e) :
    Monitored spec c₀ (Exec.fail result error : Exec W α) e P :=
  keeps_modify_bind (keeps_throw ⟨c, h.reads, h.pool⟩)

theorem monitored_record_bind {β : Type} {event : Event} {f : PUnit → Exec W β} {P : β → Execution W → Prop}
    (hstep : Step spec c event c') (hpool : c'.pool = c.pool) (h : At spec c₀ c e)
    (hf : At spec c₀ c' { e with history := e.history ++ [event] } →
      Monitored spec c₀ (f ⟨⟩) { e with history := e.history ++ [event] } P) :
    Monitored spec c₀ (Exec.record event >>= f) e P :=
  keeps_modify_bind (hf (h.concat hstep hpool))

namespace Environment

open Exec Proc

variable {input : TypedPayload} {index : Nat} {stage : StageSpec}

variable {env : Environment W}

theorem startAuthority_monitored {pool : Finset Nat} (hat : At spec c₀ (.new env.policyEngine.isSome pool input) e) :
    Monitored spec c₀ (env.startAuthority spec) e fun authority e' =>
      At spec c₀ (enter { new env.policyEngine.isSome pool input with authority } 0 input) e' := by
  unfold startAuthority
  split
  · rename_i hnone
    rw [hnone] at hat ⊢
    exact keeps_pure hat
  · rename_i policy hsome
    rw [hsome] at hat ⊢
    refine (quietly_buildPipelineContext env spec).monitored_bind hat fun context e1 hat1 _ => ?_
    refine (quietly_total _).monitored_bind hat1 fun decision e2 hat2 _ => ?_
    have hpool : e2.availableCapabilities.getCapabilitySet = pool := hat2.pool
    cases hleaves : leaves pool none decision with
    | none =>
      refine monitored_record_bind (.startRefused (c := .new true pool input) rfl hleaves) rfl hat2 fun hat3 => ?_
      refine keeps_get_bind ?_
      dsimp only
      split
      · rename_i authority happly
        rw [applyDecision_eq_ok, hpool, hleaves] at happly
        cases happly
      · exact keeps_throw hat3.followed
    | some authority =>
      refine monitored_record_bind (.started (c := .new true pool input) rfl hleaves) rfl hat2 fun hat3 => ?_
      refine keeps_get_bind ?_
      dsimp only
      rw [hpool, applyDecision_eq_ok.mpr hleaves]
      exact keeps_pure hat3

theorem stageAuthority_monitored
    (hpoliced : c.policed = env.policyEngine.isSome) (hat : At spec c₀ (c.enter index input) e) :
    Monitored spec c₀ (env.stageAuthority spec index stage c.authority) e fun authority e' =>
      At spec c₀ (c.goto (.admitted index input authority)) e' := by
  unfold stageAuthority
  split
  · rename_i hnone
    rw [hnone] at hpoliced
    have henter : c.enter index input = c.goto (.admitted index input c.authority) := by
      simp [enter, hpoliced]
    rw [henter] at hat
    exact keeps_pure hat
  · rename_i policy hsome
    rw [hsome] at hpoliced
    have henter : c.enter index input = c.goto (.ready index input) := by
      simp [enter, hpoliced]
    rw [henter] at hat
    refine (quietly_buildStageContext env spec stage).monitored_bind hat fun context e1 hat1 _ => ?_
    refine (quietly_total _).monitored_bind hat1 fun decision e2 hat2 _ => ?_
    have hpool : e2.availableCapabilities.getCapabilitySet = c.pool := hat2.pool
    cases hleaves : leaves (c.authority.getD c.pool) c.authority decision with
    | none =>
      refine monitored_record_bind (.stageRefused (c := c.goto _) rfl hleaves) rfl hat2 fun hat3 => ?_
      refine keeps_get_bind ?_
      dsimp only
      split
      · rename_i authority happly
        rw [applyDecision_eq_ok, hpool, hleaves] at happly
        cases happly
      · split
        · refine monitored_record_bind (.invalidAuthority (c := c.goto _) rfl ?_) rfl hat3 monitored_fail
          simpa [leaves, goto] using hleaves
        · exact monitored_fail hat3
    | some authority =>
      refine monitored_record_bind (.stageStarted (c := c.goto _) rfl hleaves) rfl hat2 fun hat3 => ?_
      refine keeps_get_bind ?_
      dsimp only
      rw [hpool, applyDecision_eq_ok.mpr hleaves]
      exact keeps_pure hat3

/-- Nothing returns `Err` here, so that what a stage returned is always inserted. -/
theorem auditStageEnd_monitored (h : Reads (Step spec) c₀ e.history c) :
    Monitored spec c₀ (env.auditStageEnd spec index stage) e fun _ e' =>
      Reads (Step spec) c₀ e'.history c ∧ e'.availableCapabilities = e.availableCapabilities := by
  unfold auditStageEnd
  split
  · exact keeps_pure ⟨h, rfl⟩
  · refine (surely_buildStageContext env spec stage).monitored_bind h fun context e1 h1 hq1 => ?_
    refine (surely_total _).monitored_bind h1 fun decision e2 h2 hq2 => ?_
    exact ⟨h2.concat .stageEnded, hq2.pool.trans hq1.pool⟩

theorem checkCapabilities_monitored {authority capIds} (hstage : spec.stages[index]? = some stage)
    (hat : At spec c₀ (c.goto (.admitted index input authority)) e)
    (hsub : ∀ capId ∈ capIds, capId ∈ stage.requiredCapabilities) :
    Monitored spec c₀ (checkCapabilities index stage authority capIds) e fun _ e' =>
      e' = e ∧ ∀ capId ∈ capIds, Covers c.pool authority capId := by
  induction capIds with
  | nil => exact keeps_pure ⟨rfl, by simp⟩
  | cons capId rest ih =>
    have hpool : e.availableCapabilities.getCapabilitySet = c.pool := hat.pool
    have hrest := ih fun capId' hmem => hsub capId' (mem_cons_of_mem _ hmem)
    refine keeps_get_bind ?_
    split
    · rename_i hmissing
      have hcovers : ¬ Covers c.pool authority capId := by
        rw [← hpool, ← hasCapabilityWithAuthority_iff]
        simpa using hmissing
      refine monitored_record_bind (.missingCapability (c := c.goto _) rfl hstage
        (hsub capId mem_cons_self) hcovers) rfl hat fun hat1 => ?_
      exact Keeps.bind (monitored_fail hat1) fun _ _ h => h
    · rename_i hhas
      refine hrest.mono fun _ e' h => ⟨h.1, ?_⟩
      rw [forall_mem_cons]
      refine ⟨?_, h.2⟩
      rw [← hpool, ← hasCapabilityWithAuthority_iff]
      simpa using hhas

/-- What an attempt leaves: its answer is in the history, and the pool is the one before it. -/
structure Answered (spec : PipelineSpec) (c₀ c : Course) (e : Execution W) (e' : Execution W) : Prop where
  reads : Reads (Step spec) c₀ e'.history c
  pool : e'.availableCapabilities = e.availableCapabilities

/-- What the attempts at a stage leave: the pool is behind only after a success. -/
def Tried (spec : PipelineSpec) (c₀ c : Course) (index : Nat) (input : TypedPayload)
    (authority : Option (Finset Nat)) (e : Execution W) (result : StageResult) (e' : Execution W) : Prop :=
  match result with
  | .success _ _ => Answered spec c₀ (c.answer index input authority result) e e'
  | _ => Followed spec c₀ e'

theorem Answered.tried {authority result} (hat : At spec c₀ (c.goto (.admitted index input authority)) e)
    (h : Answered spec c₀ (c.answer index input authority result) e e') :
    Tried spec c₀ c index input authority e result e' := by
  cases result with
  | success output capabilities => exact h
  | _ => exact ⟨_, h.reads, h.pool ▸ hat.pool⟩

theorem stageRequest_post (env : Environment W) (stage input e) : (env.stageRequest stage input).Post e fun r e' =>
    Quiet e e' ∧ ∀ request, r = .ok request → Carries request input := by
  unfold stageRequest
  split
  · exact ⟨Std.Refl.refl e, nofun⟩
  · rename_i payload hpayload
    refine (quietly_total _ e).bind (fun _ _ hq => ⟨hq, nofun⟩) fun uuid e' hq => ⟨hq, ?_⟩
    rintro _ ⟨⟩
    exact hpayload

variable [SerdeDisplay StageInvokeResponse]

section Stage

variable {authority : Option (Finset Nat)} (hstage : spec.stages[index]? = some stage)
  (hcovers : ∀ capId ∈ stage.requiredCapabilities, Covers c.pool authority capId)

include hstage hcovers

theorem executeStageOnce_monitored (h : At spec c₀ (c.goto (.admitted index input authority)) e) :
    Monitored spec c₀ (env.executeStageOnce index stage input) e fun result e' =>
      Answered spec c₀ (c.answer index input authority result) e e' := by
  refine (quietly_lookupHandler env stage).monitored_bind h fun channel e1 h1 hq1 => ?_
  refine Keeps.bind (P := fun request e' => Quiet e1 e' ∧ Carries request input)
    (Post.mono (stageRequest_post env stage input e1) fun r e' hr => ?_) fun request e2 hrequest => ?_
  · rcases r with (_ | _) | request
    · exact (h1.quiet hr.1).followed
    · exact ⟨_, (h1.quiet hr.1).reads⟩
    · exact ⟨hr.1, hr.2 request rfl⟩
  obtain ⟨hq2, hcarries⟩ := hrequest
  refine monitored_record_bind (.sent (c := c.goto _) rfl hstage hcovers hcarries) rfl (h1.quiet hq2) fun h3 => ?_
  refine Quietly.monitored_bind ((quietly_onWorld _).mapErr _) h3 fun _ e4 h4 hq4 => ?_
  refine (quietly_receiveResponse env stage channel request.id).monitored_bind h4 fun result e5 h5 hq5 => ?_
  refine keeps_modify_bind (keeps_pure ⟨?_, ?_⟩)
  · cases result <;> exact h5.reads.concat (.answered rfl)
  · rw [hq5.pool, hq4.pool, hq2.pool, hq1.pool]

theorem tryStage_monitored {attempt : Nat} (h : At spec c₀ (c.goto (.admitted index input authority)) e) :
    Monitored spec c₀ (env.tryStage index stage input attempt) e fun result e' =>
      Answered spec c₀ (c.answer index input authority result) e e' := by
  refine (quietly_now env).monitored_bind h fun startTime e1 h1 hq1 => ?_
  refine (executeStageOnce_monitored hstage hcovers h1).bind fun result e2 h2 => ?_
  refine Surely.monitored_bind (surely_total _) h2.reads fun endTime e3 h3 hq3 => ?_
  refine keeps_modify_bind (keeps_pure ⟨h3, ?_⟩)
  rw [hq3.pool, h2.pool, hq1.pool]

theorem attempts_monitored {e : Execution W} {stageDeadline} (left)
    (h : At spec c₀ (c.goto (.admitted index input authority)) e) :
    Monitored spec c₀ (env.attempts index stage input stageDeadline left) e
      (Tried spec c₀ c index input authority e) := by
  unfold attempts
  refine (quietly_interrupted env stageDeadline).monitored_bind h fun reason e1 h1 hq1 => ?_
  split
  · exact keeps_pure h1.followed
  refine (tryStage_monitored hstage hcovers h1).bind fun result e2 h2 => ?_
  replace h2 : Answered spec c₀ (c.answer index input authority result) e e2 := ⟨h2.reads, h2.pool.trans hq1.pool⟩
  split
  · have hat : At spec c₀ (c.goto (.admitted index input authority)) e2 := ⟨h2.reads, h2.pool ▸ h.pool⟩
    cases left with
    | zero => exact keeps_pure hat.followed
    | succ left =>
      refine (quietly_backOff env _ _).monitored_bind hat fun _ e3 h3 hq3 => ?_
      refine (attempts_monitored left h3).mono fun result e4 h4 => ?_
      cases result with
      | success output capabilities => exact ⟨h4.reads, h4.pool.trans (hq3.pool.trans h2.pool)⟩
      | _ => exact h4
  · exact keeps_pure (h2.tried h)
termination_by left

theorem executeStageWithRetry_monitored (h : At spec c₀ (c.goto (.admitted index input authority)) e) :
    Monitored spec c₀ (env.executeStageWithRetry index stage input) e fun result e' =>
      ∃ e₁, At spec c₀ (c.goto (.admitted index input authority)) e₁ ∧
        Tried spec c₀ c index input authority e₁ result e' := by
  refine (quietly_deadline env _).monitored_bind h fun stageDeadline e1 h1 _ => ?_
  exact (attempts_monitored hstage hcovers _ h1).mono fun _ _ h2 => ⟨e1, h1, h2⟩

end Stage

theorem executeStage_monitored {pipelineDeadline} (hstage : spec.stages[index]? = some stage)
    (hpoliced : c.policed = env.policyEngine.isSome) (hat : At spec c₀ (c.enter index input) e) :
    Monitored spec c₀ (env.executeStage spec c.authority pipelineDeadline index stage input) e
      fun output e' => ∃ pool, At spec c₀ (enter { c with pool } (index + 1) output) e' := by
  refine (quietly_checkCancelled env stage).monitored_bind hat fun _ e1 hat1 _ => ?_
  refine (quietly_checkDeadline env stage pipelineDeadline).monitored_bind hat1 fun _ e2 hat2 _ => ?_
  refine (stageAuthority_monitored hpoliced hat2).bind fun authority e3 hat3 => ?_
  refine (checkCapabilities_monitored hstage hat3 fun _ hmem => hmem).bind fun _ e4 hchecked => ?_
  obtain ⟨rfl, hcovers⟩ := hchecked
  refine (executeStageWithRetry_monitored hstage hcovers hat3).bind fun result e5 h5 => ?_
  obtain ⟨e', hat', htried⟩ := h5
  cases result with
  | success output capabilities =>
    refine (auditStageEnd_monitored htried.reads).bind fun _ e6 h6 => ?_
    refine keeps_modify_bind (keeps_pure ⟨c.pool ∪ capabilities.toFinset, h6.1, ?_⟩)
    rw [getCapabilitySet_addCapabilities, h6.2, htried.pool, hat'.pool]
    rfl
  | failure | retryable | cancelled =>
    obtain ⟨c', h'⟩ := htried
    exact (auditStageEnd_monitored h'.reads).bind fun _ _ h6 => monitored_fail ⟨h6.1, h6.2 ▸ h'.pool⟩

theorem executeStages_monitored {pipelineDeadline stages} (hstages : spec.stages.drop index = stages)
    (hindex : index ≤ spec.stages.length) (hpoliced : c.policed = env.policyEngine.isSome)
    (hat : At spec c₀ (c.enter index input) e) :
    Monitored spec c₀ (env.executeStages spec c.authority pipelineDeadline index stages input) e
      fun output e' => ∃ pool, At spec c₀ (enter { c with pool } spec.stages.length output) e' := by
  induction stages generalizing index input c e with
  | nil =>
    have hlength : index = spec.stages.length := Nat.le_antisymm hindex (List.drop_eq_nil_iff.mp hstages)
    subst hlength
    exact keeps_pure ⟨c.pool, hat⟩
  | cons stage rest ih =>
    obtain ⟨hstage, hrest⟩ := walk_cons hstages
    have hlt := (List.getElem?_eq_some_iff.mp hstage).1
    refine (executeStage_monitored hstage hpoliced hat).bind fun output e1 h1 => ?_
    obtain ⟨pool, hat1⟩ := h1
    exact ih (c := { c with pool }) hrest hlt hpoliced hat1

structure Completed (spec : PipelineSpec) (c₀ : Course) (output : TypedPayload) (e : Execution W) : Prop where
  valid : spec.validate = .ok ()
  schema : output.schemaId = spec.finalOutputSchema
  finished : ∃ c : Course, At spec c₀ (c.enter spec.stages.length output) e

theorem execute_monitored (hfresh : e.history = []) :
    Monitored spec (env.courseOf input e.availableCapabilities) (env.execute spec input) e
      fun r e' => Completed spec (env.courseOf input e.availableCapabilities) r.1 e' := by
  have hat : At spec (env.courseOf input e.availableCapabilities) (env.courseOf input e.availableCapabilities) e :=
    ⟨hfresh ▸ .nil, (courseOf_pool input _).symm⟩
  refine Keeps.bind (keeps_ofExcept hat.followed (P := fun _ e' => e' = e ∧ spec.validate = .ok ()) ?_)
    fun _ e1 hvalid => ?_
  · intro _ hok
    cases hv : spec.validate with
    | error error => rw [hv] at hok; cases hok
    | ok _ => exact ⟨rfl, rfl⟩
  obtain ⟨rfl, hvalid⟩ := hvalid
  refine keeps_get_bind (Keeps.bind (keeps_failIf hat.followed (P := fun _ e' => e' = e1) fun _ => rfl)
    fun _ e2 heq => ?_)
  subst heq
  refine Keeps.bind (keeps_failIf hat.followed (P := fun _ e' => e' = e2) fun _ => rfl) fun _ e3 heq => ?_
  subst heq
  refine (startAuthority_monitored hat).bind fun authority e4 hat4 => ?_
  refine (quietly_deadline env _).monitored_bind hat4 fun pipelineDeadline e5 hat5 _ => ?_
  refine (executeStages_monitored (c := { env.courseOf input e3.availableCapabilities with authority }) rfl
    (Nat.zero_le _) (courseOf_policed input _) hat5).bind fun output e6 h6 => ?_
  obtain ⟨pool, hat6⟩ := h6
  refine Keeps.bind (keeps_failIf hat6.followed (P := fun _ e' => e' = e6 ∧ output.schemaId = spec.finalOutputSchema)
    fun h => ⟨rfl, not_not.mp h⟩) fun _ e7 hfinal => ?_
  obtain ⟨rfl, hfinal⟩ := hfinal
  refine keeps_modify_bind (keeps_get_bind (keeps_pure ⟨hvalid, hfinal, _, hat6.reads, hat6.pool⟩))

variable (env : Environment W) (spec : PipelineSpec) (input : TypedPayload) (world : W) (pool : CapabilityPool)

theorem execute_new_monitored :
    Monitored spec (env.courseOf input pool) (env.execute spec input) (.new world pool spec.id)
      fun r e' => Completed spec (env.courseOf input pool) r.1 e' :=
  execute_monitored rfl

theorem execute_reads : Read spec (env.courseOf input pool)
    ((env.execute spec input).exec (.new world pool spec.id)).2 :=
  (execute_new_monitored env spec input world pool).post (K := Read spec (env.courseOf input pool))
    (fun _ ⟨c, hat⟩ => ⟨c, hat.reads⟩) (fun _ => id) fun _ _ h => h.finished.elim fun _ hat => ⟨_, hat.reads⟩

variable {env spec input world pool} in
theorem execute_completed {returned}
    (hok : ((env.execute spec input).exec (.new world pool spec.id)).1 = .ok returned) :
    Completed spec (env.courseOf input pool) returned.1
      ((env.execute spec input).exec (.new world pool spec.id)).2 :=
  (execute_new_monitored env spec input world pool).of_exec (Prod.ext hok rfl)

end Environment

end Monitored

end PandaGen.Pipeline
