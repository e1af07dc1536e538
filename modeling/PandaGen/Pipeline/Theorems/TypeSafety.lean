import PandaGen.Pipeline.Json
import PandaGen.Pipeline.Theorems.LeastAuthority

/-!
# Schemas along a pipeline
-/

namespace PandaGen.Pipeline

open Lib Kernel Storage Lib.Proc List Nat Execution

/-! ## What validation establishes -/

structure PipelineSpec.Chained (spec : PipelineSpec) : Prop where
  first : ∀ stage, spec.stages[0]? = some stage → stage.inputSchema = spec.initialInputSchema
  next : ∀ i stage stage', spec.stages[i]? = some stage → spec.stages[i + 1]? = some stage' →
    stage.outputSchema = stage'.inputSchema
  last : ∀ stage, spec.stages.getLast? = some stage → stage.outputSchema = spec.finalOutputSchema

theorem PipelineSpec.checkChaining_ok {stages} (h : checkChaining stages = .ok ()) (i stage stage')
    (hi : stages[i]? = some stage) (hnext : stages[i + 1]? = some stage') :
    stage.outputSchema = stage'.inputSchema := by
  induction stages generalizing i with
  | nil => simp at hi
  | cons current rest ih =>
    cases rest with
    | nil => simp at hnext
    | cons next rest =>
      simp only [checkChaining] at h
      split at h
      · cases h
      · rename_i heq
        cases i with
        | zero =>
          cases hi
          cases hnext
          exact not_not.mp heq
        | succ i => exact ih h i hi hnext

theorem PipelineSpec.validate_ok {spec : PipelineSpec} (h : spec.validate = .ok ()) : spec.Chained := by
  unfold validate at h
  split at h
  · cases h
  · rename_i first rest hstages
    split at h
    · cases h
    · rename_i hfirst
      split at h
      · cases h
      · rename_i hchain
        dsimp only at h
        split at h
        · cases h
        · rename_i hlast
          refine ⟨?_, ?_, ?_⟩
          · intro stage hstage
            rw [hstages] at hstage
            cases hstage
            exact not_not.mp hfirst
          · rw [hstages]
            exact checkChaining_ok hchain
          · intro stage hstage
            rw [hstages, getLast?_eq_getLast_of_ne_nil (cons_ne_nil first rest)] at hstage
            cases hstage
            exact not_not.mp hlast

/-! ## The outputs of the stages -/

def Event.output : Event → Option TypedPayload
  | .answered _ (.success output _) => some output
  | _ => none

def Event.succeeded : Event → Option Nat
  | .answered index (.success _ _) => some index
  | _ => none

def outputs (history : List Event) : List TypedPayload := history.filterMap Event.output

def Phase.Flows (initial : TypedPayload) (history : List Event) : Phase → Prop
  | .initial input => input = initial ∧ outputs history = []
  | .ready index input => (outputs history).length = index ∧ (initial :: outputs history)[index]? = some input
  | .admitted index input _ => (outputs history).length = index ∧ (initial :: outputs history)[index]? = some input
  | .awaiting index input _ => (outputs history).length = index ∧ (initial :: outputs history)[index]? = some input
  | .refused _ => True
  | .closed => True

structure Course.Flows (initial : TypedPayload) (history : List Event) (c : Course) : Prop where
  order : history.filterMap Event.succeeded = range (outputs history).length
  answers : ∀ index output, (outputs history)[index]? = some output ↔
    ∃ capabilities, .answered index (.success output capabilities) ∈ history
  phase : c.phase.Flows initial history

section

variable {initial : TypedPayload} {history : List Event} {event : Event} {c c' : Course} {phase : Phase}
  {input : TypedPayload}

theorem outputs_concat_of_none (h : event.output = none) : outputs (history ++ [event]) = outputs history := by
  simp [outputs, h]

theorem Phase.Flows.concat (h : phase.Flows initial history) (hevent : event.output = none) :
    phase.Flows initial (history ++ [event]) := by
  cases phase with
  | refused index => trivial
  | closed => trivial
  | _ => simpa [Phase.Flows, outputs_concat_of_none hevent] using h

theorem Phase.Flows.enter {index} (hlength : (outputs history).length = index)
    (hinput : (initial :: outputs history)[index]? = some input) :
    (c.enter index input).phase.Flows initial history := by
  unfold Course.enter Course.goto
  split <;> exact ⟨hlength, hinput⟩

theorem Phase.Flows.of_enter {index} (h : (c.enter index input).phase.Flows initial history) :
    (outputs history).length = index ∧ (initial :: outputs history)[index]? = some input := by
  unfold Course.enter Course.goto at h
  split at h <;> exact h

theorem Course.Flows.concat (h : c.Flows initial history) (hevent : event.output = none)
    (hphase : c'.phase.Flows initial (history ++ [event])) : c'.Flows initial (history ++ [event]) := by
  have hnone : event.succeeded = none := by
    rcases event with _ | _ | _ | _ | _ | ⟨_, _ | _ | _ | _⟩ | _ <;> first | rfl | cases hevent
  refine ⟨by simp [outputs_concat_of_none hevent, hnone, h.order], fun index output => ?_, hphase⟩
  have hne (capabilities : List Nat) : .answered index (.success output capabilities) ≠ event := by
    rintro rfl
    cases hevent
  simp [outputs_concat_of_none hevent, h.answers, hne]

theorem Course.Flows.unanswered {index} (h : c.Flows initial history) (hindex : (outputs history).length ≤ index)
    (output : TypedPayload) (capabilities) : .answered index (.success output capabilities) ∉ history := by
  intro hmem
  have hsome := (h.answers index output).mpr ⟨capabilities, hmem⟩
  rw [getElem?_eq_none hindex] at hsome
  cases hsome

theorem Course.Flows.success {index} {output : TypedPayload} {capabilities} (h : c.Flows initial history)
    (hlength : (outputs history).length = index) :
    (c'.enter (index + 1) output).Flows initial (history ++ [.answered index (.success output capabilities)]) := by
  have houtputs : outputs (history ++ [.answered index (.success output capabilities)]) =
      outputs history ++ [output] := by
    simp [outputs, Event.output]
  refine ⟨?_, fun j output' => ?_, ?_⟩
  · rw [filterMap_append, h.order, houtputs, length_append, hlength]
    exact range_succ.symm
  · rw [houtputs, getElem?_append]
    rcases Nat.lt_trichotomy j index with hlt | rfl | hgt
    · have hne : ¬ j = index := Nat.ne_of_lt hlt
      rw [if_pos (hlength.symm ▸ hlt), h.answers]
      simp [hne]
    · have hnone := h.unanswered (Nat.le_of_eq hlength) output'
      simp [hlength, hnone, eq_comm]
    · have hnone := h.unanswered (hlength.trans_le hgt.le) output'
      have hne : ¬ j = index := Nat.ne_of_gt hgt
      have hsub : [output][j - index]? = none := getElem?_eq_none (Nat.sub_pos_of_lt hgt)
      rw [if_neg (by omega), hlength, hsub]
      simp [hnone, hne]
  · apply Phase.Flows.enter
    · simp [houtputs, hlength]
    · rw [houtputs, ← hlength]
      simp

theorem Course.Flows.new (engine pool) (input : TypedPayload) : (Course.new engine pool input).Flows input [] := by
  refine ⟨rfl, by simp [outputs], ?_⟩
  unfold Course.new
  split
  · exact ⟨rfl, rfl⟩
  · exact Phase.Flows.enter rfl rfl

variable [SerdeJson StageInvokeRequest] {spec : PipelineSpec}

theorem Course.Flows.step (h : c.Flows initial history) (hstep : Step spec c event c') :
    c'.Flows initial (history ++ [event]) := by
  have hphase := h.phase
  cases hstep with
  | started hc hleaves =>
    rw [hc] at hphase
    obtain ⟨rfl, hnil⟩ := hphase
    apply h.concat rfl
    apply Phase.Flows.enter
    · rw [outputs_concat_of_none rfl, hnil]
      rfl
    · rfl
  | startRefused hc hleaves | stageRefused hc hleaves | invalidAuthority hc hsub
  | missingCapability hc hstage hmem hcovers => exact h.concat rfl trivial
  | stageStarted hc hleaves | sent hc hstage hcovers hcarries =>
    rw [hc] at hphase
    exact h.concat rfl (Phase.Flows.concat hphase rfl)
  | @answered index input own result hc =>
    rw [hc] at hphase
    cases result with
    | success output capabilities => exact h.success hphase.1
    | retryable error => exact h.concat rfl (Phase.Flows.concat hphase rfl)
    | failure error | cancelled reason => exact h.concat rfl trivial
  | stageEnded => exact h.concat rfl (h.phase.concat rfl)

end

/-! ## Executions -/

section

variable [SerdeDisplay StageInvokeRequest] {W : Type} {env : Environment W} {spec : PipelineSpec} {input : TypedPayload}
  {world : W} {pool : CapabilityPool}

theorem flows_of_reads {history c} (h : Reads (Step spec) (env.courseOf input pool) history c) :
    c.Flows input history :=
  h.invariant (P := fun w t => t.Flows input w) (.new _ _ input) fun _ _ _ _ hc hs => hc.step hs

variable [SerdeDisplay StageInvokeResponse]

/-- Nothing happens in an execution of a pipeline that does not validate or gets another input than it declares. -/
theorem historyOf_eq_nil (h : ¬ (spec.validate = .ok () ∧ input.schemaId = spec.initialInputSchema)) :
    env.historyOf spec input world pool = [] := by
  have hkeeps : (env.execute spec input).Keeps (fun e => e.history = []) (fun e => e.history = [])
      (.new world pool spec.id) fun _ e' => e'.history = [] := by
    have hI : (new world pool spec.id).history = [] := rfl
    refine Keeps.bind (keeps_ofExcept hI (P := fun _ e' => e' = new world pool spec.id ∧ spec.validate = .ok ()) ?_)
      fun _ e1 hvalid => ?_
    · intro _ hok
      cases hv : spec.validate with
      | error error => rw [hv] at hok; cases hok
      | ok _ => exact ⟨rfl, rfl⟩
    obtain ⟨rfl, hvalid⟩ := hvalid
    refine keeps_get_bind ?_
    refine Keeps.bind (keeps_failIf hI (P := fun _ e' => e' = new world pool spec.id) fun _ => rfl) fun _ e2 heq => ?_
    subst heq
    refine Keeps.bind (keeps_failIf (I := fun e : Execution W => e.history = []) hI
      (P := fun _ _ => input.schemaId = spec.initialInputSchema)
      fun hschema => not_not.mp hschema) fun _ _ hinitial => ?_
    exact absurd ⟨hvalid, hinitial⟩ h
  exact hkeeps.post (K := fun e => e.history = []) (fun _ => id) (fun _ => id) fun _ _ => id

/-- A request goes to a stage only when exactly the stages before it have succeeded, each once and in order, and carries
the output of the last of them. What is returned is the output of the last stage, and then every stage has succeeded,
once. -/
theorem stages_in_order :
    (∀ before index request after, env.historyOf spec input world pool = before ++ .sent index request :: after →
      before.filterMap Event.succeeded = range index ∧
        ∃ payload, (input :: outputs before)[index]? = some payload ∧ Carries request payload) ∧
    ∀ returned, ((env.execute spec input).exec (.new world pool spec.id)).1 = .ok returned →
      (env.historyOf spec input world pool).filterMap Event.succeeded = range spec.stages.length ∧
        (input :: outputs (env.historyOf spec input world pool)).getLast? = some returned.1 := by
  constructor
  · intro before index request after hhistory
    obtain ⟨_, hreads⟩ := env.execute_reads spec input world pool
    obtain ⟨c, _, hbefore, hstep⟩ := hreads.split hhistory
    have hflows := flows_of_reads hbefore
    cases hstep with
    | @sent _ payload _ _ _ hc _ _ hcarries =>
      have hphase := hflows.phase
      rw [hc] at hphase
      exact ⟨hphase.1 ▸ hflows.order, payload, hphase.2, hcarries⟩
  · intro returned hok
    obtain ⟨-, -, c, hat⟩ := Environment.execute_completed hok
    have hflows := flows_of_reads hat.reads
    obtain ⟨hlength, hlast⟩ := hflows.phase.of_enter
    rw [getLast?_eq_getElem?, ← hlast, ← hlength]
    exact ⟨hflows.order, rfl⟩

/-! ## Schemas at run time -/

omit [SerdeDisplay StageInvokeResponse] in
theorem sent_of_awaiting {history c} (h : Reads (Step spec) (env.courseOf input pool) history c) :
    ∀ index payload own, c.phase = .awaiting index payload own → ∃ request, .sent index request ∈ history := by
  have henter (c : Course) (i payload j payload' own) : (c.enter i payload).phase ≠ .awaiting j payload' own := by
    unfold Course.enter Course.goto
    split <;> simp
  refine h.invariant
    (P := fun w t => ∀ i payload own, t.phase = .awaiting i payload own → ∃ request, .sent i request ∈ w) ?_ ?_
  · intro i payload own hc
    unfold Environment.courseOf Course.new at hc
    split at hc
    · cases hc
    · exact absurd hc (henter _ _ _ _ _ _)
  · intro w t event u ih hs i payload own hc
    cases hs with
    | @sent _ _ _ _ request _ _ _ _ =>
      cases hc
      exact ⟨request, by simp⟩
    | stageEnded => exact (ih i payload own hc).imp fun _ hsent => mem_append_left _ hsent
    | started => exact absurd hc (henter _ _ _ _ _ _)
    | @answered _ _ _ result hc' =>
      cases result with
      | success => exact absurd hc (henter _ _ _ _ _ _)
      | _ => cases hc
    | _ => cases hc

theorem sent_of_answered {index result} (h : .answered index result ∈ env.historyOf spec input world pool) :
    ∃ request, .sent index request ∈ env.historyOf spec input world pool := by
  obtain ⟨_, hreads⟩ := env.execute_reads spec input world pool
  obtain ⟨before, after, hhistory⟩ := append_of_mem h
  obtain ⟨c, _, hbefore, hstep⟩ := hreads.split hhistory
  cases hstep with
  | answered hc =>
    obtain ⟨request, hsent⟩ := sent_of_awaiting hbefore _ _ _ hc
    exact ⟨request, hhistory ▸ mem_append_left _ hsent⟩

structure Requested (spec : PipelineSpec) (input : TypedPayload) (history : List Event) (index : Nat)
    (request : MessageEnvelope) (stage : StageSpec) (payload : TypedPayload) : Prop where
  chained : spec.Chained
  initial : input.schemaId = spec.initialInputSchema
  stage : spec.stages[index]? = some stage
  carries : Carries request payload
  payload : (input :: outputs history)[index]? = some payload

theorem requested {index request} (h : .sent index request ∈ env.historyOf spec input world pool) :
    ∃ stage payload, Requested spec input (env.historyOf spec input world pool) index request stage payload := by
  have hvalid : spec.validate = .ok () ∧ input.schemaId = spec.initialInputSchema := by
    by_contra hinvalid
    rw [historyOf_eq_nil hinvalid] at h
    cases h
  obtain ⟨_, hreads⟩ := env.execute_reads spec input world pool
  obtain ⟨before, after, hhistory⟩ := append_of_mem h
  obtain ⟨c, _, hbefore, hstep⟩ := hreads.split hhistory
  cases hstep with
  | @sent _ payload _ stage _ hc hstage _ hcarries =>
    have hphase := (flows_of_reads hbefore).phase
    rw [hc] at hphase
    refine ⟨stage, payload, PipelineSpec.validate_ok hvalid.1, hvalid.2, hstage, hcarries, ?_⟩
    rw [hhistory, outputs, filterMap_append, ← cons_append, getElem?_append_left]
    · exact hphase.2
    · exact hphase.1 ▸ lt_succ_self _

/-- The schemas of a pipeline hold at run time exactly where no stage follows one that put out another schema than it
declares. -/
theorem typed_stages_iff [LawfulSerdeJson StageInvokeRequest] (env : Environment W) (spec : PipelineSpec)
    (input : TypedPayload) (world : W) (pool : CapabilityPool) :
    ((∀ index request, .sent index request ∈ env.historyOf spec input world pool →
      ∃ stage payload, spec.stages[index]? = some stage ∧ Carries request payload ∧
        payload.schemaId = stage.inputSchema) ∧
    (∀ returned, ((env.execute spec input).exec (.new world pool spec.id)).1 = .ok returned →
      ∀ index stage, spec.stages[index]? = some stage →
        ∃ output capabilities, .answered index (.success output capabilities) ∈ env.historyOf spec input world pool ∧
          output.schemaId = stage.outputSchema)) ↔
    ∀ index stage output capabilities request, spec.stages[index]? = some stage →
      .answered index (.success output capabilities) ∈ env.historyOf spec input world pool →
      .sent (index + 1) request ∈ env.historyOf spec input world pool → output.schemaId = stage.outputSchema := by
  obtain ⟨_, hreads⟩ := env.execute_reads spec input world pool
  have hanswers := (flows_of_reads hreads).answers
  refine ⟨fun ⟨htyped, _⟩ index stage output capabilities request hstage hanswered hsent => ?_,
    fun htyped => ⟨fun index request hsent => ?_, fun returned hok index stage hstage => ?_⟩⟩
  · obtain ⟨next, payload, hrequested⟩ := requested hsent
    obtain ⟨next', payload', hnext', hcarries', hschema⟩ := htyped _ _ hsent
    have hsame : payload' = payload := StageInvokeRequest.mk.inj (Option.some.inj
      ((LawfulSerdeJson.fromSlice_toVec hcarries').symm.trans (LawfulSerdeJson.fromSlice_toVec hrequested.carries)))
    have hput : payload = output := Option.some.inj
      (hrequested.payload.symm.trans ((hanswers index output).mpr ⟨capabilities, hanswered⟩))
    cases hnext'.symm.trans hrequested.stage
    rw [← hput, ← hsame, hschema]
    exact (hrequested.chained.next index stage _ hstage hnext').symm
  · obtain ⟨stage, payload, hrequested⟩ := requested hsent
    refine ⟨stage, payload, hrequested.stage, hrequested.carries, ?_⟩
    cases index with
    | zero =>
      cases hrequested.payload
      exact hrequested.initial.trans (hrequested.chained.first stage hrequested.stage).symm
    | succ index =>
      -- The stage before has answered with the payload, and this request follows.
      obtain ⟨previous, hprevious⟩ : ∃ previous, spec.stages[index]? = some previous :=
        ⟨_, getElem?_eq_getElem (lt_of_succ_lt (List.getElem?_eq_some_iff.mp hrequested.stage).1)⟩
      obtain ⟨capabilities, hanswered⟩ := (hanswers index payload).mp hrequested.payload
      exact (htyped index previous payload capabilities request hprevious hanswered hsent).trans
        (hrequested.chained.next index previous stage hprevious hrequested.stage)
  · obtain ⟨hvalid, hfinal, c, hat⟩ := Environment.execute_completed hok
    have hend := (flows_of_reads hat.reads).phase.of_enter
    have hanswered (i) (hi : i < spec.stages.length) : ∃ output capabilities,
        (outputs (env.historyOf spec input world pool))[i]? = some output ∧
          .answered i (.success output capabilities) ∈ env.historyOf spec input world pool := by
      have houtput := getElem?_eq_getElem (hend.1.symm ▸ hi)
      obtain ⟨capabilities, hmem⟩ := (hanswers i _).mp houtput
      exact ⟨_, capabilities, houtput, hmem⟩
    have hlength : index < spec.stages.length := (List.getElem?_eq_some_iff.mp hstage).1
    obtain ⟨output, capabilities, houtput, hmem⟩ := hanswered index hlength
    refine ⟨output, capabilities, hmem, ?_⟩
    rcases lt_or_eq_of_le (succ_le_of_lt hlength) with hlt | heq
    · obtain ⟨_, _, -, hnext⟩ := hanswered (index + 1) hlt
      obtain ⟨request, hsent⟩ := sent_of_answered hnext
      exact htyped index stage output capabilities request hstage hmem hsent
    · -- The output of the last stage is the one returned, which is compared with what the pipeline declares.
      have hreturned := hend.2
      rw [← heq] at hreturned
      cases houtput.symm.trans hreturned
      rw [hfinal]
      refine ((PipelineSpec.validate_ok hvalid).last stage ?_).symm
      rw [getLast?_eq_getElem?, ← heq]
      exact hstage

end

/-! ## A stage that puts out another schema -/

namespace Scripted

open StageJson

structure World where
  answers : List StageResult
  waiting : Option MessageId

def kernel : KernelApi World where
  spawnTask _ := throw (.err (.sendFailed ""))
  createChannel := throw (.err (.sendFailed ""))
  sendMessage _ message := modify fun w => { w with waiting := some message.id }
  receiveMessage _ _ := do
    let w ← get
    match w.answers with
    | [] => throw (.err (.receiveFailed ""))
    | result :: rest =>
      set (World.mk rest none)
      return { MessageEnvelope.new ⟨⟨1⟩⟩ ⟨⟨2⟩⟩ "answer" ⟨1, 0⟩ ((toVec (StageInvokeResponse.mk result)).getD []) with
        correlationId := w.waiting }
  now := return 0
  sleep _ := return ()
  grantCapability _ _ := return ()
  registerService _ _ := return ()
  lookupService _ := return ⟨⟨3⟩⟩

def env : Environment World := ⟨kernel, none, none, fun _ => none, return ⟨4⟩⟩

def payload (schema : String) : TypedPayload := ⟨⟨schema⟩, ⟨1, 0⟩, []⟩

def spec : PipelineSpec where
  id := ⟨⟨5⟩⟩
  stages :=
    [.new ⟨⟨6⟩⟩ "first" ⟨⟨7⟩⟩ "run" ⟨"a"⟩ ⟨"b"⟩, .new ⟨⟨8⟩⟩ "second" ⟨⟨9⟩⟩ "run" ⟨"b"⟩ ⟨"c"⟩]
  initialInputSchema := ⟨"a"⟩
  finalOutputSchema := ⟨"c"⟩
  timeoutMs := none

def world (schema : String) : World := ⟨[.success (payload schema) [], .success (payload "c") []], none⟩

def first : MessageEnvelope :=
  .new ⟨⟨4⟩⟩ ⟨⟨7⟩⟩ "run" ⟨1, 0⟩ ((toVec (StageInvokeRequest.mk (payload "a"))).getD [])

def second (schema : String) : MessageEnvelope :=
  .new ⟨⟨4⟩⟩ ⟨⟨9⟩⟩ "run" ⟨1, 0⟩ ((toVec (StageInvokeRequest.mk (payload schema))).getD [])

def events (schema : String) : List Event :=
  [.sent 0 first, .answered 0 (.success (payload schema) []), .sent 1 (second schema),
    .answered 1 (.success (payload "c") [])]

theorem historyOf_declared : env.historyOf spec (payload "a") (world "b") ∅ = events "b" := by
  decide +kernel

theorem historyOf_undeclared : env.historyOf spec (payload "a") (world "x") ∅ = events "x" := by
  decide +kernel

end Scripted

open Scripted StageJson in
theorem typed_stages_iff_scripted : ∃ stage payload, spec.stages[1]? = some stage ∧ Carries (second "b") payload ∧
    payload.schemaId = stage.inputSchema := by
  refine ((typed_stages_iff env spec (payload "a") (world "b") ∅).mpr ?_).1 1 (second "b") ?_
  · intro index stage output capabilities request hstage hmem hsent
    rw [historyOf_declared] at hmem hsent
    have hzero : index = 0 := by
      simp [events] at hsent
      exact hsent.1
    subst hzero
    cases hstage
    simp [events] at hmem
    rw [hmem.1]
    rfl
  · rw [historyOf_declared]
    simp [events]

open Scripted StageJson in
/-- The second stage gets what the first one put out, whatever its schema, and the executor returns `Ok`. -/
theorem undeclared_output_accepted : spec.validate = .ok () ∧
    (∃ returned, ((env.execute spec (payload "a")).exec (.new (world "x") ∅ spec.id)).1 = .ok returned) ∧
    .answered 0 (.success (payload "x") []) ∈ env.historyOf spec (payload "a") (world "x") ∅ ∧
    .sent 1 (second "x") ∈ env.historyOf spec (payload "a") (world "x") ∅ ∧ Carries (second "x") (payload "x") ∧
    ∀ stage stage', spec.stages = [stage, stage'] →
      (payload "x").schemaId ≠ stage.outputSchema ∧ (payload "x").schemaId ≠ stage'.inputSchema := by
  have hok : ((env.execute spec (payload "a")).exec (.new (world "x") ∅ spec.id)).1.toBool = true := by
    decide +kernel
  refine ⟨rfl, ?_, ?_, ?_, ?_, ?_⟩
  · cases hresult : ((env.execute spec (payload "a")).exec (.new (world "x") ∅ spec.id)).1 with
    | ok returned => exact ⟨returned, rfl⟩
    | error fault =>
      rw [hresult] at hok
      cases hok
  · simp [historyOf_undeclared, events]
  · simp [historyOf_undeclared, events]
  · rfl
  · intro stage stage' hstages
    cases hstages
    decide

/-! ## What a pipeline leaves in the pool -/

section

variable [SerdeDisplay StageInvokeRequest] [SerdeDisplay StageInvokeResponse]

/-- The pool has grown by what the stages returned, after `Ok` and after `Err`. So after `Err` it is as before exactly
if they returned nothing that was not in it. -/
theorem pool_after_execution {W : Type} (env : Environment W) (spec : PipelineSpec) (input : TypedPayload) (world : W)
    (pool : CapabilityPool) (r e') (hcall : (env.execute spec input).call (.new world pool spec.id) = some (r, e')) :
    (∀ returned, r = .ok returned →
      e'.availableCapabilities.getCapabilitySet = poolAfter pool.getCapabilitySet e'.history) ∧
    (∀ error, r = .error error →
      (e'.availableCapabilities.getCapabilitySet = pool.getCapabilitySet ↔
        ∀ index output capabilities, .answered index (.success output capabilities) ∈ e'.history →
          ∀ capId ∈ capabilities, capId ∈ pool.getCapabilitySet)) := by
  have hpool : e'.availableCapabilities.getCapabilitySet = poolAfter pool.getCapabilitySet e'.history := by
    have hmonitored := Post.of_call (env.execute_new_monitored spec input world pool) hcall
    cases r with
    | ok returned =>
      obtain ⟨c, hat⟩ := hmonitored.finished
      exact hat.pool.trans (accounts_of_reads hat.reads).pool
    | error error =>
      obtain ⟨c, hat⟩ := hmonitored
      exact hat.pool.trans (accounts_of_reads hat.reads).pool
  refine ⟨fun _ _ => hpool, fun _ _ => ?_⟩
  rw [hpool, poolAfter, Finset.union_eq_left]
  simp only [Finset.subset_iff, mem_toFinset, mem_flatMap]
  constructor
  · intro h index output capabilities hmem capId hcap
    exact h ⟨_, hmem, hcap⟩
  · rintro h capId ⟨event, hmem, hcap⟩
    unfold Event.returns at hcap
    split at hcap
    · exact h _ _ _ hmem capId hcap
    · cases hcap

end

open Scripted StageJson in
/-- The first stage returns a capability that the pool has, and the second one fails. -/
theorem pool_after_execution_known : ∃ error e',
    (env.execute spec (payload "a")).call
      (.new ⟨[.success (payload "b") [7], .failure "no"], none⟩ (CapabilityPool.addCapabilities ∅ [7]) spec.id) =
        some (.error error, e') ∧
      e'.availableCapabilities.getCapabilitySet = (CapabilityPool.addCapabilities ∅ [7]).getCapabilitySet := by
  obtain ⟨r, e', hcall, hfailed, hhistory⟩ : ∃ r e', (env.execute spec (payload "a")).call
      (.new ⟨[.success (payload "b") [7], .failure "no"], none⟩ (CapabilityPool.addCapabilities ∅ [7]) spec.id) =
        some (r, e') ∧ r.toBool = false ∧ e'.history = [.sent 0 first, .answered 0 (.success (payload "b") [7]),
          .sent 1 (second "b"), .answered 1 (.failure "no")] := by decide +kernel
  cases r with
  | ok => cases hfailed
  | error error =>
    refine ⟨error, e', hcall, ((pool_after_execution _ _ _ _ _ _ _ hcall).2 error rfl).mpr ?_⟩
    intro index output capabilities hmem capId hcap
    simp [hhistory] at hmem
    rw [hmem.2.2] at hcap
    revert capId
    decide

open Scripted StageJson in
theorem failed_pipeline_grants : ∃ error e',
    (env.execute spec (payload "a")).call (.new ⟨[.success (payload "b") [7], .failure "no"], none⟩ ∅ spec.id) =
      some (.error error, e') ∧ e'.availableCapabilities.getCapabilitySet = {7} := by
  obtain ⟨r, e', hcall, hfailed, hpool⟩ : ∃ r e', (env.execute spec (payload "a")).call
      (.new ⟨[.success (payload "b") [7], .failure "no"], none⟩ ∅ spec.id) = some (r, e') ∧ r.toBool = false ∧
      e'.availableCapabilities.getCapabilitySet = {7} := by decide +kernel
  cases r with
  | ok => cases hfailed
  | error error => exact ⟨error, e', hcall, hpool⟩

end PandaGen.Pipeline
