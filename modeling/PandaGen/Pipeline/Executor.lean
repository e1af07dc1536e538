import PandaGen.Kernel.Policy
import PandaGen.Kernel.Syscalls
import PandaGen.Pipeline.Spec
import Mathlib.Data.Finset.Sort

/-!
# The pipeline executor

`services_pipeline_executor/src/lib.rs`. The kernel, the policy engine, the handlers behind the kernel, the source of
identifiers and whoever may cancel are a world in any state, and each call may change it. An execution also keeps the
history of what the executor asks the policy engine and the handlers, and of their answers. Nothing reads it.
-/

namespace PandaGen.Pipeline

open Lib Kernel Storage

/-! ## Errors -/

inductive ExecutorError where
  | validationFailed (error : PipelineError)
  | kernelError (text : String)
  | handlerNotFound (handler : String)
  | schemaValidation (expected actual : String)
  | serialization (text : String)
  | policyDenied (policy event reason : String) (pipelineId : Option String)
  | policyRequire (policy event action : String) (pipelineId : Option String)
  | policyDerivedAuthorityInvalid (policy event reason delta : String) (pipelineId : Option String)

/-- `lifecycle::CancellationReason` -/
inductive CancellationReason where
  | userCancel
  | timeout
  | supervisorCancel
  | dependencyFailed
  | custom (text : String)

def CancellationReason.text : CancellationReason → String
  | .userCancel => "user cancelled"
  | .timeout => "timeout"
  | .supervisorCancel => "supervisor cancelled"
  | .dependencyFailed => "dependency failed"
  | .custom text => text

def debugVec (l : List Nat) : String := "[" ++ ", ".intercalate (l.map toString) ++ "]"

def debugCorrelation : Option MessageId → String
  | some id => "Some(MessageId(" ++ id.uuid.text ++ "))"
  | none => "None"

def deltaText (before after : Finset Nat) : String :=
  "removed: " ++ debugVec ((before \ after).sort (· ≤ ·)) ++ ", added: " ++ debugVec ((after \ before).sort (· ≤ ·))

/-! ## Messages to handlers -/

structure StageInvokeRequest where
  input : TypedPayload

structure StageInvokeResponse where
  result : StageResult

/-! ## Executions -/

structure PolicyEngine (W : Type) where
  name : String
  evaluate : PolicyEvent → PolicyContext → Proc W Empty PolicyDecision

/-- What an execution has at hand. The token is cancelled for a reason that the world holds. -/
structure Environment (W : Type) where
  kernel : KernelApi W
  policyEngine : Option (PolicyEngine W)
  identity : Option IdentityMetadata
  cancellation : W → Option CancellationReason
  newUuid : Proc W Empty Uuid

/-- What the executor asks and is answered. A stage is named by its index. -/
inductive Event where
  | started (decision : PolicyDecision)
  | stageStarted (index : Nat) (decision : PolicyDecision)
  | invalidAuthority (index : Nat) (derived : Finset Nat)
  | missingCapability (index : Nat) (capId : Nat)
  | sent (index : Nat) (request : MessageEnvelope)
  | answered (index : Nat) (result : StageResult)
  | stageEnded (index : Nat) (decision : PolicyDecision)
  deriving DecidableEq

abbrev CapabilityPool := BTreeMap Nat Bool

namespace CapabilityPool

def addCapabilities (pool : CapabilityPool) (capIds : List Nat) : CapabilityPool :=
  capIds.foldl (fun pool capId => pool.insert capId true) pool

def hasCapability (pool : CapabilityPool) (capId : Nat) : Bool := pool[capId]?.getD false

def getCapabilitySet (pool : CapabilityPool) : Finset Nat :=
  (pool.toList.filterMap fun (capId, present) => if present then some capId else none).toFinset

def hasCapabilityWithAuthority (pool : CapabilityPool) (capId : Nat) (authority : Option (Finset Nat)) : Bool :=
  if !pool.hasCapability capId then false
  else
    match authority with
    | some auth => capId ∈ auth
    | none => true

end CapabilityPool

structure Execution (W : Type) where
  world : W
  availableCapabilities : CapabilityPool
  trace : ExecutionTrace
  history : List Event

def Execution.new {W : Type} (world : W) (pool : CapabilityPool) (pipelineId : PipelineId) : Execution W :=
  ⟨world, pool, .new pipelineId, []⟩

abbrev Exec (W α : Type) := Proc (Execution W) ExecutorError α

variable {W : Type}

/-! ## Steps -/

namespace Exec

def onWorld {ε α : Type} (m : Proc W ε α) : Proc (Execution W) ε α :=
  m.zoom Execution.world fun world e => { e with world }

def total {α : Type} (m : Proc W Empty α) : Exec W α := (onWorld m).mapErr Empty.elim

def record (event : Event) : Exec W Unit := modify fun e => { e with history := e.history ++ [event] }

def fail {α : Type} (result : PipelineExecutionResult) (error : ExecutorError) : Exec W α := do
  modify fun e => { e with trace := e.trace.setFinalResult result }
  throw (.err error)

end Exec

namespace Environment

open Exec

variable (env : Environment W)

def now : Exec W Nat := total env.kernel.now

def fromMillis (ms : Nat) : Exec W Nat := Proc.okOrPanic (checkedMul ms 1000000)

def timeoutMillis : Option Nat → Exec W (Option Nat)
  | none => return none
  | some ms => some <$> fromMillis ms

def deadline : Option Nat → Exec W (Option Nat)
  | none => return none
  | some ms => do
    let start ← env.now
    let duration ← fromMillis ms
    return some (← Proc.okOrPanic (checkedAdd start duration))

/-- `deadline.has_passed(kernel.now())`. The time is asked only where there is a deadline. -/
def hasPassed : Option Nat → Exec W Bool
  | none => return false
  | some instant => return instant ≤ (← env.now)

/-! ## Policies -/

def actorIdentity : Exec W IdentityMetadata :=
  match env.identity with
  | some identity => return identity
  | none => do
    let createdAt ← env.now
    let uuid ← total env.newUuid
    return .new ⟨uuid⟩ .service .core "pipeline-executor" createdAt

def buildPipelineContext (spec : PipelineSpec) : Exec W PolicyContext := do
  let context := PolicyContext.forPipeline (← env.actorIdentity) spec.id
  let context := match spec.timeoutMs with
    | some timeoutMs => context.withMetadata "timeout_ms" (toString timeoutMs)
    | none => context
  return context.withMetadata "stage_count" (toString spec.stages.length)

def buildStageContext (spec : PipelineSpec) (stage : StageSpec) : Exec W PolicyContext := do
  let context := PolicyContext.forPipeline (← env.actorIdentity) spec.id
  let context := { context with stageId := some stage.id }
  let context := match stage.timeoutMs with
    | some timeoutMs => context.withMetadata "stage_timeout_ms" (toString timeoutMs)
    | none => context
  let context := context.withMetadata "retry_max" (toString stage.retryPolicy.maxRetries)
  return context.withMetadata "required_capabilities" (debugVec stage.requiredCapabilities)

/-- The authority that a decision leaves, of which `current` is the most. Else an error, and the text that ends the
trace at a stage. -/
def applyDecision (policy : PolicyEngine W) (event : String) (pipelineId : PipelineId) (current : Finset Nat)
    (authority : Option (Finset Nat)) : PolicyDecision → Except (ExecutorError × String) (Option (Finset Nat))
  | .deny reason =>
    .error (.policyDenied policy.name event reason (some pipelineId.uuid.text), "Policy denied: " ++ reason)
  | .require action =>
    .error (.policyRequire policy.name event action (some pipelineId.uuid.text), "Policy requires: " ++ action)
  | .allow none => .ok authority
  | .allow (some derived) =>
    if derived.capabilities ⊆ current then .ok (some derived.capabilities)
    else
      .error (.policyDerivedAuthorityInvalid policy.name event
        "Derived authority grants more capabilities than available" (deltaText current derived.capabilities)
        (some pipelineId.uuid.text), "Policy derived authority invalid: not a subset")

def startAuthority (spec : PipelineSpec) : Exec W (Option (Finset Nat)) :=
  match env.policyEngine with
  | none => return none
  | some policy => do
    let context ← env.buildPipelineContext spec
    let decision ← total (policy.evaluate .onPipelineStart context)
    record (.started decision)
    let currentCaps := (← get).availableCapabilities.getCapabilitySet
    match applyDecision policy "OnPipelineStart" spec.id currentCaps none decision with
    | .ok authority => return authority
    | .error (error, _) => throw (.err error)

def stageAuthority (spec : PipelineSpec) (index : Nat) (stage : StageSpec) (executionAuthority : Option (Finset Nat)) :
    Exec W (Option (Finset Nat)) :=
  match env.policyEngine with
  | none => return executionAuthority
  | some policy => do
    let context ← env.buildStageContext spec stage
    let decision ← total (policy.evaluate .onPipelineStageStart context)
    record (.stageStarted index decision)
    let currentAuthority := executionAuthority.getD (← get).availableCapabilities.getCapabilitySet
    match applyDecision policy "OnPipelineStageStart" spec.id currentAuthority executionAuthority decision with
    | .ok authority => return authority
    | .error (error, text) => do
      if let .allow (some derived) := decision then record (.invalidAuthority index derived.capabilities)
      fail (.failed stage.name text) error

/-- The decision at the end of a stage is not acted on. -/
def auditStageEnd (spec : PipelineSpec) (index : Nat) (stage : StageSpec) : Exec W Unit :=
  match env.policyEngine with
  | none => return ()
  | some policy => do
    let context ← env.buildStageContext spec stage
    let decision ← total (policy.evaluate .onPipelineStageEnd context)
    record (.stageEnded index decision)

/-! ## Stages -/

variable [SerdeDisplay StageInvokeRequest] [SerdeDisplay StageInvokeResponse]

def lookupHandler (stage : StageSpec) : Exec W ChannelId :=
  (onWorld (env.kernel.lookupService stage.handler)).mapErr fun
    | .serviceNotFound _ => .handlerNotFound (showService stage.handler)
    | err => .kernelError ("Failed to lookup stage handler " ++ showService stage.handler ++ ": " ++ err.text)

def stageRequest (stage : StageSpec) (input : TypedPayload) : Exec W MessageEnvelope :=
  match toVec (StageInvokeRequest.mk input) with
  | none =>
    throw (.err (.serialization ("Failed to serialize request: " ++ toVecText (StageInvokeRequest.mk input))))
  | some payload => do
    let uuid ← total env.newUuid
    return .new ⟨uuid⟩ stage.handler stage.action ⟨input.schemaVersion.major, input.schemaVersion.minor⟩ payload

def receiveResponse (stage : StageSpec) (channel : ChannelId) (requestId : MessageId) : Exec W StageResult := do
  let timeout ← timeoutMillis stage.timeoutMs
  let response ← (onWorld (env.kernel.receiveMessage channel timeout)).mapErr fun e =>
    ExecutorError.kernelError ("Failed to receive stage response: " ++ e.text)
  Proc.failIf (response.correlationId ≠ some requestId) (.err (.kernelError
    ("Stage response correlation mismatch: expected " ++ showMessage requestId ++ ", got " ++
      debugCorrelation response.correlationId)))
  match fromSlice response.payload with
  | none =>
    throw (.err (.serialization ("Failed to deserialize stage response: " ++
      SerdeDisplay.fromSliceText StageInvokeResponse response.payload)))
  | some (decoded : StageInvokeResponse) => return decoded.result

def executeStageOnce (index : Nat) (stage : StageSpec) (input : TypedPayload) : Exec W StageResult := do
  let channel ← env.lookupHandler stage
  let request ← env.stageRequest stage input
  record (.sent index request)
  (onWorld (env.kernel.sendMessage channel request)).mapErr fun e =>
    ExecutorError.kernelError ("Failed to send stage request: " ++ e.text)
  let result ← env.receiveResponse stage channel request.id
  record (.answered index result)
  return result

def traceResult : StageResult → StageExecutionResult
  | .success _ _ => .success
  | .failure error => .failure error
  | .retryable error => .retrying error
  | .cancelled reason => .cancelled reason

def capsOut : StageResult → List Nat
  | .success _ capabilities => capabilities
  | _ => []

def tryStage (index : Nat) (stage : StageSpec) (input : TypedPayload) (attempt : Nat) : Exec W StageResult := do
  let startTime ← env.now
  let result ← env.executeStageOnce index stage input
  let endTime ← env.now
  let entry : StageTraceEntry :=
    { stageId := stage.id
      stageName := stage.name
      startTimeMs := startTime / 1000000
      endTimeMs := endTime / 1000000
      attempt
      result := traceResult result
      capabilitiesIn := stage.requiredCapabilities
      capabilitiesOut := capsOut result }
  modify fun e => { e with trace := e.trace.addEntry entry }
  return result

def interrupted (stageDeadline : Option Nat) : Exec W (Option String) := do
  match env.cancellation (← get).world with
  | some reason => return some reason.text
  | none => return if ← env.hasPassed stageDeadline then some "stage timeout" else none

/-- The result of the sleep is not looked at. -/
def backOff (policy : RetryPolicy) (attempt : Nat) : Exec W Unit := do
  let backoff := policy.backoffDuration attempt
  if backoff > 0 then
    let duration ← fromMillis backoff
    let _ ← (onWorld (env.kernel.sleep duration)).attempt

/-- The loop of `execute_stage_with_retry` when `left` retries are left: the attempt is the one after those made. -/
def attempts (index : Nat) (stage : StageSpec) (input : TypedPayload) (stageDeadline : Option Nat) (left : Nat) :
    Exec W StageResult := do
  match ← env.interrupted stageDeadline with
  | some reason => return .cancelled reason
  | none =>
    match ← env.tryStage index stage input (stage.retryPolicy.maxRetries - left) with
    | .retryable error =>
      match left with
      | 0 =>
        return .failure ("Max retries (" ++ toString stage.retryPolicy.maxRetries ++ ") exceeded: " ++ error)
      | left + 1 => do
        env.backOff stage.retryPolicy (stage.retryPolicy.maxRetries - left)
        attempts index stage input stageDeadline left
    | result => return result

def executeStageWithRetry (index : Nat) (stage : StageSpec) (input : TypedPayload) : Exec W StageResult := do
  let stageDeadline ← env.deadline stage.timeoutMs
  env.attempts index stage input stageDeadline stage.retryPolicy.maxRetries

/-! ## Pipelines -/

def checkCancelled (stage : StageSpec) : Exec W Unit := do
  if let some reason := env.cancellation (← get).world then
    fail (.cancelled stage.name reason.text)
      (.kernelError ("Pipeline cancelled at stage " ++ stage.name ++ ": " ++ reason.text))

def checkDeadline (stage : StageSpec) (pipelineDeadline : Option Nat) : Exec W Unit := do
  if ← env.hasPassed pipelineDeadline then
    fail (.cancelled stage.name "pipeline timeout") (.kernelError ("Pipeline timed out at stage " ++ stage.name))

def checkCapabilities (index : Nat) (stage : StageSpec) (authority : Option (Finset Nat)) : List Nat → Exec W Unit
  | [] => return ()
  | capId :: rest => do
    if !(← get).availableCapabilities.hasCapabilityWithAuthority capId authority then
      record (.missingCapability index capId)
      let error := "Missing required capability: " ++ toString capId
      fail (.failed stage.name error) (.kernelError error)
    checkCapabilities index stage authority rest

def conclude (stage : StageSpec) : StageResult → Exec W TypedPayload
  | .success output capabilities => do
    modify fun e => { e with availableCapabilities := e.availableCapabilities.addCapabilities capabilities }
    return output
  | .failure error => fail (.failed stage.name error) (.kernelError error)
  | .retryable error => fail (.failed stage.name error) (.kernelError ("Retryable error not handled: " ++ error))
  | .cancelled reason => fail (.cancelled stage.name reason) (.kernelError ("Stage cancelled: " ++ reason))

def executeStage (spec : PipelineSpec) (executionAuthority : Option (Finset Nat)) (pipelineDeadline : Option Nat)
    (index : Nat) (stage : StageSpec) (input : TypedPayload) : Exec W TypedPayload := do
  env.checkCancelled stage
  env.checkDeadline stage pipelineDeadline
  let authority ← env.stageAuthority spec index stage executionAuthority
  checkCapabilities index stage authority stage.requiredCapabilities
  let result ← env.executeStageWithRetry index stage input
  env.auditStageEnd spec index stage
  conclude stage result

def executeStages (spec : PipelineSpec) (executionAuthority : Option (Finset Nat)) (pipelineDeadline : Option Nat) :
    Nat → List StageSpec → TypedPayload → Exec W TypedPayload
  | _, [], currentInput => return currentInput
  | index, stage :: rest, currentInput => do
    let output ← env.executeStage spec executionAuthority pipelineDeadline index stage currentInput
    executeStages spec executionAuthority pipelineDeadline (index + 1) rest output

def checkSchema (expected actual : PayloadSchemaId) : Exec W Unit :=
  Proc.failIf (actual ≠ expected) (.err (.schemaValidation expected.name actual.name))

def execute (spec : PipelineSpec) (initialInput : TypedPayload) : Exec W (TypedPayload × ExecutionTrace) := do
  Proc.ofExcept (spec.validate.mapError .validationFailed)
  Proc.failIf (env.cancellation (← get).world).isSome (.err (.kernelError "Pipeline cancelled before start"))
  checkSchema spec.initialInputSchema initialInput.schemaId
  let executionAuthority ← env.startAuthority spec
  let pipelineDeadline ← env.deadline spec.timeoutMs
  let output ← env.executeStages spec executionAuthority pipelineDeadline 0 spec.stages initialInput
  checkSchema spec.finalOutputSchema output.schemaId
  modify fun e => { e with trace := e.trace.setFinalResult .success }
  return (output, (← get).trace)

end Environment

end PandaGen.Pipeline
