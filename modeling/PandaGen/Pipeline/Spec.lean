import PandaGen.Core.Uuid

/-!
# Pipelines

`pipeline/src/lib.rs`: stages, the check that their schemas fit together, and the trace of an execution. Names of
pipelines are left out.
-/

namespace PandaGen.Pipeline

/-! ## Payloads -/

structure PayloadSchemaId where
  name : String
  deriving DecidableEq

structure PayloadSchemaVersion where
  major : Nat
  minor : Nat
  deriving DecidableEq

structure TypedPayload where
  schemaId : PayloadSchemaId
  schemaVersion : PayloadSchemaVersion
  data : List UInt8
  deriving DecidableEq

inductive StageResult where
  | success (output : TypedPayload) (capabilities : List Nat)
  | failure (error : String)
  | retryable (error : String)
  | cancelled (reason : String)
  deriving DecidableEq

/-! ## Stages -/

structure RetryPolicy where
  maxRetries : Nat
  initialBackoffMs : Nat
  backoffMultiplier : Float

namespace RetryPolicy

def none : RetryPolicy := ⟨0, 0, 1.0⟩

/-- Attempt 0 is not a retry. -/
def backoffDuration (self : RetryPolicy) (attempt : Nat) : Nat :=
  if attempt = 0 then 0
  else
    let multiplier := (List.range (attempt - 1)).foldl (fun multiplier _ => multiplier * self.backoffMultiplier) 1.0
    ((UInt64.ofNat self.initialBackoffMs).toFloat * multiplier).toUInt64.toNat

end RetryPolicy

structure StageSpec where
  id : StageId
  name : String
  handler : ServiceId
  action : String
  inputSchema : PayloadSchemaId
  outputSchema : PayloadSchemaId
  retryPolicy : RetryPolicy
  requiredCapabilities : List Nat
  timeoutMs : Option Nat

def StageSpec.new (id : StageId) (name : String) (handler : ServiceId) (action : String)
    (inputSchema outputSchema : PayloadSchemaId) : StageSpec :=
  ⟨id, name, handler, action, inputSchema, outputSchema, .none, [], none⟩

/-! ## Pipelines -/

inductive PipelineError where
  | emptyPipeline
  | schemaMismatch (stageName : String) (expected actual : PayloadSchemaId)
  deriving DecidableEq

structure PipelineSpec where
  id : PipelineId
  stages : List StageSpec
  initialInputSchema : PayloadSchemaId
  finalOutputSchema : PayloadSchemaId
  timeoutMs : Option Nat

namespace PipelineSpec

def checkChaining : List StageSpec → Except PipelineError Unit
  | current :: next :: rest =>
    if current.outputSchema ≠ next.inputSchema then
      .error (.schemaMismatch next.name current.outputSchema next.inputSchema)
    else checkChaining (next :: rest)
  | _ => .ok ()

def validate (self : PipelineSpec) : Except PipelineError Unit :=
  match self.stages with
  | [] => .error .emptyPipeline
  | first :: rest =>
    if first.inputSchema ≠ self.initialInputSchema then
      .error (.schemaMismatch first.name self.initialInputSchema first.inputSchema)
    else
      match checkChaining (first :: rest) with
      | .error e => .error e
      | .ok () =>
        let lastStage := (first :: rest).getLast (List.cons_ne_nil first rest)
        if lastStage.outputSchema ≠ self.finalOutputSchema then
          .error (.schemaMismatch lastStage.name self.finalOutputSchema lastStage.outputSchema)
        else .ok ()

end PipelineSpec

/-! ## Traces -/

inductive StageExecutionResult where
  | success
  | failure (error : String)
  | retrying (error : String)
  | cancelled (reason : String)

structure StageTraceEntry where
  stageId : StageId
  stageName : String
  startTimeMs : Nat
  endTimeMs : Nat
  attempt : Nat
  result : StageExecutionResult
  capabilitiesIn : List Nat
  capabilitiesOut : List Nat

inductive PipelineExecutionResult where
  | inProgress
  | success
  | failed (stageName error : String)
  | cancelled (stageName reason : String)

structure ExecutionTrace where
  pipelineId : PipelineId
  entries : List StageTraceEntry
  finalResult : PipelineExecutionResult

namespace ExecutionTrace

def new (pipelineId : PipelineId) : ExecutionTrace := ⟨pipelineId, [], .inProgress⟩

def addEntry (trace : ExecutionTrace) (entry : StageTraceEntry) : ExecutionTrace :=
  { trace with entries := trace.entries ++ [entry] }

def setFinalResult (trace : ExecutionTrace) (result : PipelineExecutionResult) : ExecutionTrace :=
  { trace with finalResult := result }

end ExecutionTrace

end PandaGen.Pipeline
