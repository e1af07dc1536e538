import PandaGen.Kernel.SyscallJson
import PandaGen.Pipeline.Executor

/-!
# The JSON texts of stage messages

What `serde_json` writes for the requests to handlers and for their responses.
-/

namespace PandaGen.Pipeline.StageJson

open Lib Storage Storage.Json Kernel.SyscallJson Codec

def schemaVersion : Codec PayloadSchemaVersion :=
  Kernel.SyscallJson.schemaVersion.image (fun v => some ⟨v.major, v.minor⟩) (fun v => ⟨v.major, v.minor⟩)

def typedPayload : Codec TypedPayload :=
  ((string.pair beforeSchemaVersion
    (schemaVersion.pair (comma ",\"data\":") bytes)).between
    (ascii "\x7b\"schema_id\":") closingBrace).image
    (fun (i, v, d) => some ⟨⟨i⟩, v, d⟩) (fun p => (p.schemaId.name, p.schemaVersion, p.data))

def capabilities : Codec (List Nat) := array nat (head?_nat rfl)

/-! ## Results -/

inductive Kind where
  | success
  | failure
  | retryable
  | cancelled
  deriving DecidableEq

def kinds : List Kind := [.success, .failure, .retryable, .cancelled]

theorem mem_kinds (kind) : kind ∈ kinds := by
  cases kind <;> decide

def Fields : Kind → Type
  | .success => TypedPayload × List Nat
  | _ => String

def tag : Kind → String
  | .success => "\x7b\"Success\":\x7b\"output\":"
  | .failure => "\x7b\"Failure\":\x7b\"error\":"
  | .retryable => "\x7b\"Retryable\":\x7b\"error\":"
  | .cancelled => "\x7b\"Cancelled\":\x7b\"reason\":"

def fields : (kind : Kind) → Codec (Fields kind)
  | .success => closed (typedPayload.pair beforeCapabilities capabilities) closingBraces
  | .failure => closed string closingBraces
  | .retryable => closed string closingBraces
  | .cancelled => closed string closingBraces

def resultOf : (Σ kind, Fields kind) → StageResult
  | ⟨.success, output, capabilities⟩ => .success output capabilities
  | ⟨.failure, error⟩ => .failure error
  | ⟨.retryable, error⟩ => .retryable error
  | ⟨.cancelled, reason⟩ => .cancelled reason

def fieldsOf : StageResult → Σ kind, Fields kind
  | .success output capabilities => ⟨.success, output, capabilities⟩
  | .failure error => ⟨.failure, error⟩
  | .retryable error => ⟨.retryable, error⟩
  | .cancelled reason => ⟨.cancelled, reason⟩

def stageResult : Codec StageResult :=
  (variants kinds (fun kind => ascii (tag kind)) fields mem_kinds).image (fun x => some (resultOf x)) fieldsOf
    (fun result => by cases result <;> rfl)

/-! ## Documents -/

def request : Codec StageInvokeRequest :=
  (typedPayload.between (ascii "\x7b\"input\":") closingBrace).image
    (fun i => some ⟨i⟩) StageInvokeRequest.input

def response : Codec StageInvokeResponse :=
  (stageResult.between (ascii "\x7b\"result\":") closingBrace).image
    (fun r => some ⟨r⟩) StageInvokeResponse.result

instance : SerdeDisplay StageInvokeRequest := serdeDisplay request

instance : SerdeDisplay StageInvokeResponse := serdeDisplay response

instance : LawfulSerdeJson StageInvokeRequest := serde_lawful request rfl

end PandaGen.Pipeline.StageJson
