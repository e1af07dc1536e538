import PandaGen.Lib.Monitor
import PandaGen.Pipeline.Executor

/-!
# The reference monitor of an execution

What an execution is for: the stages of a pipeline come one after the other, each gets the output of the one before,
and a request goes out only under the authority that the policy engine leaves. The monitor follows an execution by its
events.
-/

namespace PandaGen.Pipeline

open Lib Kernel Storage

inductive Phase where
  | initial (input : TypedPayload)
  | ready (index : Nat) (input : TypedPayload)
  | admitted (index : Nat) (input : TypedPayload) (authority : Option (Finset Nat))
  | awaiting (index : Nat) (input : TypedPayload) (authority : Option (Finset Nat))
  | refused (index : Nat)
  | closed

/-- The state of the monitor: whether there is a policy engine, the capabilities in the pool, and the authority of the
execution. -/
structure Course where
  policed : Bool
  pool : Finset Nat
  authority : Option (Finset Nat)
  phase : Phase

namespace Course

def goto (c : Course) (phase : Phase) : Course := { c with phase }

def enter (c : Course) (index : Nat) (input : TypedPayload) : Course :=
  c.goto (if c.policed then .ready index input else .admitted index input c.authority)

def new (policed : Bool) (pool : Finset Nat) (input : TypedPayload) : Course :=
  let c : Course := ⟨policed, pool, none, .initial input⟩
  if policed then c else c.enter 0 input

def answer (c : Course) (index : Nat) (input : TypedPayload) (authority : Option (Finset Nat)) : StageResult → Course
  | .success output capabilities => enter { c with pool := c.pool ∪ capabilities.toFinset } (index + 1) output
  | .retryable _ => c.goto (.admitted index input authority)
  | _ => c.goto .closed

end Course

def leaves (current : Finset Nat) (authority : Option (Finset Nat)) : PolicyDecision → Option (Option (Finset Nat))
  | .allow none => some authority
  | .allow (some derived) => if derived.capabilities ⊆ current then some (some derived.capabilities) else none
  | _ => none

def Covers (pool : Finset Nat) (authority : Option (Finset Nat)) (capId : Nat) : Prop :=
  capId ∈ pool ∧ ∀ a ∈ authority, capId ∈ a

def Carries [SerdeJson StageInvokeRequest] (request : MessageEnvelope) (input : TypedPayload) : Prop :=
  toVec (StageInvokeRequest.mk input) = some request.payload

inductive Step [SerdeJson StageInvokeRequest] (spec : PipelineSpec) : Course → Event → Course → Prop
  | started {c input decision authority} : c.phase = .initial input → leaves c.pool none decision = some authority →
      Step spec c (.started decision) (Course.enter { c with authority } 0 input)
  | startRefused {c input decision} : c.phase = .initial input → leaves c.pool none decision = none →
      Step spec c (.started decision) (c.goto .closed)
  | stageStarted {c index input decision authority} : c.phase = .ready index input →
      leaves (c.authority.getD c.pool) c.authority decision = some authority →
      Step spec c (.stageStarted index decision) (c.goto (.admitted index input authority))
  | stageRefused {c index input decision} : c.phase = .ready index input →
      leaves (c.authority.getD c.pool) c.authority decision = none →
      Step spec c (.stageStarted index decision) (c.goto (.refused index))
  | invalidAuthority {c index derived} : c.phase = .refused index → ¬ derived ⊆ c.authority.getD c.pool →
      Step spec c (.invalidAuthority index derived) (c.goto .closed)
  | missingCapability {c index input authority stage capId} : c.phase = .admitted index input authority →
      spec.stages[index]? = some stage → capId ∈ stage.requiredCapabilities → ¬ Covers c.pool authority capId →
      Step spec c (.missingCapability index capId) (c.goto .closed)
  | sent {c index input authority stage request} : c.phase = .admitted index input authority →
      spec.stages[index]? = some stage → (∀ capId ∈ stage.requiredCapabilities, Covers c.pool authority capId) →
      Carries request input → Step spec c (.sent index request) (c.goto (.awaiting index input authority))
  | answered {c index input authority result} : c.phase = .awaiting index input authority →
      Step spec c (.answered index result) (c.answer index input authority result)
  | stageEnded {c index decision} : Step spec c (.stageEnded index decision) c

end PandaGen.Pipeline
