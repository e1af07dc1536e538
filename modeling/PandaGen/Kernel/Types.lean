import PandaGen.Core.Uuid
import PandaGen.Core.Word
import Mathlib.Data.Finset.Basic

/-!
# Identities, resources, policies and capabilities

The records the kernel keeps: `identity`, `resources`, `policy`, `core_types/src/capability.rs`,
`sim_kernel/src/resource_audit.rs` and the errors of `kernel_api`. Instants and durations are nanoseconds.
-/

namespace PandaGen.Kernel

/-! ## How identifiers are shown -/

def showTask (id : TaskId) : String := "Task(" ++ id.uuid.text ++ ")"

def showService (id : ServiceId) : String := "Service(" ++ id.uuid.text ++ ")"

def showExecution (id : ExecutionId) : String := "exec:" ++ id.uuid.text

def showMessage (id : MessageId) : String := "Msg(" ++ id.uuid.text ++ ")"

/-! ## Resources -/

/-- The limits of an identity; a resource without a limit is unlimited. -/
structure ResourceBudget where
  cpuTicks : Option Nat
  memoryUnits : Option Nat
  messageCount : Option Nat
  packetCount : Option Nat
  storageOps : Option Nat
  pipelineStages : Option Nat
  deriving DecidableEq

namespace ResourceBudget

def unlimited : ResourceBudget := ⟨none, none, none, none, none, none⟩

/-- One check of `is_subset_of`: no limit in the parent is fine, and none in the child as well. -/
def limitWithin : Option Nat → Option Nat → Bool
  | some child, some parent => child ≤ parent
  | _, _ => true

def isSubsetOf (self other : ResourceBudget) : Bool :=
  limitWithin self.cpuTicks other.cpuTicks && limitWithin self.memoryUnits other.memoryUnits &&
    limitWithin self.messageCount other.messageCount && limitWithin self.packetCount other.packetCount &&
    limitWithin self.storageOps other.storageOps && limitWithin self.pipelineStages other.pipelineStages

end ResourceBudget

structure ResourceUsage where
  cpuTicks : Nat
  memoryUnits : Nat
  messageCount : Nat
  packetCount : Nat
  storageOps : Nat
  pipelineStages : Nat

namespace ResourceUsage

def zero : ResourceUsage := ⟨0, 0, 0, 0, 0, 0⟩

variable (u : ResourceUsage)

def consumeCpuTicks (amount : Nat) : ResourceUsage :=
  { u with cpuTicks := saturatingAdd u.cpuTicks amount }

def consumeMemoryUnits (amount : Nat) : ResourceUsage :=
  { u with memoryUnits := saturatingAdd u.memoryUnits amount }

def consumeMessage : ResourceUsage := { u with messageCount := saturatingAdd u.messageCount 1 }

def consumePacket : ResourceUsage := { u with packetCount := saturatingAdd u.packetCount 1 }

def consumeStorageOp : ResourceUsage := { u with storageOps := saturatingAdd u.storageOps 1 }

def consumePipelineStage : ResourceUsage :=
  { u with pipelineStages := saturatingAdd u.pipelineStages 1 }

end ResourceUsage

/-! ## Identities -/

inductive IdentityKind where
  | system
  | service
  | component
  | pipelineStage

structure TrustDomain where
  name : String
  deriving DecidableEq

namespace TrustDomain

def core : TrustDomain := ⟨"core"⟩

def user : TrustDomain := ⟨"user"⟩

end TrustDomain

structure IdentityMetadata where
  executionId : ExecutionId
  kind : IdentityKind
  taskId : Option TaskId
  parentId : Option ExecutionId
  creatorId : Option ExecutionId
  createdAtNanos : Nat
  trustDomain : TrustDomain
  name : String
  budget : Option ResourceBudget
  usage : ResourceUsage

namespace IdentityMetadata

def new (executionId : ExecutionId) (kind : IdentityKind) (trustDomain : TrustDomain) (name : String)
    (createdAtNanos : Nat) : IdentityMetadata where
  executionId
  kind
  taskId := none
  parentId := none
  creatorId := none
  createdAtNanos
  trustDomain
  name
  budget := none
  usage := .zero

def withBudget (self : IdentityMetadata) (budget : ResourceBudget) : IdentityMetadata :=
  { self with budget := some budget }

def sameDomain (self other : IdentityMetadata) : Bool := self.trustDomain = other.trustDomain

def budgetInheritsFrom (self parent : IdentityMetadata) : Bool :=
  match self.budget, parent.budget with
  | some childBudget, some parentBudget => childBudget.isSubsetOf parentBudget
  | _, _ => true

end IdentityMetadata

/-- `identity::ExitReason` -/
inductive ExitReason where
  | normal
  | failure (error : String)
  | cancelled (reason : String)
  | timeout

structure ExitNotification where
  executionId : ExecutionId
  taskId : Option TaskId
  reason : ExitReason
  terminatedAtNanos : Nat

structure TaskDescriptor where
  name : String
  capabilities : List Nat

structure TaskInfo where
  descriptor : TaskDescriptor
  executionId : ExecutionId

/-! ## Policies -/

structure DerivedAuthority where
  capabilities : Finset Nat
  constraints : List String
  deriving DecidableEq

inductive PolicyDecision where
  | allow (derived : Option DerivedAuthority)
  | deny (reason : String)
  | require (action : String)
  deriving DecidableEq

inductive PolicyEvent where
  | onSpawn
  | onTerminate
  | onCapabilityDelegate
  | onPipelineStart
  | onPipelineStageStart
  | onPipelineStageEnd

structure PolicyContext where
  actorIdentity : IdentityMetadata
  targetIdentity : Option IdentityMetadata
  capabilityId : Option Nat
  pipelineId : Option PipelineId
  stageId : Option StageId
  metadata : List (String × String)

namespace PolicyContext

def forSpawn (actorIdentity targetIdentity : IdentityMetadata) : PolicyContext :=
  ⟨actorIdentity, some targetIdentity, none, none, none, []⟩

def forCapabilityDelegation (fromIdentity toIdentity : IdentityMetadata) (capId : Nat) : PolicyContext :=
  ⟨fromIdentity, some toIdentity, some capId, none, none, []⟩

def forPipeline (actorIdentity : IdentityMetadata) (pipelineId : PipelineId) : PolicyContext :=
  ⟨actorIdentity, none, none, some pipelineId, none, []⟩

def withMetadata (self : PolicyContext) (key value : String) : PolicyContext :=
  { self with metadata := self.metadata ++ [(key, value)] }

end PolicyContext

abbrev PolicyEngine := PolicyEvent → PolicyContext → PolicyDecision

/-! ## Capabilities -/

inductive CapabilityStatus where
  | valid
  | transferred
  | invalid
  deriving DecidableEq

inductive CapabilityInvalidReason where
  | ownerDead
  | neverGranted
  | transferredAway
  | typeMismatch
  | revoked
  | leaseExpired

def CapabilityInvalidReason.debug : CapabilityInvalidReason → String
  | .ownerDead => "OwnerDead"
  | .neverGranted => "NeverGranted"
  | .transferredAway => "TransferredAway"
  | .typeMismatch => "TypeMismatch"
  | .revoked => "Revoked"
  | .leaseExpired => "LeaseExpired"

structure CapabilityMetadata where
  capId : Nat
  owner : TaskId
  capType : String
  status : CapabilityStatus
  grantor : Option TaskId
  revoked : Bool
  leaseExpiresAtNanos : Option Nat

inductive CapabilityEvent where
  | granted (capId : Nat) (grantor : Option TaskId) (grantee : TaskId) (capType : String)
  | delegated (capId : Nat) (fromTask toTask : TaskId) (capType : String)
  | crossDomainDelegation (capId : Nat) (fromTask : TaskId) (fromDomain : String) (toTask : TaskId)
      (toDomain : String)
  | cloned (capId : Nat) (originalOwner newOwner : TaskId) (capType : String)
  | dropped (capId : Nat) (owner : TaskId) (capType : String)
  | invalidUseAttempt (capId : Nat) (task : TaskId) (reason : CapabilityInvalidReason)
  | invalidated (capId : Nat) (owner : TaskId) (capType : String)
  | revoked (capId : Nat) (owner : TaskId) (capType : String) (reason : String)
  | leaseExpired (capId : Nat) (owner : TaskId) (capType : String) (expiredAtNanos : Nat)

structure CapabilityAuditEvent where
  timestamp : Nat
  event : CapabilityEvent

/-! ## The resource audit -/

inductive MessageOperation where
  | send
  | receive

def MessageOperation.debug : MessageOperation → String
  | .send => "Send"
  | .receive => "Receive"

inductive PacketOperation where
  | send
  | receive

def PacketOperation.debug : PacketOperation → String
  | .send => "Send"
  | .receive => "Receive"

inductive StorageOperation where
  | read
  | write
  | commit

def StorageOperation.debug : StorageOperation → String
  | .read => "Read"
  | .write => "Write"
  | .commit => "Commit"

inductive ResourceEvent where
  | messageConsumed (executionId : ExecutionId) (operation : MessageOperation) (before after : Nat)
  | packetConsumed (executionId : ExecutionId) (operation : PacketOperation) (before after : Nat)
  | cpuConsumed (executionId : ExecutionId) (amount before after : Nat)
  | storageOpConsumed (executionId : ExecutionId) (operation : StorageOperation) (before after : Nat)
  | pipelineStageConsumed (executionId : ExecutionId) (stageName : String) (before after : Nat)
  | budgetExhausted (executionId : ExecutionId) (resourceType : String) (limit attemptedUsage : Nat)
      (operation : String)
  | cancelledDueToExhaustion (executionId : ExecutionId) (resourceType : String)

structure ResourceAuditEntry where
  timestamp : Nat
  event : ResourceEvent

/-! ## Errors -/

inductive KernelError where
  | spawnFailed (msg : String)
  | channelError (msg : String)
  | sendFailed (msg : String)
  | receiveFailed (msg : String)
  | timeout
  | serviceNotFound (msg : String)
  | serviceAlreadyRegistered (msg : String)
  | insufficientAuthority (msg : String)
  | invalidCapability (msg : String)
  | resourceExhausted (msg : String)
  | resourceBudgetExceeded (resourceType : String) (limit usage : Nat) (identity operation : String)
  | resourceBudgetExhausted (resourceType : String) (limit usage : Nat) (identity operation : String)
  deriving DecidableEq

namespace KernelError

def budgetText (resourceType : String) (limit usage : Nat) (identity operation : String) : String :=
  resourceType ++ " limit=" ++ toString limit ++ ", usage=" ++ toString usage ++ ", identity=" ++ identity ++
    ", operation=" ++ operation

def text : KernelError → String
  | .spawnFailed msg => "Failed to spawn task: " ++ msg
  | .channelError msg => "Channel error: " ++ msg
  | .sendFailed msg => "Failed to send message: " ++ msg
  | .receiveFailed msg => "Failed to receive message: " ++ msg
  | .timeout => "Operation timed out"
  | .serviceNotFound msg => "Service not found: " ++ msg
  | .serviceAlreadyRegistered msg => "Service already registered: " ++ msg
  | .insufficientAuthority msg => "Insufficient authority: " ++ msg
  | .invalidCapability msg => "Invalid capability: " ++ msg
  | .resourceExhausted msg => "Resource exhausted: " ++ msg
  | .resourceBudgetExceeded resourceType limit usage identity operation =>
    "Resource budget exceeded: " ++ budgetText resourceType limit usage identity operation
  | .resourceBudgetExhausted resourceType limit usage identity operation =>
    "Resource budget exhausted: " ++ budgetText resourceType limit usage identity operation

end KernelError

end PandaGen.Kernel
