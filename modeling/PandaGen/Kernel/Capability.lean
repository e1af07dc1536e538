import PandaGen.Kernel.State

/-!
# The capability table

Grants, leases, delegation, drops, revocation and validation in `sim_kernel/src/lib.rs`. A capability is its
number.
-/

namespace PandaGen.Kernel

open Lib

def CapabilityMetadata.leasePassed (info : CapabilityMetadata) (now : Nat) : Bool :=
  info.leaseExpiresAtNanos.any fun expiresAt => expiresAt ≤ now

namespace SimulatedKernel

variable (k : SimulatedKernel)

def validateCapability (capId : Nat) (taskId : TaskId) : Except CapabilityInvalidReason Unit :=
  match k.capabilityTable[capId]? with
  | none => .error .neverGranted
  | some info =>
    if info.leasePassed k.currentTime then .error .leaseExpired
    else if info.revoked then .error .revoked
    else if info.status ≠ .valid then
      if info.status = .transferred then .error .transferredAway else .error .ownerDead
    else if info.owner ∉ k.tasks then .error .ownerDead
    else if info.owner ≠ taskId then .error .neverGranted
    else .ok ()

def isCapabilityValid (capId : Nat) (taskId : TaskId) : Bool :=
  (k.validateCapability capId taskId).isOk

/-- `self.validate_capability(..).map_err(..)?` -/
def requireCapability (capId : Nat) (taskId : TaskId) (context : String) : Proc SimulatedKernel KernelError Unit :=
  Proc.ofExcept ((k.validateCapability capId taskId).mapError fun reason =>
    .invalidCapability (context ++ reason.debug))

/-! ## Grants -/

def recordCapabilityGrant (capId : Nat) (grantee : TaskId) (capType : String)
    (grantor : Option TaskId) (leaseExpiresAtNanos : Option Nat) : SimulatedKernel :=
  let info : CapabilityMetadata :=
    { capId, owner := grantee, capType, status := .valid, grantor, revoked := false, leaseExpiresAtNanos }
  { k with capabilityTable := k.capabilityTable.insert capId info }.recordCapability
    (.granted capId grantor grantee capType)

def grantCapability (task : TaskId) (capId : Nat) : Proc SimulatedKernel KernelError Unit := do
  let k ← get
  Proc.failIf (task ∉ k.tasks) (.err (.sendFailed "Task not found"))
  set (k.recordCapabilityGrant capId task "Generic" none none)

def grantCapabilityWithLease (task : TaskId) (capId lease : Nat) : Proc SimulatedKernel KernelError Unit := do
  let k ← get
  Proc.failIf (task ∉ k.tasks) (.err (.sendFailed "Target task not found"))
  set (k.recordCapabilityGrant capId task "Generic" none (some (saturatingAdd k.currentTime lease)))

/-! ## The end of a capability -/

def endCapability (capId : Nat) (info : CapabilityMetadata) (event : CapabilityEvent) : SimulatedKernel :=
  { k with capabilityTable := k.capabilityTable.insert capId { info with status := .invalid } }.recordCapability event

def dropCapability (capId : Nat) (owner : TaskId) : Proc SimulatedKernel KernelError Unit := do
  let k ← get
  k.requireCapability capId owner "Cannot drop: "
  match k.capabilityTable[capId]? with
  | some info => set (k.endCapability capId info (.dropped capId owner info.capType))
  | none => return

def revokeCapability (capId : Nat) (owner : TaskId) (reason : String) : Proc SimulatedKernel KernelError Unit := do
  let k ← get
  k.requireCapability capId owner "Cannot revoke: "
  match k.capabilityTable[capId]? with
  | some info =>
    set (k.endCapability capId { info with revoked := true } (.revoked capId owner info.capType reason))
  | none => return

def endWith (event : Nat → CapabilityMetadata → CapabilityEvent) (k : SimulatedKernel) (capId : Nat) :
    SimulatedKernel :=
  match k.capabilityTable[capId]? with
  | some info => k.endCapability capId info (event capId info)
  | none => k

def invalidateCapability (taskId : TaskId) : SimulatedKernel → Nat → SimulatedKernel :=
  endWith fun capId info => .invalidated capId taskId info.capType

def ownedBy (taskId : TaskId) (capId : Nat) : Bool :=
  k.capabilityTable[capId]?.any fun info => info.owner = taskId

def invalidateTaskCapabilities (orders : HashOrders) (taskId : TaskId) : SimulatedKernel :=
  (((orders.capabilities k.timerTicks).order k.capabilityTable.keys).filter (k.ownedBy taskId)).foldl
    (invalidateCapability taskId) k

def leaseOver (capId : Nat) : Bool :=
  k.capabilityTable[capId]?.any fun info =>
    decide (info.status = .valid) && info.leasePassed k.currentTime

def expireCapability (now : Nat) : SimulatedKernel → Nat → SimulatedKernel :=
  endWith fun capId info => .leaseExpired capId info.owner info.capType now

def expireCapabilityLeases (orders : HashOrders) : SimulatedKernel :=
  (((orders.capabilities k.timerTicks).order k.capabilityTable.keys).filter k.leaseOver).foldl
    (expireCapability k.currentTime) k

/-! ## Delegation -/

def evaluatePolicy (event : PolicyEvent) (context : PolicyContext) : PolicyDecision :=
  match k.policyEngine with
  | some engine => engine event context
  | none => .allow none

def identitiesOf (fromTask toTask : TaskId) : Option (IdentityMetadata × IdentityMetadata) := do
  let fromExecId ← k.taskToIdentity[fromTask]?
  let toExecId ← k.taskToIdentity[toTask]?
  some (← k.identityTable[fromExecId]?, ← k.identityTable[toExecId]?)

def checkDelegation (capId : Nat) (fromTask toTask : TaskId) : Proc SimulatedKernel KernelError Unit := do
  let k ← get
  match k.identitiesOf fromTask toTask with
  | none => return
  | some (fromId, toId) =>
    match k.evaluatePolicy .onCapabilityDelegate (.forCapabilityDelegation fromId toId capId) with
    | .deny reason => throw (.err (.insufficientAuthority ("Policy denied capability delegation: " ++ reason)))
    | .require action =>
      throw (.err (.insufficientAuthority ("Policy requires action before delegation: " ++ action)))
    | .allow _ =>
      if fromId.sameDomain toId then return
      else set (k.recordCapability
        (.crossDomainDelegation capId fromTask fromId.trustDomain.name toTask toId.trustDomain.name))

def delegateCapability (capId : Nat) (fromTask toTask : TaskId) : Proc SimulatedKernel KernelError Unit := do
  let k ← get
  k.requireCapability capId fromTask "Cannot delegate: "
  Proc.failIf (toTask ∉ k.tasks) (.err (.sendFailed "Target task not found"))
  checkDelegation capId fromTask toTask
  let k ← get
  match k.capabilityTable[capId]? with
  | some info =>
    set ({ k with
      capabilityTable := k.capabilityTable.insert capId { info with owner := toTask } }.recordCapability
        (.delegated capId fromTask toTask info.capType))
  | none => return

end SimulatedKernel

end PandaGen.Kernel
