import PandaGen.Kernel.Api
import PandaGen.Storage.Serde

/-!
# Syscalls as messages

`kernel_api/src/syscalls.rs`: a server that answers requests by calls of a kernel, a client that has the kernel
interface again, and the transport that joins the two in one process. The codec is parametric in `serde_json`.
-/

namespace PandaGen.Kernel

open Lib Storage

/-! ## Messages -/

def syscallRequestAction : String := "kernel.syscall.request"

def syscallResponseAction : String := "kernel.syscall.response"

def syscallSchemaVersion : SchemaVersion := ⟨1, 0⟩

inductive SyscallRequestPayload where
  | spawnTask (descriptor : TaskDescriptor)
  | createChannel
  | sendMessage (channel : ChannelId) (message : MessageEnvelope)
  | receiveMessage (channel : ChannelId) (timeout : Option Nat)
  | now
  | sleep (duration : Nat)
  | grantCapability (task : TaskId) (capability : Nat)
  | registerService (serviceId : ServiceId) (channel : ChannelId)
  | lookupService (serviceId : ServiceId)

structure SyscallRequest where
  requestId : MessageId
  payload : SyscallRequestPayload

inductive SyscallErrorKind where
  | spawnFailed
  | channelError
  | sendFailed
  | receiveFailed
  | timeout
  | serviceNotFound
  | serviceAlreadyRegistered
  | insufficientAuthority
  | invalidCapability
  | resourceExhausted
  | resourceBudgetExceeded
  | resourceBudgetExhausted
  | unknown
  deriving DecidableEq

structure SyscallError where
  kind : SyscallErrorKind
  message : String
  resourceType : Option String
  limit : Option Nat
  usage : Option Nat
  identity : Option String
  operation : Option String

inductive SyscallResponsePayload where
  | spawnTask (result : Except SyscallError TaskId)
  | createChannel (result : Except SyscallError ChannelId)
  | sendMessage (result : Except SyscallError Unit)
  | receiveMessage (result : Except SyscallError MessageEnvelope)
  | now (result : Except SyscallError Nat)
  | sleep (result : Except SyscallError Unit)
  | grantCapability (result : Except SyscallError Unit)
  | registerService (result : Except SyscallError Unit)
  | lookupService (result : Except SyscallError ChannelId)

structure SyscallResponse where
  requestId : MessageId
  payload : SyscallResponsePayload

/-! ## Errors -/

namespace SyscallError

def new (kind : SyscallErrorKind) (message : String) : SyscallError := ⟨kind, message, none, none, none, none, none⟩

def ofKernelError : KernelError → SyscallError
  | .spawnFailed message => new .spawnFailed message
  | .channelError message => new .channelError message
  | .sendFailed message => new .sendFailed message
  | .receiveFailed message => new .receiveFailed message
  | .timeout => new .timeout "Operation timed out"
  | .serviceNotFound message => new .serviceNotFound message
  | .serviceAlreadyRegistered message => new .serviceAlreadyRegistered message
  | .insufficientAuthority message => new .insufficientAuthority message
  | .invalidCapability message => new .invalidCapability message
  | .resourceExhausted message => new .resourceExhausted message
  | .resourceBudgetExceeded resourceType limit usage identity operation =>
    ⟨.resourceBudgetExceeded, "Resource budget exceeded", resourceType, limit, usage, identity, operation⟩
  | .resourceBudgetExhausted resourceType limit usage identity operation =>
    ⟨.resourceBudgetExhausted, "Resource budget exhausted", resourceType, limit, usage, identity, operation⟩

def toKernelError (error : SyscallError) : KernelError :=
  match error.kind with
  | .spawnFailed => .spawnFailed error.message
  | .channelError => .channelError error.message
  | .sendFailed => .sendFailed error.message
  | .receiveFailed => .receiveFailed error.message
  | .timeout => .timeout
  | .serviceNotFound => .serviceNotFound error.message
  | .serviceAlreadyRegistered => .serviceAlreadyRegistered error.message
  | .insufficientAuthority => .insufficientAuthority error.message
  | .invalidCapability => .invalidCapability error.message
  | .resourceExhausted => .resourceExhausted error.message
  | .resourceBudgetExceeded =>
    .resourceBudgetExceeded (error.resourceType.getD "Unknown") (error.limit.getD 0) (error.usage.getD 0)
      (error.identity.getD "unknown") (error.operation.getD "unknown")
  | .resourceBudgetExhausted =>
    .resourceBudgetExhausted (error.resourceType.getD "Unknown") (error.limit.getD 0) (error.usage.getD 0)
      (error.identity.getD "unknown") (error.operation.getD "unknown")
  | .unknown => .receiveFailed error.message

end SyscallError

/-! ## Codec -/

inductive SyscallCodecError where
  | unexpectedAction (action : String)
  | schemaMismatch (expected actual : SchemaVersion)
  | payload (message : String)

def SyscallCodecError.text : SyscallCodecError → String
  | .unexpectedAction action => "Unexpected syscall action: " ++ action
  | .schemaMismatch expected actual => "Schema mismatch: expected " ++ expected.text ++ ", got " ++ actual.text
  | .payload message => "Payload error: " ++ message

def SchemaVersion.isCompatibleWith (self other : SchemaVersion) : Bool := self.major == other.major

def MessageEnvelope.new (id : MessageId) (destination : ServiceId) (action : String) (schemaVersion : SchemaVersion)
    (payload : List UInt8) : MessageEnvelope := ⟨id, destination, none, action, schemaVersion, none, payload⟩

def MessageEnvelope.withCorrelation (message : MessageEnvelope) (correlationId : MessageId) : MessageEnvelope :=
  { message with correlationId := some correlationId }

structure SyscallCodec where
  serviceId : ServiceId

namespace SyscallCodec

section

variable {α : Type} [SerdeDisplay α]

def encode (codec : SyscallCodec) (action : String) (id : MessageId) (a : α) :
    Except SyscallCodecError MessageEnvelope :=
  match toVec a with
  | none => .error (.payload (toVecText a))
  | some payload => .ok (.new id codec.serviceId action syscallSchemaVersion payload)

def decode (action : String) (message : MessageEnvelope) : Except SyscallCodecError α :=
  if message.action ≠ action then .error (.unexpectedAction message.action)
  else if message.schemaVersion.isCompatibleWith syscallSchemaVersion then
    match fromSlice message.payload with
    | none => .error (.payload (SerdeDisplay.fromSliceText α message.payload))
    | some a => .ok a
  else .error (.schemaMismatch syscallSchemaVersion message.schemaVersion)

end

variable [SerdeDisplay SyscallRequest] [SerdeDisplay SyscallResponse]

def encodeRequest (codec : SyscallCodec) (id : MessageId) (request : SyscallRequest) :
    Except SyscallCodecError MessageEnvelope := codec.encode syscallRequestAction id request

def encodeResponse (codec : SyscallCodec) (id : MessageId) (response : SyscallResponse) (correlationId : MessageId) :
    Except SyscallCodecError MessageEnvelope :=
  (codec.encode syscallResponseAction id response).map fun message => message.withCorrelation correlationId

def decodeRequest (message : MessageEnvelope) : Except SyscallCodecError SyscallRequest :=
  decode syscallRequestAction message

def decodeResponse (message : MessageEnvelope) : Except SyscallCodecError SyscallResponse :=
  decode syscallResponseAction message

end SyscallCodec

/-! ## Server -/

namespace SyscallServer

variable {K : Type}

def respond {α : Type} (f : Except SyscallError α → SyscallResponsePayload) (m : Proc K KernelError α) :
    Proc K KernelError SyscallResponsePayload :=
  (fun result => f (result.mapError .ofKernelError)) <$> m.attempt

def dispatch (kernel : KernelApi K) : SyscallRequestPayload → Proc K KernelError SyscallResponsePayload
  | .spawnTask descriptor => respond .spawnTask (kernel.spawnTask descriptor)
  | .createChannel => respond .createChannel kernel.createChannel
  | .sendMessage channel message => respond .sendMessage (kernel.sendMessage channel message)
  | .receiveMessage channel timeout => respond .receiveMessage (kernel.receiveMessage channel timeout)
  | .now => (fun instant => .now (.ok instant)) <$> kernel.now.mapErr Empty.elim
  | .sleep duration => respond .sleep (kernel.sleep duration)
  | .grantCapability task capability => respond .grantCapability (kernel.grantCapability task capability)
  | .registerService serviceId channel => respond .registerService (kernel.registerService serviceId channel)
  | .lookupService serviceId => respond .lookupService (kernel.lookupService serviceId)

variable [SerdeDisplay SyscallRequest] [SerdeDisplay SyscallResponse]

def handleMessage (kernel : KernelApi K) (codec : SyscallCodec) (responseId : MessageId) (message : MessageEnvelope) :
    Proc K KernelError MessageEnvelope := do
  let request ← Proc.ofExcept ((SyscallCodec.decodeRequest message).mapError fun err =>
    .receiveFailed ("Syscall decode failed: " ++ err.text))
  let payload ← dispatch kernel request.payload
  Proc.ofExcept ((codec.encodeResponse responseId ⟨request.requestId, payload⟩ message.id).mapError fun err =>
    .sendFailed ("Syscall encode failed: " ++ err.text))

end SyscallServer

/-! ## Client -/

structure SyscallTransport (T : Type) where
  send : MessageEnvelope → Proc T KernelError Unit
  receive : Option Nat → Proc T KernelError MessageEnvelope

structure RequestIds where
  request : MessageId
  message : MessageId

namespace SyscallClient

variable {T α : Type} [SerdeDisplay SyscallRequest] [SerdeDisplay SyscallResponse]

def roundTrip (transport : SyscallTransport T) (codec : SyscallCodec) (ids : RequestIds)
    (payload : SyscallRequestPayload) : Proc T KernelError SyscallResponse := do
  let message ← Proc.ofExcept ((codec.encodeRequest ids.message ⟨ids.request, payload⟩).mapError fun err =>
    .sendFailed ("Syscall encode failed: " ++ err.text))
  transport.send message
  let responseMessage ← transport.receive none
  let response ← Proc.ofExcept ((SyscallCodec.decodeResponse responseMessage).mapError fun err =>
    .receiveFailed ("Syscall decode failed: " ++ err.text))
  Proc.failIf (response.requestId ≠ ids.request) (.err (.receiveFailed "Syscall response request_id mismatch"))
  return response

def extract (response : SyscallResponse) (f : SyscallResponsePayload → Option (Except SyscallError α)) :
    Except KernelError α :=
  match f response.payload with
  | none => .error (.receiveFailed "Syscall response payload mismatch")
  | some result => result.mapError SyscallError.toKernelError

def request (transport : SyscallTransport T) (codec : SyscallCodec) (ids : RequestIds)
    (payload : SyscallRequestPayload) (f : SyscallResponsePayload → Option (Except SyscallError α)) :
    Proc T KernelError α := do
  let response ← roundTrip transport codec ids payload
  Proc.ofExcept (extract response f)

def now (transport : SyscallTransport T) (codec : SyscallCodec) (ids : RequestIds) : Proc T Empty Nat := do
  match ← (roundTrip transport codec ids .now).attempt with
  | .error _ => throw .panic
  | .ok response =>
    match response.payload with
    | .now (.ok instant) => return instant
    | _ => throw .panic

def api (transport : SyscallTransport T) (codec : SyscallCodec) (ids : RequestIds) : KernelApi T where
  spawnTask descriptor := request transport codec ids (.spawnTask descriptor) fun
    | .spawnTask result => some result
    | _ => none
  createChannel := request transport codec ids .createChannel fun
    | .createChannel result => some result
    | _ => none
  sendMessage channel message := request transport codec ids (.sendMessage channel message) fun
    | .sendMessage result => some result
    | _ => none
  receiveMessage channel timeout := request transport codec ids (.receiveMessage channel timeout) fun
    | .receiveMessage result => some result
    | _ => none
  now := now transport codec ids
  sleep duration := request transport codec ids (.sleep duration) fun
    | .sleep result => some result
    | _ => none
  grantCapability task capability := request transport codec ids (.grantCapability task capability) fun
    | .grantCapability result => some result
    | _ => none
  registerService serviceId channel := request transport codec ids (.registerService serviceId channel) fun
    | .registerService result => some result
    | _ => none
  lookupService serviceId := request transport codec ids (.lookupService serviceId) fun
    | .lookupService result => some result
    | _ => none

end SyscallClient

/-! ## Loopback -/

structure LoopbackTransport (K : Type) where
  kernel : K
  pending : Option MessageEnvelope

namespace LoopbackTransport

variable {K : Type}

def new (kernel : K) : LoopbackTransport K := ⟨kernel, none⟩

variable [SerdeDisplay SyscallRequest] [SerdeDisplay SyscallResponse]

def transport (kernel : KernelApi K) (codec : SyscallCodec) (responseId : MessageId) :
    SyscallTransport (LoopbackTransport K) where
  send message := do
    let response ← (SyscallServer.handleMessage kernel codec responseId message).zoom LoopbackTransport.kernel
      fun kernel transport => { transport with kernel }
    modify fun transport => { transport with pending := some response }
  receive _ := do
    let pending := (← get).pending
    modify fun transport => { transport with pending := none }
    Proc.okOr (.receiveFailed "No syscall response pending") pending

end LoopbackTransport

end PandaGen.Kernel
