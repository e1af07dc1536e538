import PandaGen.Kernel.Syscalls
import PandaGen.Storage.Json

/-!
# The JSON texts of syscalls

What `serde_json` writes for requests and responses. An enumeration is an object with the name of its variant, or
only the name.
-/

namespace PandaGen.Kernel.SyscallJson

open Lib Storage Storage.Json Codec

/-! ## Records -/

def closingBraces : Mark := mark (ascii "\x7d\x7d")

def record (l : String) (hl : (0 : UInt8) ∉ ascii l := by decide) : Codec Nat :=
  nat.between (ascii l) closingBrace hl

def closed {α : Type} (c : Codec α) (r : Mark) : Codec α := c.between [] r

def beforeCapabilities : Mark := comma ",\"capabilities\":"

def beforeSchemaVersion : Mark := comma ",\"schema_version\":"

def cap : Codec Nat := record "\x7b\"id\":"

def nanos : Codec Nat := record "\x7b\"nanos\":"

def byte : Codec UInt8 :=
  nat.image (fun n => if n < 256 then some (UInt8.ofNat n) else none) UInt8.toNat (fun n => by
    rw [if_pos n.toNat_lt, UInt8.ofNat_toNat])

def bytes : Codec (List UInt8) :=
  array byte fun a => head?_nat rfl a.toNat

def optionalId {k : IdKind} : Codec (Option (Id k)) :=
  nullable Json.id (fun _ _ => by simp [Json.id, image, between, ascii, eat])

def optionalString : Codec (Option String) :=
  nullable string (fun _ _ => by simp [string, ascii, eat])

def optionalNat : Codec (Option Nat) :=
  nullable nat (fun n rest => eat_of_head (head?_nat rfl n rest) _)

def optionalNanos : Codec (Option Nat) :=
  nullable nanos (fun _ _ => by simp [nanos, record, between, ascii, eat])

def taskDescriptor : Codec TaskDescriptor :=
  ((string.pair beforeCapabilities
    (array cap fun _ _ => by simp [cap, record, between, ascii])).between
    (ascii "\x7b\"name\":") closingBrace zero_notMem_name).image
    (fun (n, cs) => some ⟨n, cs⟩) (fun d => (d.name, d.capabilities))

def schemaVersion : Codec SchemaVersion :=
  ((nat.pair (comma ",\"minor\":") nat).between
    (ascii "\x7b\"major\":") closingBrace).image
    (fun (a, b) => some ⟨a, b⟩) (fun v => (v.major, v.minor))

def messageEnvelope : Codec MessageEnvelope :=
  ((Json.id.pair (comma ",\"destination\":")
    (Json.id.pair (comma ",\"source\":")
    (optionalId.pair (comma ",\"action\":")
    (string.pair beforeSchemaVersion
    (schemaVersion.pair (comma ",\"correlation_id\":")
    (optionalId.pair (comma ",\"payload\":\x7b\"data\":") bytes)))))).between
    (ascii "\x7b\"id\":") closingBraces).image
    (fun (i, d, s, a, v, c, p) => some ⟨i, d, s, a, v, c, p⟩)
    (fun m => (m.id, m.destination, m.source, m.action, m.schemaVersion, m.correlationId, m.payload))

/-! ## Errors -/

def kinds : List SyscallErrorKind :=
  [.spawnFailed, .channelError, .sendFailed, .receiveFailed, .timeout, .serviceNotFound, .serviceAlreadyRegistered,
    .insufficientAuthority, .invalidCapability, .resourceExhausted, .resourceBudgetExceeded, .resourceBudgetExhausted,
    .unknown]

def kindText : SyscallErrorKind → String
  | .spawnFailed => "\"SpawnFailed\""
  | .channelError => "\"ChannelError\""
  | .sendFailed => "\"SendFailed\""
  | .receiveFailed => "\"ReceiveFailed\""
  | .timeout => "\"Timeout\""
  | .serviceNotFound => "\"ServiceNotFound\""
  | .serviceAlreadyRegistered => "\"ServiceAlreadyRegistered\""
  | .insufficientAuthority => "\"InsufficientAuthority\""
  | .invalidCapability => "\"InvalidCapability\""
  | .resourceExhausted => "\"ResourceExhausted\""
  | .resourceBudgetExceeded => "\"ResourceBudgetExceeded\""
  | .resourceBudgetExhausted => "\"ResourceBudgetExhausted\""
  | .unknown => "\"Unknown\""

theorem mem_kinds (kind) : kind ∈ kinds := by
  cases kind <;> decide

def kind : Codec SyscallErrorKind :=
  (variants kinds (fun k => ascii (kindText k)) (fun _ => text []) mem_kinds).image (fun x => some x.1)
    (fun k => ⟨k, ()⟩)

def syscallError : Codec SyscallError :=
  ((kind.pair (comma ",\"message\":")
    (string.pair (comma ",\"resource_type\":")
    (optionalString.pair (comma ",\"limit\":")
    (optionalNat.pair (comma ",\"usage\":")
    (optionalNat.pair (comma ",\"identity\":")
    (optionalString.pair (comma ",\"operation\":") optionalString)))))).between
    (ascii "\x7b\"kind\":") closingBrace).image
    (fun (k, m, r, l, u, i, o) => some ⟨k, m, r, l, u, i, o⟩)
    (fun e => (e.kind, e.message, e.resourceType, e.limit, e.usage, e.identity, e.operation))

/-! ## Payloads -/

inductive Method where
  | spawnTask
  | createChannel
  | sendMessage
  | receiveMessage
  | now
  | sleep
  | grantCapability
  | registerService
  | lookupService
  deriving DecidableEq

def methods : List Method :=
  [.spawnTask, .createChannel, .sendMessage, .receiveMessage, .now, .sleep, .grantCapability, .registerService,
    .lookupService]

theorem mem_methods (m) : m ∈ methods := by
  cases m <;> decide

def Arguments : Method → Type
  | .spawnTask => TaskDescriptor
  | .createChannel => Unit
  | .sendMessage => ChannelId × MessageEnvelope
  | .receiveMessage => ChannelId × Option Nat
  | .now => Unit
  | .sleep => Nat
  | .grantCapability => TaskId × Nat
  | .registerService => ServiceId × ChannelId
  | .lookupService => ServiceId

def requestTag : Method → String
  | .spawnTask => "\x7b\"SpawnTask\":\x7b\"descriptor\":"
  | .createChannel => "\"CreateChannel\""
  | .sendMessage => "\x7b\"SendMessage\":\x7b\"channel\":"
  | .receiveMessage => "\x7b\"ReceiveMessage\":\x7b\"channel\":"
  | .now => "\"Now\""
  | .sleep => "\x7b\"Sleep\":\x7b\"duration\":"
  | .grantCapability => "\x7b\"GrantCapability\":\x7b\"task\":"
  | .registerService => "\x7b\"RegisterService\":\x7b\"service_id\":"
  | .lookupService => "\x7b\"LookupService\":\x7b\"service_id\":"

def arguments : (m : Method) → Codec (Arguments m)
  | .spawnTask => closed taskDescriptor closingBraces
  | .createChannel => text []
  | .sendMessage =>
    closed (Json.id.pair (comma ",\"message\":") messageEnvelope) closingBraces
  | .receiveMessage =>
    closed (Json.id.pair (comma ",\"timeout\":") optionalNanos) closingBraces
  | .now => text []
  | .sleep => closed nanos closingBraces
  | .grantCapability =>
    closed (Json.id.pair (comma ",\"capability\":") cap) closingBraces
  | .registerService =>
    closed (Json.id.pair (comma ",\"channel\":") Json.id) closingBraces
  | .lookupService => closed Json.id closingBraces

def requestOf : (Σ m, Arguments m) → SyscallRequestPayload
  | ⟨.spawnTask, d⟩ => .spawnTask d
  | ⟨.createChannel, _⟩ => .createChannel
  | ⟨.sendMessage, c, m⟩ => .sendMessage c m
  | ⟨.receiveMessage, c, t⟩ => .receiveMessage c t
  | ⟨.now, _⟩ => .now
  | ⟨.sleep, d⟩ => .sleep d
  | ⟨.grantCapability, t, c⟩ => .grantCapability t c
  | ⟨.registerService, s, c⟩ => .registerService s c
  | ⟨.lookupService, s⟩ => .lookupService s

def argumentsOf : SyscallRequestPayload → Σ m, Arguments m
  | .spawnTask d => ⟨.spawnTask, d⟩
  | .createChannel => ⟨.createChannel, ()⟩
  | .sendMessage c m => ⟨.sendMessage, c, m⟩
  | .receiveMessage c t => ⟨.receiveMessage, c, t⟩
  | .now => ⟨.now, ()⟩
  | .sleep d => ⟨.sleep, d⟩
  | .grantCapability t c => ⟨.grantCapability, t, c⟩
  | .registerService s c => ⟨.registerService, s, c⟩
  | .lookupService s => ⟨.lookupService, s⟩

def requestPayload : Codec SyscallRequestPayload :=
  (variants methods (fun m => ascii (requestTag m)) arguments mem_methods).image
    (fun x => some (requestOf x)) argumentsOf
    (fun p => by cases p <;> rfl)

def Returned : Method → Type
  | .spawnTask => TaskId
  | .createChannel => ChannelId
  | .sendMessage => Unit
  | .receiveMessage => MessageEnvelope
  | .now => Nat
  | .sleep => Unit
  | .grantCapability => Unit
  | .registerService => Unit
  | .lookupService => ChannelId

def responseTag : Method → String
  | .spawnTask => "\x7b\"SpawnTask\":"
  | .createChannel => "\x7b\"CreateChannel\":"
  | .sendMessage => "\x7b\"SendMessage\":"
  | .receiveMessage => "\x7b\"ReceiveMessage\":"
  | .now => "\x7b\"Now\":"
  | .sleep => "\x7b\"Sleep\":"
  | .grantCapability => "\x7b\"GrantCapability\":"
  | .registerService => "\x7b\"RegisterService\":"
  | .lookupService => "\x7b\"LookupService\":"

def null : Codec Unit := text (ascii "null")

def returned : (m : Method) → Codec (Returned m)
  | .spawnTask => Json.id.between (ascii "\x7b\"task_id\":") closingBrace
  | .createChannel => Json.id
  | .sendMessage => null
  | .receiveMessage => messageEnvelope
  | .now => nanos
  | .sleep => null
  | .grantCapability => null
  | .registerService => null
  | .lookupService => Json.id

def Outcome (α : Type) : Bool → Type
  | true => α
  | false => SyscallError

def resultTag : Bool → String
  | true => "\x7b\"Ok\":"
  | false => "\x7b\"Err\":"

def outcome {α : Type} (c : Codec α) : (ok : Bool) → Codec (Outcome α ok)
  | true => closed c closingBrace
  | false => closed syscallError closingBrace

def result {α : Type} (c : Codec α) : Codec (Except SyscallError α) :=
  (variants [true, false] (fun ok => ascii (resultTag ok)) (outcome c) (by decide)).image
    (fun
      | ⟨true, a⟩ => some (.ok a)
      | ⟨false, e⟩ => some (.error e))
    (fun
      | .ok a => ⟨true, a⟩
      | .error e => ⟨false, e⟩)
    (fun r => by cases r <;> rfl)

def responseOf : (Σ m, Except SyscallError (Returned m)) → SyscallResponsePayload
  | ⟨.spawnTask, r⟩ => .spawnTask r
  | ⟨.createChannel, r⟩ => .createChannel r
  | ⟨.sendMessage, r⟩ => .sendMessage r
  | ⟨.receiveMessage, r⟩ => .receiveMessage r
  | ⟨.now, r⟩ => .now r
  | ⟨.sleep, r⟩ => .sleep r
  | ⟨.grantCapability, r⟩ => .grantCapability r
  | ⟨.registerService, r⟩ => .registerService r
  | ⟨.lookupService, r⟩ => .lookupService r

def resultOf : SyscallResponsePayload → Σ m, Except SyscallError (Returned m)
  | .spawnTask r => ⟨.spawnTask, r⟩
  | .createChannel r => ⟨.createChannel, r⟩
  | .sendMessage r => ⟨.sendMessage, r⟩
  | .receiveMessage r => ⟨.receiveMessage, r⟩
  | .now r => ⟨.now, r⟩
  | .sleep r => ⟨.sleep, r⟩
  | .grantCapability r => ⟨.grantCapability, r⟩
  | .registerService r => ⟨.registerService, r⟩
  | .lookupService r => ⟨.lookupService, r⟩

def responsePayload : Codec SyscallResponsePayload :=
  (variants methods (fun m => ascii (responseTag m)) (fun m => closed (result (returned m)) closingBrace)
    mem_methods).image (fun x => some (responseOf x)) resultOf (fun p => by cases p <;> rfl)

/-! ## Documents -/

def request : Codec SyscallRequest :=
  ((Json.id.pair (comma ",\"payload\":") requestPayload).between
    (ascii "\x7b\"request_id\":") closingBrace).image
    (fun (i, p) => some ⟨i, p⟩) (fun r => (r.requestId, r.payload))

def response : Codec SyscallResponse :=
  ((Json.id.pair (comma ",\"payload\":") responsePayload).between
    (ascii "\x7b\"request_id\":") closingBrace).image
    (fun (i, p) => some ⟨i, p⟩) (fun r => (r.requestId, r.payload))

@[reducible] def serdeDisplay {α : Type} (c : Codec α) : SerdeDisplay α where
  toSerdeJson := serde c
  toVecText _ := "key must be a string"
  fromSliceText _ := "expected value at line 1 column 1"

instance : SerdeDisplay SyscallRequest := serdeDisplay request

instance : SerdeDisplay SyscallResponse := serdeDisplay response

instance : LawfulSerdeJson SyscallRequest := serde_lawful request rfl

instance : LawfulSerdeJson SyscallResponse := serde_lawful response rfl

end PandaGen.Kernel.SyscallJson
