import PandaGen.Kernel.Types
import PandaGen.Lib.Machine
import PandaGen.Lib.Proc

/-!
# The network service

Packets and their queues in `services_network/src/lib.rs`. The policy and the budget are any that implement their
traits.
-/

namespace PandaGen.Network

open Lib Kernel

structure Endpoint where
  address : String
  port : UInt16
  deriving DecidableEq

inductive PacketProtocol where
  | tcp
  | udp
  | custom
  deriving DecidableEq

structure Packet where
  source : Endpoint
  destination : Endpoint
  protocol : PacketProtocol
  payload : List UInt8
  deriving DecidableEq

inductive PacketDirection where
  | send
  | receive

structure PacketContext where
  executionId : ExecutionId
  interfaceId : NetworkInterfaceId
  direction : PacketDirection
  packet : Packet

inductive NetworkDecision where
  | allow
  | deny (reason : String)

abbrev NetworkPolicy := PacketContext → NetworkDecision

structure PacketBudget (B : Type) where
  consumePacket : ExecutionId → PacketOperation → Proc B KernelError Unit

inductive NetworkError where
  | policyDenied (reason : String)
  | budgetError (text : String)
  deriving DecidableEq

structure NetworkService where
  policy : NetworkPolicy
  queues : BTreeMap NetworkInterfaceId (List Packet)

namespace NetworkService

variable {B : Type}

def new (policy : NetworkPolicy) : NetworkService := ⟨policy, ∅⟩

abbrev Method (B α : Type) := Proc (NetworkService × B) NetworkError α

def consult (context : PacketContext) : Method B Unit := do
  match (← get).1.policy context with
  | .allow => pure ()
  | .deny reason => throw (.err (.policyDenied reason))

def consume (budget : PacketBudget B) (executionId : ExecutionId) (operation : PacketOperation) : Method B Unit :=
  ((budget.consumePacket executionId operation).zoom Prod.snd fun b s => (s.1, b)).mapErr fun e => .budgetError e.text

def setQueue (self : NetworkService) (interfaceId : NetworkInterfaceId) (queue : List Packet) : NetworkService :=
  { self with queues := self.queues.insert interfaceId queue }

def queue (self : NetworkService) (interfaceId : NetworkInterfaceId) : List Packet :=
  self.queues[interfaceId]?.getD []

def sendPacket (budget : PacketBudget B) (executionId : ExecutionId) (interfaceId : NetworkInterfaceId)
    (packet : Packet) : Method B Unit := do
  consult ⟨executionId, interfaceId, .send, packet⟩
  consume budget executionId .send
  modify fun (self, b) => (self.setQueue interfaceId (self.queue interfaceId ++ [packet]), b)

def receivePacket (budget : PacketBudget B) (executionId : ExecutionId) (interfaceId : NetworkInterfaceId) :
    Method B (Option Packet) := do
  match (← get).1.queue interfaceId with
  | [] => return none
  | packet :: rest =>
    modify fun (self, b) => (self.setQueue interfaceId rest, b)
    consult ⟨executionId, interfaceId, .receive, packet⟩
    consume budget executionId .receive
    return some packet

/-! ## Runs -/

inductive Call where
  | send (executionId : ExecutionId) (interfaceId : NetworkInterfaceId) (packet : Packet)
  | receive (executionId : ExecutionId) (interfaceId : NetworkInterfaceId)
  deriving DecidableEq

def perform (budget : PacketBudget B) : Call → Method B (Option Packet)
  | .send executionId interfaceId packet => do
    sendPacket budget executionId interfaceId packet
    return none
  | .receive executionId interfaceId => receivePacket budget executionId interfaceId

def machine (budget : PacketBudget B) : Machine (NetworkService × B) Call (Except NetworkError (Option Packet)) :=
  ⟨fun s call => (perform budget call).call s⟩

end NetworkService

end PandaGen.Network
