import PandaGen.Kernel.Messaging
import PandaGen.Kernel.Tasks

/-!
# The kernel interface

The trait `KernelApi` of `kernel_api/src/kernel.rs`, and how the simulated kernel implements it. An implementation
may keep its state in a cell, so methods on a shared reference are no exception: any method may change the state.
-/

namespace PandaGen.Kernel

open Lib

structure KernelApi (K : Type) where
  spawnTask : TaskDescriptor → Proc K KernelError TaskId
  createChannel : Proc K KernelError ChannelId
  sendMessage : ChannelId → MessageEnvelope → Proc K KernelError Unit
  receiveMessage : ChannelId → Option Nat → Proc K KernelError MessageEnvelope
  /-- It returns no error, but it may panic. -/
  now : Proc K Empty Nat
  sleep : Nat → Proc K KernelError Unit
  grantCapability : TaskId → Nat → Proc K KernelError Unit
  registerService : ServiceId → ChannelId → Proc K KernelError Unit
  lookupService : ServiceId → Proc K KernelError ChannelId

/-! ## Calls through the interface -/

inductive ApiCall where
  | spawnTask (descriptor : TaskDescriptor)
  | createChannel
  | sendMessage (channel : ChannelId) (message : MessageEnvelope)
  | receiveMessage (channel : ChannelId) (timeout : Option Nat)
  | now
  | sleep (duration : Nat)
  | grantCapability (task : TaskId) (capability : Nat)
  | registerService (serviceId : ServiceId) (channel : ChannelId)
  | lookupService (serviceId : ServiceId)

inductive ApiResult where
  | task (r : Except KernelError TaskId)
  | channel (r : Except KernelError ChannelId)
  | done (r : Except KernelError Unit)
  | message (r : Except KernelError MessageEnvelope)
  | instant (r : Except Empty Nat)
  deriving DecidableEq

namespace KernelApi

variable {K D : Type}

def answer {ε α : Type} (k : K) (m : Proc K ε α) (f : Except ε α → ApiResult) : Option (ApiResult × K) :=
  (m.call k).map fun (r, k) => (f r, k)

/-- The result of a call and the state it leaves. It is `none` where the call panics. -/
def perform (api : KernelApi K) (k : K) : ApiCall → Option (ApiResult × K)
  | .spawnTask descriptor => answer k (api.spawnTask descriptor) .task
  | .createChannel => answer k api.createChannel .channel
  | .sendMessage channel message => answer k (api.sendMessage channel message) .done
  | .receiveMessage channel timeout => answer k (api.receiveMessage channel timeout) .message
  | .now => answer k api.now .instant
  | .sleep duration => answer k (api.sleep duration) .done
  | .grantCapability task capability => answer k (api.grantCapability task capability) .done
  | .registerService serviceId channel => answer k (api.registerService serviceId channel) .done
  | .lookupService serviceId => answer k (api.lookupService serviceId) .channel

/-- An implementation may draw identifiers anew in each call. -/
def machine (api : D → KernelApi K) : Machine K (D × ApiCall) ApiResult where
  step k call := (api call.1).perform k call.2

end KernelApi

/-! ## The simulated kernel -/

namespace SimulatedKernel

/-- What a method of the kernel may draw: fresh identifiers and the orders of its hash maps. -/
structure Draws where
  ids : SpawnIds
  channelId : ChannelId
  orders : HashOrders

/-- The timeout of a receive is not used: an empty channel is a timeout at once. -/
def api (draws : Draws) : KernelApi SimulatedKernel where
  spawnTask descriptor := spawnTask draws.ids descriptor
  createChannel := createChannel draws.channelId
  sendMessage channel message := sendMessage draws.orders channel message
  receiveMessage channel _ := receiveMessage draws.orders channel
  now := return (← get).currentTime
  sleep duration := do set (← Proc.okOrPanic ((← get).sleep draws.orders duration))
  grantCapability task capability := grantCapability task capability
  registerService serviceId channel := registerService serviceId channel
  lookupService serviceId := do Proc.ofExcept ((← get).lookupService serviceId)

end SimulatedKernel

end PandaGen.Kernel
