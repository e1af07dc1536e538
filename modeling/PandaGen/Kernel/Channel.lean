import PandaGen.Kernel.Types

/-!
# Messages and channels

`ipc/src/message.rs`, `sim_kernel/src/message_queue.rs`, `sim_kernel/src/fault_injection.rs` and the access
lists of `sim_kernel/src/lib.rs`.
-/

namespace PandaGen.Kernel

/-! ## Messages -/

structure SchemaVersion where
  major : Nat
  minor : Nat
  deriving DecidableEq

def SchemaVersion.text (v : SchemaVersion) : String := "v" ++ toString v.major ++ "." ++ toString v.minor

inductive Compatibility where
  | compatible
  | upgradeRequired
  | unsupported

structure VersionPolicy where
  current : SchemaVersion
  minMajor : Nat

namespace VersionPolicy

def checkCompatibility (p : VersionPolicy) (incoming : SchemaVersion) : Compatibility :=
  if incoming.major > p.current.major then .unsupported
  else if incoming.major < p.minMajor then .upgradeRequired
  else .compatible

def minVersion (p : VersionPolicy) : SchemaVersion := ⟨p.minMajor, 0⟩

end VersionPolicy

inductive SchemaMismatchError where
  | upgradeRequired (service : ServiceId) (expectedMin received : SchemaVersion)
  | unsupported (service : ServiceId) (supportedRange : SchemaVersion × SchemaVersion) (received : SchemaVersion)

def SchemaMismatchError.text : SchemaMismatchError → String
  | .upgradeRequired service expectedMin received =>
    "Schema version too old for service " ++ showService service ++ ": received " ++ received.text ++
      ", expected at least " ++ expectedMin.text ++ ". Please upgrade sender."
  | .unsupported service supportedRange received =>
    "Schema version not supported by service " ++ showService service ++ ": received " ++ received.text ++
      ", supported range " ++ supportedRange.1.text ++ "-" ++ supportedRange.2.text

structure MessageEnvelope where
  id : MessageId
  destination : ServiceId
  source : Option TaskId
  action : String
  schemaVersion : SchemaVersion
  correlationId : Option MessageId
  payload : List UInt8
  deriving DecidableEq

/-! ## Queues -/

structure MessageQueue where
  capacity : Nat
  messages : List MessageEnvelope

namespace MessageQueue

def withCapacity (capacity : Nat) : MessageQueue := ⟨capacity, []⟩

def remainingCapacity (q : MessageQueue) : Nat := q.capacity - q.messages.length

def push (q : MessageQueue) (message : MessageEnvelope) : Option MessageQueue :=
  if q.messages.length ≥ q.capacity then none else some { q with messages := q.messages ++ [message] }

def pop (q : MessageQueue) : Option (MessageEnvelope × MessageQueue) :=
  match q.messages with
  | [] => none
  | message :: messages => some (message, { q with messages })

end MessageQueue

structure DelayedMessage where
  channel : ChannelId
  message : MessageEnvelope
  deliverAt : Nat

/-! ## Access lists -/

structure ChannelAccess where
  senders : Finset TaskId
  receivers : Finset TaskId

namespace ChannelAccess

def empty : ChannelAccess := ⟨∅, ∅⟩

def allowsSend (a : ChannelAccess) (taskId : TaskId) : Bool := taskId ∈ a.senders

def allowsReceive (a : ChannelAccess) (taskId : TaskId) : Bool := taskId ∈ a.receivers

def isEmpty (a : ChannelAccess) : Bool := a.senders = ∅ ∧ a.receivers = ∅

def remove (a : ChannelAccess) (taskId : TaskId) : ChannelAccess :=
  ⟨a.senders.erase taskId, a.receivers.erase taskId⟩

end ChannelAccess

inductive ChannelAccessMode where
  | send
  | receive
  | both

def ChannelAccess.add (a : ChannelAccess) (taskId : TaskId) : ChannelAccessMode → ChannelAccess
  | .send => { a with senders := insert taskId a.senders }
  | .receive => { a with receivers := insert taskId a.receivers }
  | .both => ⟨insert taskId a.senders, insert taskId a.receivers⟩

/-! ## Faults -/

inductive MessageFault where
  | dropNext (count : Nat)
  | dropNextOnChannel (channel : ChannelId) (count : Nat)
  | dropMatching (action : String)
  | delay (duration : Nat)
  | reorderWindow (index offset : Nat)

inductive LifecycleFault where
  | crashOnSend
  | crashOnRecv
  | crashAfterMessages (count : Nat)

structure FaultPlan where
  messageFaults : List MessageFault
  lifecycleFaults : List LifecycleFault

structure FaultInjector where
  plan : FaultPlan
  messagesProcessed : Nat
  dropNextCount : Nat
  dropNextOnChannel : BTreeMap ChannelId Nat
  delayNextCount : Nat
  delayDuration : Option Nat
  crashAfterMessages : Option Nat
  crashOnSend : Bool
  crashOnRecv : Bool

namespace FaultInjector

variable (f : FaultInjector)

def addMessageFault : MessageFault → FaultInjector
  | .dropNext count => { f with dropNextCount := count }
  | .dropNextOnChannel channel count => { f with dropNextOnChannel := f.dropNextOnChannel.insert channel count }
  | .delay duration => { f with delayNextCount := 1, delayDuration := some duration }
  | .dropMatching _ => f
  | .reorderWindow _ _ => f

def addLifecycleFault : LifecycleFault → FaultInjector
  | .crashOnSend => { f with crashOnSend := true }
  | .crashOnRecv => { f with crashOnRecv := true }
  | .crashAfterMessages count => { f with crashAfterMessages := some count }

def new (plan : FaultPlan) : FaultInjector :=
  plan.lifecycleFaults.foldl addLifecycleFault (plan.messageFaults.foldl addMessageFault
    { plan, messagesProcessed := 0, dropNextCount := 0, dropNextOnChannel := ∅, delayNextCount := 0
      delayDuration := none, crashAfterMessages := none, crashOnSend := false, crashOnRecv := false })

def dropsAction (message : MessageEnvelope) : Bool :=
  f.plan.messageFaults.any fun
    | .dropMatching action => message.action = action
    | _ => false

def shouldDropMessage (channel : ChannelId) (message : MessageEnvelope) : Bool × FaultInjector :=
  if f.dropNextCount > 0 then (true, { f with dropNextCount := f.dropNextCount - 1 })
  else
    match f.dropNextOnChannel[channel]? with
    | some (count + 1) => (true, { f with dropNextOnChannel := f.dropNextOnChannel.insert channel count })
    | _ => (f.dropsAction message, f)

def getMessageDelay : Option Nat × FaultInjector :=
  if f.delayNextCount > 0 then (f.delayDuration, { f with delayNextCount := f.delayNextCount - 1 })
  else (none, f)

def swap (messages : List MessageEnvelope) (i j : Nat) : List MessageEnvelope :=
  match messages[i]?, messages[j]? with
  | some a, some b => (messages.set i b).set j a
  | _, _ => messages

def reorder (messages : List MessageEnvelope) : MessageFault → Option (List MessageEnvelope)
  | .reorderWindow index offset =>
    if index < messages.length then do
      let target ← checkedAdd index offset
      some (if target < messages.length then swap messages index target else messages)
    else some messages
  | _ => some messages

def applyReordering (messages : List MessageEnvelope) : Option (List MessageEnvelope) :=
  f.plan.messageFaults.foldlM reorder messages

def recordMessageProcessed : Option FaultInjector := do
  let messagesProcessed ← checkedAdd f.messagesProcessed 1
  let crash := f.crashAfterMessages.any fun count => messagesProcessed ≥ count
  some { f with messagesProcessed, crashOnRecv := crash || f.crashOnRecv }

end FaultInjector

end PandaGen.Kernel
