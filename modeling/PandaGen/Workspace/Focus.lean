import PandaGen.Core.Uuid
import PandaGen.Input.Events
import PandaGen.Lib.Machine

/-!
# The focus manager

`services_focus_manager/src/lib.rs`, and the capability of `services_input/src/lib.rs`. The top of the focus stack has
the focus.
-/

namespace PandaGen.Workspace

open Lib Input

structure InputSubscriptionCap where
  id : Nat
  taskId : TaskId
  channel : ChannelId

inductive FocusError where
  | focusDenied (reason : String)
  | noFocus
  | subscriptionNotFound
  | emptyStack

inductive FocusEvent where
  | granted (subscriptionId timestampNs : Nat)
  | transferred (fromSubscriptionId toSubscriptionId timestampNs : Nat)
  | released (subscriptionId timestampNs : Nat)
  | denied (subscriptionId : Nat) (reason : String) (timestampNs : Nat)

structure FocusManager where
  focusStack : List InputSubscriptionCap
  auditTrail : List FocusEvent
  nextTimestamp : Nat

namespace FocusManager

def new : FocusManager := ⟨[], [], 0⟩

variable (self : FocusManager)

def requestFocus (cap : InputSubscriptionCap) : Except FocusError Unit × FocusManager :=
  let timestamp := self.nextTimestamp
  let self := { self with nextTimestamp := timestamp + 1 }
  match self.focusStack with
  | current :: _ =>
    if current.id = cap.id then (.ok (), self)
    else
      (.ok (), { self with
        auditTrail := self.auditTrail ++ [.transferred current.id cap.id timestamp]
        focusStack := cap :: self.focusStack })
  | [] =>
    (.ok (), { self with
      auditTrail := self.auditTrail ++ [.granted cap.id timestamp]
      focusStack := cap :: self.focusStack })

def released (self : FocusManager) (subscriptionId : Nat) (focusStack : List InputSubscriptionCap) : FocusManager where
  focusStack
  auditTrail := self.auditTrail ++ [.released subscriptionId self.nextTimestamp]
  nextTimestamp := self.nextTimestamp + 1

def releaseFocus : Except FocusError InputSubscriptionCap × FocusManager :=
  match self.focusStack with
  | [] => (.error .emptyStack, self)
  | cap :: rest => (.ok cap, self.released cap.id rest)

/-- It removes the entry nearest to the top. -/
def removeSubscription (cap : InputSubscriptionCap) : Except FocusError Unit × FocusManager :=
  match self.focusStack.findIdx? fun c => c.id = cap.id with
  | none => (.error .subscriptionNotFound, self)
  | some pos => (.ok (), self.released cap.id (self.focusStack.eraseIdx pos))

def currentFocus : Option InputSubscriptionCap := self.focusStack.head?

def routeEvent (_event : InputEvent) : Except FocusError (Option InputSubscriptionCap) :=
  .ok self.currentFocus

/-! ## Calls -/

inductive Call where
  | requestFocus (cap : InputSubscriptionCap)
  | releaseFocus
  | removeSubscription (cap : InputSubscriptionCap)

def perform : Call → Except FocusError (Option InputSubscriptionCap) × FocusManager
  | .requestFocus cap => ((self.requestFocus cap).1.map fun _ => none, (self.requestFocus cap).2)
  | .releaseFocus => (self.releaseFocus.1.map some, self.releaseFocus.2)
  | .removeSubscription cap => ((self.removeSubscription cap).1.map fun _ => none, (self.removeSubscription cap).2)

def machine : Machine FocusManager Call (Except FocusError (Option InputSubscriptionCap)) :=
  ⟨fun self call => some (self.perform call)⟩

end FocusManager

end PandaGen.Workspace
