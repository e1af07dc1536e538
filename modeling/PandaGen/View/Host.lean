import PandaGen.Core.Uuid
import PandaGen.Lib.ByteText

/-!
# The view host

`view_types/src/lib.rs` and `services_view_host/src/lib.rs`: components publish frames of their views, and a frame has
to have a higher revision than the one before.
-/

namespace PandaGen.View

open Lib

/-! ## Frames -/

inductive ViewKind where
  | textBuffer
  | statusLine
  | panel

inductive ViewContent where
  | textBuffer (lines : List Text)
  | statusLine (text : Text)
  | panel (metadata : Text)

structure CursorPosition where
  line : Nat
  column : Nat

structure ViewFrame where
  viewId : ViewId
  kind : ViewKind
  revision : Nat
  content : ViewContent
  cursor : Option CursorPosition
  title : Option String
  componentId : Option String
  timestampNs : Nat

namespace ViewFrame

def new (viewId : ViewId) (kind : ViewKind) (revision : Nat) (content : ViewContent) (timestampNs : Nat) : ViewFrame :=
  ⟨viewId, kind, revision, content, none, none, none, timestampNs⟩

def withCursor (self : ViewFrame) (cursor : CursorPosition) : ViewFrame := { self with cursor := some cursor }

def withTitle (self : ViewFrame) (title : String) : ViewFrame := { self with title := some title }

def withComponentId (self : ViewFrame) (componentId : String) : ViewFrame :=
  { self with componentId := some componentId }

end ViewFrame

/-! ## Views -/

structure ViewHandleCap where
  viewId : ViewId
  taskId : TaskId
  channel : ChannelId
  token : Nat

structure ViewSubscriptionCap where
  viewId : ViewId
  taskId : TaskId
  channel : ChannelId
  token : Nat

inductive ViewHostError where
  | viewNotFound (viewId : ViewId)
  | unauthorized (viewId : ViewId)
  | revisionNotMonotonic (expected actual : Nat)
  | viewIdMismatch (expected actual : ViewId)

def viewIdText (viewId : ViewId) : String := "view:" ++ viewId.uuid.text

def ViewHostError.text : ViewHostError → String
  | .viewNotFound viewId => "View not found: " ++ viewIdText viewId
  | .unauthorized viewId => "Unauthorized access to view: " ++ viewIdText viewId
  | .revisionNotMonotonic expected actual =>
    "Revision not monotonic: expected > " ++ toString expected ++ ", got " ++ toString actual
  | .viewIdMismatch expected actual =>
    "View ID mismatch: expected " ++ viewIdText expected ++ ", got " ++ viewIdText actual

structure ViewRecord where
  viewId : ViewId
  kind : ViewKind
  ownerTaskId : TaskId
  handleToken : Nat
  latestFrame : Option ViewFrame
  subscriptions : List ViewSubscriptionCap

namespace ViewRecord

def verifyHandle (self : ViewRecord) (handle : ViewHandleCap) : Except ViewHostError Unit :=
  if handle.viewId ≠ self.viewId then .error (.viewIdMismatch self.viewId handle.viewId)
  else if handle.taskId ≠ self.ownerTaskId ∨ handle.token ≠ self.handleToken then .error (.unauthorized self.viewId)
  else .ok ()

def verifyRevision (self : ViewRecord) (newRevision : Nat) : Except ViewHostError Unit :=
  match self.latestFrame with
  | some latest =>
    if newRevision ≤ latest.revision then .error (.revisionNotMonotonic (latest.revision + 1) newRevision) else .ok ()
  | none => .ok ()

end ViewRecord

structure ViewHost where
  nextToken : Nat
  views : BTreeMap ViewId ViewRecord
  nextSubscriptionToken : Nat

namespace ViewHost

def new : ViewHost := ⟨1, ∅, 1000⟩

def initialContent : ViewKind → ViewContent
  | .textBuffer => .textBuffer []
  | .statusLine => .statusLine []
  | .panel => .panel []

variable (self : ViewHost)

/-- The view is the one drawn by `ViewId::new`. A view with a title starts with an empty frame of revision 0. -/
def createView (viewId : ViewId) (kind : ViewKind) (title : Option String) (taskId : TaskId)
    (channel : ChannelId) : ViewHandleCap × ViewHost :=
  let token := self.nextToken
  let latestFrame := title.map fun title => (ViewFrame.new viewId kind 0 (initialContent kind) 0).withTitle title
  let record : ViewRecord := ⟨viewId, kind, taskId, token, latestFrame, []⟩
  (⟨viewId, taskId, channel, token⟩, { self with nextToken := token + 1, views := self.views.insert viewId record })

def publishFrame (handle : ViewHandleCap) (frame : ViewFrame) : Except ViewHostError ViewHost :=
  match self.views[handle.viewId]? with
  | none => .error (.viewNotFound handle.viewId)
  | some record =>
    match record.verifyHandle handle with
    | .error e => .error e
    | .ok () =>
      if frame.viewId ≠ handle.viewId then .error (.viewIdMismatch handle.viewId frame.viewId)
      else
        match record.verifyRevision frame.revision with
        | .error e => .error e
        | .ok () =>
          .ok { self with views := self.views.insert handle.viewId { record with latestFrame := some frame } }

/-- `let _ = view_host.publish_frame(..)`: a refused frame is dropped. -/
def offerFrame (handle : ViewHandleCap) (frame : ViewFrame) : ViewHost :=
  match self.publishFrame handle frame with
  | .ok self => self
  | .error _ => self

def subscribe (viewId : ViewId) (taskId : TaskId) (channel : ChannelId) :
    Except ViewHostError (ViewSubscriptionCap × ViewHost) :=
  match self.views[viewId]? with
  | none => .error (.viewNotFound viewId)
  | some record =>
    let subscription : ViewSubscriptionCap := ⟨viewId, taskId, channel, self.nextSubscriptionToken⟩
    .ok (subscription, { self with
      nextSubscriptionToken := self.nextSubscriptionToken + 1
      views := self.views.insert viewId { record with subscriptions := record.subscriptions ++ [subscription] } })

def getLatest (viewId : ViewId) : Except ViewHostError (Option ViewFrame) :=
  match self.views[viewId]? with
  | none => .error (.viewNotFound viewId)
  | some record => .ok record.latestFrame

def removeView (handle : ViewHandleCap) : Except ViewHostError ViewHost :=
  match self.views[handle.viewId]? with
  | none => .error (.viewNotFound handle.viewId)
  | some record => (record.verifyHandle handle).map fun _ => { self with views := self.views.erase handle.viewId }

end ViewHost

end PandaGen.View
