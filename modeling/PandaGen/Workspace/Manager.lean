import PandaGen.Core.HashOrder
import PandaGen.Kernel.Types
import PandaGen.Vi.Editor
import PandaGen.Workspace.Console
import PandaGen.Workspace.FilePicker
import PandaGen.Workspace.Focus
import PandaGen.Workspace.Layout

/-!
# The workspace manager

Components, their focus and their tabs in `services_workspace_manager/src/lib.rs`. The storage behind the editors, the
pipeline runtime and the services of the command line are parameters.
-/

namespace PandaGen.Workspace

open Lib Input View Fs Vi
open Kernel (IdentityKind IdentityMetadata TrustDomain ResourceBudget ExitReason PolicyEngine PolicyEvent
  PolicyContext)

/-! ## Components -/

inductive ComponentType where
  | editor
  | cli
  | pipelineExecutor
  | filePicker
  | custom
  deriving DecidableEq

def ComponentType.text : ComponentType → String
  | .editor => "Editor"
  | .cli => "CLI"
  | .pipelineExecutor => "PipelineExecutor"
  | .filePicker => "FilePicker"
  | .custom => "Custom"

inductive ComponentState where
  | running
  | exited
  | cancelled
  | failed
  deriving DecidableEq

def ComponentState.text : ComponentState → String
  | .running => "Running"
  | .exited => "Exited"
  | .cancelled => "Cancelled"
  | .failed => "Failed"

/-- The cancellation source is left out. -/
structure ComponentInfo where
  id : ComponentId
  componentType : ComponentType
  identity : IdentityMetadata
  state : ComponentState
  focusable : Bool
  subscription : Option InputSubscriptionCap
  exitReason : Option ExitReason
  name : String
  metadata : BTreeMap String String
  mainView : Option ViewHandleCap
  statusView : Option ViewHandleCap

namespace ComponentInfo

def new (id : ComponentId) (componentType : ComponentType) (identity : IdentityMetadata) (focusable : Bool)
    (name : String) : ComponentInfo where
  id
  componentType
  identity
  state := .running
  focusable
  subscription := none
  exitReason := none
  name
  metadata := ∅
  mainView := none
  statusView := none

def isRunning (self : ComponentInfo) : Bool := self.state = .running

def views (self : ComponentInfo) : Option (ViewHandleCap × ViewHandleCap) :=
  match self.mainView, self.statusView with
  | some mainView, some statusView => some (mainView, statusView)
  | _, _ => none

end ComponentInfo

structure LaunchConfig where
  componentType : ComponentType
  name : String
  identityKind : IdentityKind
  trustDomain : TrustDomain
  focusable : Bool
  budget : Option ResourceBudget
  metadata : BTreeMap String String

namespace LaunchConfig

def new (componentType : ComponentType) (name : String) (identityKind : IdentityKind) (trustDomain : TrustDomain) :
    LaunchConfig where
  componentType
  name
  identityKind
  trustDomain
  focusable := true
  budget := none
  metadata := ∅

def withMetadata (self : LaunchConfig) (key value : String) : LaunchConfig :=
  { self with metadata := self.metadata.insert key value }

end LaunchConfig

inductive WorkspaceEvent where
  | componentLaunched (componentId : ComponentId) (componentType : ComponentType) (executionId : ExecutionId)
      (timestampNs : Nat)
  | componentFocused (componentId : ComponentId) (timestampNs : Nat)
  | componentTerminated (componentId : ComponentId) (reason : ExitReason) (timestampNs : Nat)

inductive WorkspaceError where
  | componentNotFound (componentId : ComponentId)
  | launchDenied (reason : String)
  | focusDenied (reason : String)
  | notFocusable (componentId : ComponentId)
  | noComponents
  | invalidCommand (msg : String)
  | focusError (msg : String)
  | missingLaunchContext (componentType : ComponentType) (reason : String)

namespace WorkspaceError

def text : WorkspaceError → String
  | componentNotFound id => "Component not found: " ++ componentIdText id
  | launchDenied reason => "Component launch denied: " ++ reason
  | focusDenied reason => "Focus denied: " ++ reason
  | notFocusable id => "Component not focusable: " ++ componentIdText id
  | noComponents => "No components available"
  | invalidCommand msg => "Invalid command: " ++ msg
  | focusError msg => "Focus error: " ++ msg
  | missingLaunchContext componentType reason => "Missing launch context for " ++ componentType.text ++ ": " ++ reason

def actionableMessage : WorkspaceError → String × List String
  | componentNotFound id => ("Component not found: " ++ componentIdText id, ["list", "help workspace"])
  | launchDenied reason => ("Component launch denied: " ++ reason, ["help workspace"])
  | focusDenied reason => ("Focus denied: " ++ reason, ["list"])
  | notFocusable id => ("Component not focusable: " ++ componentIdText id, ["list", "next"])
  | noComponents => ("No components available", ["open editor <path>", "help"])
  | invalidCommand msg => ("Invalid command: " ++ msg, ["help"])
  | focusError msg => ("Focus error: " ++ msg, ["list", "next"])
  | missingLaunchContext .filePicker reason =>
    ("Cannot launch FilePicker: " ++ reason, ["open editor <path>", "help workspace"])
  | missingLaunchContext componentType reason =>
    ("Cannot launch " ++ componentType.text ++ ": " ++ reason, ["help workspace"])

def formatWithActions (self : WorkspaceError) : String :=
  let (message, actions) := self.actionableMessage
  message ++ " — Try: " ++ String.intercalate " | " actions

end WorkspaceError

/-! ## Instances -/

inductive CustomHostKind where
  | generic
  | kiosk
  | packageEntry

def CustomHostKind.label : CustomHostKind → String
  | .generic => "generic"
  | .kiosk => "kiosk"
  | .packageEntry => "package-entry"

structure CustomComponentDescriptor where
  entry : String
  hostKind : CustomHostKind

namespace CustomComponentDescriptor

/-- The handlers of `CustomComponentRegistry::with_defaults`. -/
def handler (entry : String) : Option CustomHostKind :=
  if entry = "kiosk" ∨ entry = "dashboard" then some .kiosk
  else if entry = "shell" then some .packageEntry
  else none

def resolve (metadata : BTreeMap String String) : CustomComponentDescriptor :=
  match metadata["package.entry"]?, metadata["kiosk.app"]? with
  | some entry, _ => ⟨entry, (handler entry).getD .packageEntry⟩
  | none, some app => ⟨app, (handler app).getD .kiosk⟩
  | none, none => ⟨"custom.generic", .generic⟩

end CustomComponentDescriptor

structure CustomComponentRuntime where
  console : InlineConsole
  descriptor : CustomComponentDescriptor
  metadataSnapshot : List (String × String)

def CustomComponentRuntime.new (descriptor : CustomComponentDescriptor) (componentName : String)
    (metadata : BTreeMap String String) : CustomComponentRuntime where
  console := .new "custom> "
    ["Custom component host ready: " ++ componentName,
      "entry=" ++ descriptor.entry ++ " handler=" ++ descriptor.hostKind.label,
      "Type \x60help\x60 for custom host commands"]
  descriptor
  metadataSnapshot := metadata.toList

/-- `L` is the executor of a pipeline with its kernel. -/
structure PipelineRuntime (L : Type) where
  console : InlineConsole
  runtime : L

def PipelineRuntime.new {L : Type} (runtime : L) : PipelineRuntime L where
  console := .new "pipeline> " ["Pipeline executor ready", "Type \x60run\x60 to execute a pipeline stage"]
  runtime

def InlineConsole.newCli : InlineConsole :=
  .new "pg> " ["PandaGen CLI ready", "Type \x60help\x60 for built-in hints"]

inductive ComponentInstance (σ L : Type) where
  | editor (editor : Editor σ)
  | cli (console : InlineConsole)
  | filePicker (picker : FilePicker)
  | pipeline (runtime : PipelineRuntime L)
  | custom (runtime : CustomComponentRuntime)

/-! ## The manager -/

/-- The editors get copies of `io`. -/
structure EditorIoContext (σ : Type) where
  io : σ
  fsView : Option FileSystemViewService
  root : Option DirectoryView

/-- `R` holds what the services of the command line keep: settings, histories, the status line. The identifiers are
counted as they are drawn. -/
structure WorkspaceManager (σ L R : Type) where
  components : BTreeMap ComponentId ComponentInfo
  componentInstances : BTreeMap ComponentId (ComponentInstance σ L)
  focusManager : FocusManager
  viewHost : ViewHost
  viewSubscriptions : BTreeMap ViewId ViewSubscriptionCap
  policy : Option PolicyEngine
  auditTrail : List WorkspaceEvent
  nextTimestamp : Nat
  workspaceIdentity : IdentityMetadata
  editorIoContext : Option (EditorIoContext σ)
  windowLayout : WindowLayoutState
  services : R
  drawn : Nat

/-- The identifiers that are drawn, the order in which the components are listed, and the pipeline of a new runtime. -/
structure Surroundings (L : Type) where
  ids : Nat → Uuid
  order : HashOrder ComponentInfo
  newPipeline : L

namespace WorkspaceManager

variable {σ L R : Type}

def new (workspaceIdentity : IdentityMetadata) (services : R) : WorkspaceManager σ L R where
  components := ∅
  componentInstances := ∅
  focusManager := .new
  viewHost := .new
  viewSubscriptions := ∅
  policy := none
  auditTrail := []
  nextTimestamp := 0
  workspaceIdentity
  editorIoContext := none
  windowLayout := .new
  services
  drawn := 0

variable (env : Surroundings L) (self : WorkspaceManager σ L R)

def setEditorIoContext (context : EditorIoContext σ) : WorkspaceManager σ L R :=
  { self with editorIoContext := some context }

def denial (event : PolicyEvent) (context : PolicyContext) : Option String :=
  match self.policy with
  | none => none
  | some policy =>
    match policy event context with
    | .deny reason => some reason
    | _ => none

abbrev Work (σ L R α : Type) := Proc (WorkspaceManager σ L R) WorkspaceError α

def takeTimestamp : Work σ L R Nat := do
  let self ← get
  set { self with nextTimestamp := self.nextTimestamp + 1 }
  return self.nextTimestamp

def newUuid : Work σ L R Uuid := do
  let self ← get
  set { self with drawn := self.drawn + 1 }
  return env.ids self.drawn

def listComponents : List ComponentInfo := env.order.order (self.components.toList.map (·.2))

def componentOf (subscriptionId : Nat) : Option ComponentId :=
  ((self.listComponents env).find? fun c => (c.subscription.map (·.id)) = some subscriptionId).map (·.id)

def getFocusedComponent : Option ComponentId :=
  self.focusManager.currentFocus.bind fun focusSub => self.componentOf env focusSub.id

/-! ## Focus -/

def focused (componentId : ComponentId) (subscription : InputSubscriptionCap) : WorkspaceManager σ L R :=
  { self with
    focusManager := (self.focusManager.requestFocus subscription).2
    windowLayout := (self.windowLayout.setFocusedComponent componentId).getD self.windowLayout
    auditTrail := self.auditTrail ++ [.componentFocused componentId self.nextTimestamp]
    nextTimestamp := self.nextTimestamp + 1 }

/-- The subscription under which a component may be focused. A request for the focus is always granted. -/
def focusSubscription (componentId : ComponentId) : Except WorkspaceError InputSubscriptionCap :=
  match self.components[componentId]? with
  | none => .error (.componentNotFound componentId)
  | some component =>
    if !component.focusable then .error (.notFocusable componentId)
    else
      match component.subscription with
      | none => .error (.notFocusable componentId)
      | some subscription =>
        match self.denial .onCapabilityDelegate
          (.forCapabilityDelegation self.workspaceIdentity component.identity subscription.id) with
        | some reason => .error (.focusDenied reason)
        | none => .ok subscription

def focusComponent (componentId : ComponentId) : Work σ L R Unit := do
  let self ← get
  let subscription ← Proc.ofExcept (self.focusSubscription componentId)
  modify (·.focused componentId subscription)

/-- `let _ = self.focus_component(..)` -/
def tryFocus (componentId : ComponentId) : Work σ L R Unit := do
  let _ ← (focusComponent componentId).attempt

def isFocusableRunningComponent (componentId : ComponentId) : Bool :=
  match self.components[componentId]? with
  | some component => component.isRunning && component.focusable
  | none => false

/-- The tabs first, in their order, and then what has no tab. -/
def orderedFocusableComponents : List ComponentId :=
  let ordered := ((self.windowLayout.tiles.flatMap (·.tabs)).filter self.isFocusableRunningComponent).eraseDups
  let remaining := ((self.listComponents env).filter fun c => c.isRunning && c.focusable).map (·.id)
  ordered ++ (remaining.filter (· ∉ ordered)).mergeSort fun a b => componentIdText a ≤ componentIdText b

def orderedVisibleFocusableComponents : List ComponentId :=
  let ordered := ((self.windowLayout.tiles.filterMap (·.activeComponent)).filter
    self.isFocusableRunningComponent).eraseDups
  if ordered = [] then self.orderedFocusableComponents env else ordered

def cycleTarget (ordered : List ComponentId) (forward : Bool) : Option ComponentId :=
  match self.getFocusedComponent env with
  | some currentId =>
    let currentPos := (ordered.idxOf? currentId).getD 0
    if forward then ordered[(currentPos + 1) % ordered.length]?
    else if currentPos = 0 then ordered.getLast?
    else ordered[currentPos - 1]?
  | none => if forward then ordered.head? else ordered.getLast?

def cycleFocusInOrder (ordered : WorkspaceManager σ L R → List ComponentId) (forward : Bool) : Work σ L R Unit := do
  let self ← get
  let target ← Proc.okOr .noComponents (self.cycleTarget env (ordered self) forward)
  focusComponent target

def focusNext : Work σ L R Unit := cycleFocusInOrder env (·.orderedFocusableComponents env) true

def focusPrevious : Work σ L R Unit := cycleFocusInOrder env (·.orderedFocusableComponents env) false

def focusNextTile : Work σ L R Unit := cycleFocusInOrder env (·.orderedVisibleFocusableComponents env) true

def focusPreviousTile : Work σ L R Unit := cycleFocusInOrder env (·.orderedVisibleFocusableComponents env) false

def onLayout (f : WindowLayoutState → WindowLayoutState) : Work σ L R Unit :=
  modify fun self => { self with windowLayout := f self.windowLayout }

def focusCandidate : Option ComponentId :=
  self.windowLayout.focusedActiveComponent.filter self.isFocusableRunningComponent

def focusNextTab : Work σ L R Unit := do
  onLayout (·.focusNextTab)
  match (← get).focusCandidate with
  | some componentId => focusComponent componentId
  | none => focusNext env

def focusPreviousTab : Work σ L R Unit := do
  onLayout (·.focusPreviousTab)
  match (← get).focusCandidate with
  | some componentId => focusComponent componentId
  | none => focusPrevious env

def splitFocusedTile (axis : SplitAxis) : Work σ L R Unit := do
  onLayout (·.splitFocusedTile axis)
  match (← get).focusCandidate with
  | some componentId => tryFocus componentId
  | none => pure ()

/-! ## Launch -/

def validateLaunchConfig (config : LaunchConfig) : Except WorkspaceError Unit :=
  if config.componentType ≠ .filePicker then .ok ()
  else
    match self.editorIoContext with
    | none => .error (.missingLaunchContext .filePicker "storage context unavailable")
    | some context =>
      if context.root.isNone then .error (.missingLaunchContext .filePicker "root directory context unavailable")
      else .ok ()

def newIdentity (kind : IdentityKind) (trustDomain : TrustDomain) (name : String) (timestamp : Nat)
    (budget : Option ResourceBudget) : Work σ L R IdentityMetadata := do
  let executionId : ExecutionId := ⟨← newUuid env⟩
  let parentId := (← get).workspaceIdentity.executionId
  let identity := { IdentityMetadata.new executionId kind trustDomain name timestamp with parentId := some parentId }
  return { identity with budget }

def newSubscription : Work σ L R InputSubscriptionCap := do
  let id ← takeTimestamp
  return ⟨id, ⟨← newUuid env⟩, ⟨← newUuid env⟩⟩

def subscriptionFor (focusable : Bool) : Work σ L R (Option InputSubscriptionCap) :=
  if focusable then some <$> newSubscription env else pure none

def openView (kind : ViewKind) (title what : String) (componentTaskId workspaceTaskId : TaskId) :
    Work σ L R ViewHandleCap := do
  let channel : ChannelId := ⟨← newUuid env⟩
  let viewId : ViewId := ⟨← newUuid env⟩
  let self ← get
  let (handle, viewHost) := self.viewHost.createView viewId kind (some title) componentTaskId channel
  set { self with viewHost }
  let subscriptionChannel : ChannelId := ⟨← newUuid env⟩
  let self ← get
  let (subscription, viewHost) ← Proc.ofExcept ((self.viewHost.subscribe viewId workspaceTaskId
    subscriptionChannel).mapError fun e => .invalidCommand ("Failed to subscribe to " ++ what ++ " view: " ++ e.text))
  set { self with viewHost, viewSubscriptions := self.viewSubscriptions.insert viewId subscription }
  return handle

def openMainView (name : String) (componentTaskId workspaceTaskId : TaskId) : Work σ L R ViewHandleCap :=
  openView env .textBuffer name "main" componentTaskId workspaceTaskId

def openStatusView (name : String) (componentTaskId workspaceTaskId : TaskId) : Work σ L R ViewHandleCap :=
  openView env .statusLine (name ++ " - status") "status" componentTaskId workspaceTaskId

def publishConsole (console : InlineConsole) (views : ViewHandleCap × ViewHandleCap) (timestamp : Nat)
    (componentId : ComponentId) (statusLabel : String) : Work σ L R InlineConsole := do
  let self ← get
  let (console, viewHost) := console.publishViews self.viewHost views.1 views.2 timestamp componentId statusLabel
  set { self with viewHost }
  return console

section

variable [EditorIo σ]

def openPath (metadata : BTreeMap String String) : Option String :=
  ((metadata["path"]?).or metadata["arg0"]?).filter (· ≠ "")

def newEditor (context : Option (EditorIoContext σ)) (metadata : BTreeMap String String)
    (views : ViewHandleCap × ViewHandleCap) : Option (Editor σ) :=
  let editor := Editor.new.setViewHandles views.1 views.2
  match context with
  | none => some editor
  | some context =>
    let editor := editor.setIo context.io
    match openPath metadata with
    | none => some editor
    | some path => ((Editor.openWith (.withPath path.toList)).call editor).map (·.2)

def newInstance (component : ComponentInfo) (views : ViewHandleCap × ViewHandleCap) (timestamp : Nat) :
    Work σ L R (ComponentInstance σ L) := do
  match component.componentType with
  | .editor => do
    let editor ← Proc.okOrPanic (newEditor (← get).editorIoContext component.metadata views)
    return .editor editor
  | .cli => return .cli (← publishConsole .newCli views timestamp component.id "CLI")
  | .filePicker => do
    let root ← Proc.okOrPanic ((← get).editorIoContext.bind (·.root))
    return .filePicker (.new root)
  | .pipelineExecutor => do
    let runtime := PipelineRuntime.new env.newPipeline
    let console ← publishConsole runtime.console views timestamp component.id "PIPELINE"
    return .pipeline { runtime with console }
  | .custom => do
    let runtime := CustomComponentRuntime.new (.resolve component.metadata) component.name component.metadata
    let console ← publishConsole runtime.console views timestamp component.id "CUSTOM"
    return .custom { runtime with console }

def installed (component : ComponentInfo) (inst : ComponentInstance σ L) (timestamp : Nat) : WorkspaceManager σ L R :=
  { self with
    auditTrail := self.auditTrail ++
      [.componentLaunched component.id component.componentType component.identity.executionId timestamp]
    components := self.components.insert component.id component
    componentInstances := self.componentInstances.insert component.id inst
    windowLayout := self.windowLayout.addComponentTab component.id }

def newComponent (config : LaunchConfig) (identity : IdentityMetadata) :
    Work σ L R (ComponentInfo × ViewHandleCap × ViewHandleCap) := do
  let componentId : ComponentId := ⟨← newUuid env⟩
  let subscription ← subscriptionFor env config.focusable
  let componentTaskId : TaskId := ⟨← newUuid env⟩
  let workspaceTaskId : TaskId := ⟨← newUuid env⟩
  let mainView ← openMainView env config.name componentTaskId workspaceTaskId
  let statusView ← openStatusView env config.name componentTaskId workspaceTaskId
  let component := ComponentInfo.new componentId config.componentType identity config.focusable config.name
  return ({ component with
    metadata := config.metadata
    subscription
    mainView := some mainView
    statusView := some statusView }, mainView, statusView)

def launchComponent (config : LaunchConfig) : Work σ L R ComponentId := do
  Proc.ofExcept ((← get).validateLaunchConfig config)
  let timestamp ← takeTimestamp
  let identity ← newIdentity env config.identityKind config.trustDomain config.name timestamp config.budget
  let self ← get
  match self.denial .onSpawn (.forSpawn self.workspaceIdentity identity) with
  | some reason => throw (.err (.launchDenied reason))
  | none => do
    let (component, views) ← newComponent env config identity
    let inst ← newInstance env component views timestamp
    modify (·.installed component inst timestamp)
    if config.focusable then tryFocus component.id
    return component.id

end

/-! ## Termination -/

def stateAfter : ExitReason → ComponentState
  | .normal => .exited
  | .cancelled _ => .cancelled
  | .failure _ | .timeout => .failed

def closeView (views : ViewHost × BTreeMap ViewId ViewSubscriptionCap) (handle : ViewHandleCap) :
    ViewHost × BTreeMap ViewId ViewSubscriptionCap :=
  let viewHost := match views.1.removeView handle with
    | .ok viewHost => viewHost
    | .error _ => views.1
  (viewHost, views.2.erase handle.viewId)

def closeViews (views : ViewHost × BTreeMap ViewId ViewSubscriptionCap) (component : ComponentInfo) :
    ViewHost × BTreeMap ViewId ViewSubscriptionCap :=
  let views := component.mainView.elim views (closeView views)
  component.statusView.elim views (closeView views)

def terminated (component : ComponentInfo) (componentId : ComponentId) (reason : ExitReason) : WorkspaceManager σ L R :=
  { self with
    components := self.components.insert componentId
      { component with state := stateAfter reason, exitReason := some reason }
    focusManager := component.subscription.elim self.focusManager fun subscription =>
      (self.focusManager.removeSubscription subscription).2
    viewHost := (closeViews (self.viewHost, self.viewSubscriptions) component).1
    viewSubscriptions := (closeViews (self.viewHost, self.viewSubscriptions) component).2
    componentInstances := self.componentInstances.erase componentId
    windowLayout := self.windowLayout.removeComponent componentId
    auditTrail := self.auditTrail ++ [.componentTerminated componentId reason self.nextTimestamp]
    nextTimestamp := self.nextTimestamp + 1 }

def terminateComponent (componentId : ComponentId) (reason : ExitReason) : Work σ L R Unit := do
  let self ← get
  let component ← Proc.okOr (.componentNotFound componentId) self.components[componentId]?
  set (self.terminated component componentId reason)

end WorkspaceManager

end PandaGen.Workspace
