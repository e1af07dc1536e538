import PandaGen.Workspace.Manager

/-!
# Input of the workspace

Key bindings, commands and `route_input` of `services_workspace_manager/src/{keybindings,commands,lib}.rs`. Commands
that touch neither components nor views are run by the services.
-/

namespace PandaGen.Workspace

open Lib Input View Fs Vi
open Kernel (TrustDomain ExitReason)

/-! ## Key bindings -/

inductive Action where
  | switchTile
  | focusTop
  | focusBottom
  | save
  | quit
  | commandMode
  | custom (name : String)

/-- The default profile, which is never changed. -/
def getAction (event : KeyEvent) : Option Action :=
  if event.code = .tab ∧ event.modifiers = .alt then some .switchTile
  else if event.code = .s ∧ event.modifiers = .ctrl then some .save
  else if event.code = .q ∧ event.modifiers = .ctrl then some .quit
  else if event.code = .num1 ∧ event.modifiers = .ctrl then some .focusTop
  else if event.code = .num2 ∧ event.modifiers = .ctrl then some .focusBottom
  else none

/-! ## Commands -/

/-- Commands of the settings, the histories, the help and the boot profile. -/
inductive ServiceCommand where
  | settingsList
  | settingsSet (key value : Text)
  | settingsReset (key : Text)
  | settingsSave
  | recentFiles
  | help (category : Text)
  | bootProfileShow
  | bootProfileSet (profile : Text)
  | bootProfileSave

inductive WorkspaceCommand where
  | open (componentType : ComponentType) (args : List String)
  | list
  | focus (componentId : ComponentId)
  | focusNext
  | focusPrev
  | close (componentId : ComponentId)
  | status (componentId : ComponentId)
  | getFocus
  | openFilePicker
  | service (command : ServiceCommand)

structure ComponentSummary where
  id : ComponentId
  componentType : ComponentType
  name : String
  state : ComponentState
  focusable : Bool
  hasFocus : Bool

inductive CommandResult where
  | opened (componentId : ComponentId) (name : String)
  | list (components : List ComponentSummary)
  | focusChanged (componentId : ComponentId)
  | closed (componentId : ComponentId)
  | status (summary : ComponentSummary)
  | focusInfo (componentId : Option ComponentId)
  | success (message : String)
  | error (message : String)

def formatSummary (component : ComponentSummary) : String :=
  "- " ++ componentIdText component.id ++ " " ++ component.name ++ " [" ++ component.componentType.text ++ "]" ++
    (if component.hasFocus then " <focus>" else "")

def formatCommandResultLines : CommandResult → List Text
  | .opened componentId name => [("Opened " ++ name ++ " (" ++ componentIdText componentId ++ ")").toList]
  | .list components =>
    ("Components (" ++ toString components.length ++ ")").toList :: components.map fun c => (formatSummary c).toList
  | .focusChanged componentId => [("Focus -> " ++ componentIdText componentId).toList]
  | .closed componentId => [("Closed " ++ componentIdText componentId).toList]
  | .status summary =>
    [(componentIdText summary.id ++ " " ++ summary.name ++ " [" ++ summary.componentType.text ++ "] state=" ++
      summary.state.text).toList]
  | .focusInfo (some id) => [("Focused: " ++ componentIdText id).toList]
  | .focusInfo none => ["Focused: none".toList]
  | .success message => Text.lines message.toList
  | .error message => [("Error: " ++ message).toList]

/-- What the rest of the workspace does: it reads command lines, runs the commands of the services and of the
pipelines, and keeps its own records. -/
structure Services (σ L R : Type) extends Surroundings L where
  parseCommand : Text → Except WorkspaceError WorkspaceCommand
  runCommand : ServiceCommand → R × Option (EditorIoContext σ) → CommandResult × R × Option (EditorIoContext σ)
  runPipelineCommand : L → Text → List Text × L
  /-- The lines of the command palette, and how many of how many commands they show. -/
  commandPalettePreview : R → List Text × Nat × Nat
  setLastAction : R → String → R
  addFile : R → String → R
  track : R → WorkspaceCommand → CommandResult → R

namespace WorkspaceManager

variable {σ L R : Type}

def onServices (f : R → R) : Work σ L R Unit := modify fun self => { self with services := f self.services }

variable [EditorIo σ] (env : Services σ L R)

def lastAction (msg : String) : Work σ L R Unit := onServices fun services => env.setLastAction services msg

def summary (self : WorkspaceManager σ L R) (c : ComponentInfo) : ComponentSummary :=
  ⟨c.id, c.componentType, c.name, c.state, c.focusable, some c.id = self.getFocusedComponent env.toSurroundings⟩

def reported {α : Type} (failed : String) (ok : α → Work σ L R CommandResult) (m : Work σ L R α) :
    Work σ L R CommandResult := do
  match ← m.attempt with
  | .ok a => ok a
  | .error err => return .error (failed ++ err.text)

def openConfig (componentType : ComponentType) (args : List String) (name : String) : LaunchConfig :=
  let config := (args.zipIdx).foldl (fun config (arg, i) => config.withMetadata ("arg" ++ toString i) arg)
    (LaunchConfig.new componentType name .component .user)
  match componentType, args with
  | .custom, entry :: _ => (config.withMetadata "package.entry" entry).withMetadata "custom.entry" entry
  | _, _ => config

def cmdOpen (componentType : ComponentType) (args : List String) : Work σ L R CommandResult := do
  if componentType = .custom ∧ (args.head?.map fun arg => (Text.words arg.toList).isEmpty).getD true then
    return .error "Custom component requires an entry: usage \x60open custom <entry>\x60"
  else
    let name := componentType.text ++ "-" ++ (args.head?.getD (toString (← get).components.size))
    reported "Failed to open component: " (fun componentId => do
      if componentType = .editor then
        if let some filename := args.head? then
          onServices fun services => env.addFile services filename
      return .opened componentId name) (launchComponent env.toSurroundings (openConfig componentType args name))

def focusAnswer : Work σ L R CommandResult := do
  match (← get).getFocusedComponent env.toSurroundings with
  | some componentId => return .focusChanged componentId
  | none => return .error "No component focused"

def cmdOpenFilePicker : Work σ L R CommandResult := do
  match ← (launchComponent env.toSurroundings (.new .filePicker "File Picker" .component .user)).attempt with
  | .ok componentId => return .opened componentId "File Picker"
  | .error err => return .error ("Failed to open file picker: " ++ err.formatWithActions)

def runService (command : ServiceCommand) : Work σ L R CommandResult := do
  let self ← get
  let (result, services, editorIoContext) := env.runCommand command (self.services, self.editorIoContext)
  set { self with services, editorIoContext }
  return result

def executeCommandInner (command : WorkspaceCommand) : Work σ L R CommandResult := do
  match command with
  | .open componentType args => cmdOpen env componentType args
  | .list => do
    let self ← get
    return .list ((self.listComponents env.toSurroundings).map (self.summary env))
  | .focus componentId =>
    reported "Failed to focus component: " (fun _ => return .focusChanged componentId) (focusComponent componentId)
  | .focusNext => reported "Failed to focus next: " (fun _ => focusAnswer env) (focusNext env.toSurroundings)
  | .focusPrev => reported "Failed to focus previous: " (fun _ => focusAnswer env) (focusPrevious env.toSurroundings)
  | .close componentId =>
    reported "Failed to close component: " (fun _ => return .closed componentId)
      (terminateComponent componentId .normal)
  | .status componentId => do
    let self ← get
    match self.components[componentId]? with
    | some component => return .status (self.summary env component)
    | none => return .error ("Component not found: " ++ componentIdText componentId)
  | .getFocus => return .focusInfo ((← get).getFocusedComponent env.toSurroundings)
  | .openFilePicker => cmdOpenFilePicker env
  | .service command => runService env command

def executeCommand (command : WorkspaceCommand) : Work σ L R CommandResult := do
  let result ← executeCommandInner env command
  onServices fun services => env.track services command result
  return result

/-! ## Instances -/

def setInstance (componentId : ComponentId) (inst : ComponentInstance σ L) : Work σ L R Unit :=
  modify fun self => { self with componentInstances := self.componentInstances.insert componentId inst }

def publishFor (componentId : ComponentId) (console : InlineConsole) (timestamp : Nat) (statusLabel : String) :
    Work σ L R InlineConsole := do
  match (← get).components[componentId]?.bind (·.views) with
  | some views => publishConsole console views timestamp componentId statusLabel
  | none => return console

def showConsole (componentId : ComponentId) (console : InlineConsole) (timestamp : Nat) (statusLabel : String)
    (wrap : InlineConsole → ComponentInstance σ L) : Work σ L R Unit := do
  let console ← publishFor componentId console timestamp statusLabel
  setInstance componentId (wrap console)

/-- An error of `publish_views` is dropped. -/
def showEditor (componentId : ComponentId) (editor : Editor σ) (timestamp : Nat) : Work σ L R Unit := do
  let self ← get
  let (_, editor, viewHost) := (Editor.publishViews timestamp).exec (editor, self.viewHost)
  set { self with viewHost }
  setInstance componentId (.editor editor)

def appendCliOutput (componentId : ComponentId) (lines : List Text) : Work σ L R Unit := do
  let timestamp ← takeTimestamp
  match (← get).componentInstances[componentId]? with
  | some (.cli console) => showConsole componentId (console.pushOutputLines lines) timestamp "CLI" .cli
  | _ => pure ()

def executeCliComponentCommand (componentId : ComponentId) (command : Text) : Work σ L R Unit := do
  let trimmed := command.trim
  if trimmed = [] then return
  let heading := "pg> ".toList ++ trimmed
  match env.parseCommand trimmed with
  | .ok parsed => do
    let result ← executeCommand env parsed
    appendCliOutput componentId (heading :: formatCommandResultLines result)
  | .error err => appendCliOutput componentId [heading, err.formatWithActions.toList]

def runCustomHostCommand (runtime : CustomComponentRuntime) (command : Text) : List Text :=
  match command.words with
  | [] => []
  | op :: rest =>
    if op = "help".toList then
      ["Custom host commands:".toList, "  status".toList, "  meta".toList, "  ping [payload]".toList]
    else if op = "status".toList then
      [("Custom host online: handler=" ++ runtime.descriptor.hostKind.label ++ " entry=" ++ runtime.descriptor.entry ++
        " metadata=" ++ toString runtime.metadataSnapshot.length).toList]
    else if op = "meta".toList then
      if runtime.metadataSnapshot = [] then ["No metadata entries".toList]
      else ("Metadata entries (" ++ toString runtime.metadataSnapshot.length ++ ")").toList ::
        runtime.metadataSnapshot.map fun (key, value) => ("  " ++ key ++ "=" ++ value).toList
    else if op = "ping".toList then
      if rest = [] then ["pong".toList]
      else ["pong [".toList ++ joinWords rest ++ "] via ".toList ++ runtime.descriptor.hostKind.label.toList]
    else ["Unknown custom command: ".toList ++ op]

def executeCustomComponentCommand (componentId : ComponentId) (command : Text) : Work σ L R Unit := do
  let trimmed := command.trim
  if trimmed = [] then return
  let timestamp ← takeTimestamp
  match (← get).componentInstances[componentId]? with
  | some (.custom runtime) => do
    let lines := ("custom> ".toList ++ trimmed) :: runCustomHostCommand runtime trimmed
    showConsole componentId (runtime.console.pushOutputLines lines) timestamp "CUSTOM"
      fun console => .custom { runtime with console }
  | _ => pure ()

def executePipelineComponentCommand (componentId : ComponentId) (command : Text) : Work σ L R Unit := do
  let trimmed := command.trim
  if trimmed = [] then return
  let timestamp ← takeTimestamp
  match (← get).componentInstances[componentId]? with
  | some (.pipeline runtime) => do
    let (lines, inner) := env.runPipelineCommand runtime.runtime trimmed
    showConsole componentId (runtime.console.pushOutputLines (("pipeline> ".toList ++ trimmed) :: lines)) timestamp
      "PIPELINE" fun console => .pipeline ⟨console, inner⟩
  | _ => pure ()

/-! ## Actions -/

def saveEditor (componentId : ComponentId) (editor : Editor σ) (timestamp : Nat) : Work σ L R Bool := do
  let drawn ← newUuid env.toSurroundings
  match (Editor.saveDocument drawn).call editor with
  | none => throw .panic
  | some (.error err, editor) => do
    setInstance componentId (.editor editor)
    lastAction env ("Save failed: " ++ err.text)
    return false
  | some (.ok versionId, editor) => do
    showEditor componentId editor timestamp
    lastAction env ("Saved version Version(" ++ versionId.uuid.text ++ ")")
    return true

def saveFocused : Work σ L R Bool := do
  match (← get).getFocusedComponent env.toSurroundings with
  | none => do
    lastAction env "Save failed: no focused component"
    return false
  | some focusedId => do
    if ((← get).components[focusedId]?.map (·.componentType)) ≠ some .editor then
      lastAction env "Save failed: focused component is not an editor"
      return false
    else
      let timestamp ← takeTimestamp
      match (← get).componentInstances[focusedId]? with
      | none => do
        lastAction env "Save failed: editor instance missing"
        return false
      | some (.editor editor) => saveEditor env focusedId editor timestamp
      | some _ => do
        lastAction env "Save failed: focused component is not an editor"
        return false

/-- `let _ = self.terminate_component(..)` for each component -/
def terminateAll (reason : ExitReason) : List ComponentId → Work σ L R Unit
  | [] => pure ()
  | componentId :: rest => do
    let _ ← (terminateComponent componentId reason).attempt
    terminateAll reason rest

def findRunningComponentOfType (self : WorkspaceManager σ L R) (componentType : ComponentType) : Option ComponentId :=
  ((((self.listComponents env.toSurroundings).filter fun c => c.state = .running ∧ c.componentType = componentType).map
    (·.id)).mergeSort fun a b => componentIdText a ≤ componentIdText b).head?

def commandLine : Work σ L R (Option ComponentId) := do
  match (← get).findRunningComponentOfType env .cli with
  | some componentId => return some componentId
  | none => do
    match ← (launchComponent env.toSurroundings (.new .cli "command-palette" .component .user)).attempt with
    | .ok componentId => return some componentId
    | .error _ => return none

def enterCommandMode : Work σ L R Bool := do
  let (previewLines, shown, total) := env.commandPalettePreview (← get).services
  if total = 0 then
    lastAction env "Command palette has no registered commands"
    return false
  else
    match ← commandLine env with
    | none => do
      lastAction env "Command mode failed: unable to open CLI"
      return false
    | some cliId => do
      tryFocus cliId
      appendCliOutput cliId previewLines
      lastAction env ("Command palette ready: showing " ++ toString shown ++ "/" ++ toString total ++ " commands")
      return true

def succeeded (m : Work σ L R Unit) : Work σ L R Bool := do
  match ← m.attempt with
  | .ok () => return true
  | .error _ => return false

def focusAmong (pick : List ComponentId → Option ComponentId) : Work σ L R Bool := do
  match pick ((← get).orderedVisibleFocusableComponents env.toSurroundings) with
  | some componentId => succeeded (focusComponent componentId)
  | none => return false

def executeAction : Action → Work σ L R Bool
  | .switchTile => do
    if (← get).windowLayout.tileCount > 1 then succeeded (focusNextTile env.toSurroundings)
    else succeeded (focusNext env.toSurroundings)
  | .focusTop => focusAmong env List.head?
  | .focusBottom => focusAmong env List.getLast?
  | .save => saveFocused env
  | .quit => do
    let componentIds := ((← get).listComponents env.toSurroundings).map (·.id)
    terminateAll (.cancelled "Quit action triggered") componentIds
    lastAction env "Quitting..."
    return true
  | .commandMode => enterCommandMode env
  | .custom _ => return false

/-! ## Routing -/

def pickerContext (self : WorkspaceManager σ L R) : Option (FileSystemViewService × DirectoryView) :=
  match self.editorIoContext with
  | some ⟨_, some fsView, some root⟩ => some (fsView, root)
  | _ => none

/-- The search goes into a directory once. It takes at most as many steps as there are directories. -/
def resolveRelativePathIn (fs : FileSystemViewService) (target : ObjectId) :
    Nat → DirectoryView → String → List ObjectId → Option String × List ObjectId
  | 0, _, _, visited => (none, visited)
  | fuel + 1, directory, base, visited =>
    if directory.id ∈ visited then (none, visited)
    else
      directory.listEntries.foldl (fun (found, visited) entry =>
        match found with
        | some path => (some path, visited)
        | none =>
          let path := if base = "" then entry.name else base ++ "/" ++ entry.name
          if entry.objectId = target then (some path, visited)
          else if entry.kind = .map then
            match fs.resolveDirectory entry.objectId with
            | some subdir => resolveRelativePathIn fs target fuel subdir path visited
            | none => (none, visited)
          else (none, visited)) (none, directory.id :: visited)

def resolveRelativePath (context : Option (FileSystemViewService × DirectoryView)) (target : ObjectId) :
    Option String :=
  match context with
  | none => none
  | some (fs, root) =>
    if target = root.id then some ""
    else (resolveRelativePathIn fs target (fs.directories.size + 2) root "" []).1

def buildFilePickerBreadcrumb (picker : FilePicker) (context : Option (FileSystemViewService × DirectoryView)) :
    String :=
  match context with
  | none => "ROOT"
  | some (_, root) =>
    if picker.currentDirectory.id = root.id then "ROOT"
    else
      match resolveRelativePath context picker.currentDirectory.id with
      | some path => if path ≠ "" then "ROOT/" ++ path else "ROOT"
      | none => "ROOT"

def deliverToEditor (componentId : ComponentId) (editor : Editor σ) (event : InputEvent) (timestamp : Nat) :
    Work σ L R Unit := do
  let drawn ← newUuid env.toSurroundings
  match (Editor.processInput event drawn).call editor with
  | none => throw .panic
  | some (.error _, editor) => setInstance componentId (.editor editor)
  | some (.ok _, editor) => showEditor componentId editor timestamp

def publishPicker (componentId : ComponentId) (picker : FilePicker) (timestamp : Nat) : Work σ L R Unit := do
  let self ← get
  match self.components[componentId]?.bind (·.views) with
  | none => pure ()
  | some (mainView, statusView) => do
    let breadcrumb := buildFilePickerBreadcrumb picker self.pickerContext
    let viewHost := self.viewHost.offerFrame mainView (picker.renderTextBuffer mainView.viewId 0 timestamp)
    let viewHost := viewHost.offerFrame statusView
      (picker.renderStatusLine statusView.viewId 0 timestamp breadcrumb)
    set { self with viewHost }

def showPicker (componentId : ComponentId) (picker : FilePicker) (timestamp : Nat) : Work σ L R Unit := do
  publishPicker componentId picker timestamp
  setInstance componentId (.filePicker picker)

def deliverToPicker (componentId : ComponentId) (picker : FilePicker) (event : InputEvent) (timestamp : Nat) :
    Work σ L R Unit := do
  let context := (← get).pickerContext
  let (result, picker) := picker.processInput event (context.map (·.1))
  showPicker componentId picker timestamp
  match result with
  | .fileSelected objectId name => do
    let _ ← (terminateComponent componentId .normal).attempt
    let path := (resolveRelativePath context objectId).getD name
    let _ ← executeCommand env (.open .editor [path])
  | .cancelled => do
    let _ ← (terminateComponent componentId .normal).attempt
  | .continue => pure ()

def deliverToConsole (componentId : ComponentId) (console : InlineConsole) (event : InputEvent) (timestamp : Nat)
    (statusLabel : String) (wrap : InlineConsole → ComponentInstance σ L) (execute : Text → Work σ L R Unit) :
    Work σ L R Unit := do
  let (pending, console) ← Proc.okOrPanic (console.processInput event)
  showConsole componentId console timestamp statusLabel wrap
  match pending with
  | some command => execute command
  | none => pure ()

def deliver (componentId : ComponentId) (event : InputEvent) (timestamp : Nat) : Work σ L R Unit := do
  match (← get).componentInstances[componentId]? with
  | some (.editor editor) => deliverToEditor env componentId editor event timestamp
  | some (.cli console) =>
    deliverToConsole componentId console event timestamp "CLI" .cli (executeCliComponentCommand env componentId)
  | some (.filePicker picker) => deliverToPicker env componentId picker event timestamp
  | some (.custom runtime) =>
    deliverToConsole componentId runtime.console event timestamp "CUSTOM"
      (fun console => .custom { runtime with console })
      (executeCustomComponentCommand componentId)
  | some (.pipeline runtime) =>
    deliverToConsole componentId runtime.console event timestamp "PIPELINE"
      (fun console => .pipeline { runtime with console }) (executePipelineComponentCommand env componentId)
  | none => pure ()

def consume (event : InputEvent) : Work σ L R Bool :=
  match event with
  | .key keyEvent =>
    match getAction keyEvent with
    | some action => executeAction env action
    | none => pure false

def routeToFocused (event : InputEvent) : Work σ L R (Option ComponentId) := do
  match (← get).getFocusedComponent env.toSurroundings with
  | none => return none
  | some componentId => do
    let timestamp ← takeTimestamp
    deliver env componentId event timestamp
    return some componentId

def routeInput (event : InputEvent) : Work σ L R (Option ComponentId) := do
  if ← consume env event then return none
  else routeToFocused env event

/-! ## Calls -/

inductive Call (σ : Type) where
  | launchComponent (config : LaunchConfig)
  | terminateComponent (componentId : ComponentId) (reason : ExitReason)
  | focusComponent (componentId : ComponentId)
  | focusNext
  | focusPrevious
  | focusNextTile
  | focusPreviousTile
  | focusNextTab
  | focusPreviousTab
  | splitFocusedTile (axis : SplitAxis)
  | routeInput (event : InputEvent)
  | setEditorIoContext (context : EditorIoContext σ)

def perform : Call σ → Work σ L R (Option ComponentId)
  | .launchComponent config => some <$> launchComponent env.toSurroundings config
  | .terminateComponent componentId reason => do
    terminateComponent componentId reason
    return none
  | .focusComponent componentId => do
    focusComponent componentId
    return none
  | .focusNext => do
    focusNext env.toSurroundings
    return none
  | .focusPrevious => do
    focusPrevious env.toSurroundings
    return none
  | .focusNextTile => do
    focusNextTile env.toSurroundings
    return none
  | .focusPreviousTile => do
    focusPreviousTile env.toSurroundings
    return none
  | .focusNextTab => do
    focusNextTab env.toSurroundings
    return none
  | .focusPreviousTab => do
    focusPreviousTab env.toSurroundings
    return none
  | .splitFocusedTile axis => do
    splitFocusedTile axis
    return none
  | .routeInput event => routeInput env event
  | .setEditorIoContext context => do
    modify (·.setEditorIoContext context)
    return none

def machine : Machine (WorkspaceManager σ L R) (Call σ) (Except WorkspaceError (Option ComponentId)) :=
  ⟨fun self call => (perform env call).call self⟩

end WorkspaceManager

end PandaGen.Workspace
