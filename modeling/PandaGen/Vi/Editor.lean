import PandaGen.Input.Events
import PandaGen.Vi.Io
import PandaGen.Vi.State
import PandaGen.View.Host

/-!
# The vi editor

`services_editor_vi/src/{commands,editor,render}.rs`. The text of the viewport is left out: the views show the whole
buffer.
-/

namespace PandaGen.Vi

open Lib Input View
open Editor (Position EditorMode)

/-! ## Commands -/

inductive CommandError where
  | unknownCommand (command : Text)
  | invalidSyntax (msg : String)

def CommandError.text : CommandError → String
  | .unknownCommand command => "Unknown command: " ++ String.ofList command
  | .invalidSyntax msg => "Invalid syntax: " ++ msg

inductive Command where
  | write
  | writeAs (path : Text)
  | edit (path : Text) (force : Bool)
  | quit
  | forceQuit
  | writeQuit

def joinWords (words : List Text) : Text := List.intercalate [' '] words

def Command.parse (cmd : Text) : Except CommandError Command :=
  match cmd.words with
  | [] => .error (.invalidSyntax "Empty command")
  | command :: args =>
    if command = "w".toList ∨ command = "write".toList then
      if args = [] then .ok .write else .ok (.writeAs (joinWords args))
    else if command = "e".toList ∨ command = "edit".toList then
      if args = [] then .error (.invalidSyntax "Usage: :e <path>") else .ok (.edit (joinWords args) false)
    else if command = "e!".toList ∨ command = "edit!".toList then
      if args = [] then .error (.invalidSyntax "Usage: :e! <path>") else .ok (.edit (joinWords args) true)
    else if command = "q".toList ∨ command = "quit".toList then .ok .quit
    else if command = "q!".toList ∨ command = "quit!".toList then .ok .forceQuit
    else if command = "wq".toList ∨ command = "x".toList then .ok .writeQuit
    else .error (.unknownCommand command)

/-! ## The status line -/

def modeText : EditorMode → Text
  | .normal => "NORMAL".toList
  | .insert => "INSERT".toList
  | .command => "COMMAND".toList
  | .search => "SEARCH".toList

def getModeHint : EditorMode → Text
  | .normal => "Normal — i=Insert :w=Save :q=Quit :help".toList
  | .insert => "Insert — Esc=Normal".toList
  | .command => "Command — Enter=Run Esc=Cancel :w :q :wq".toList
  | .search => "Search — Enter=Find Esc=Cancel".toList

/-- The commands are listed in their order, so the matches need no sorting. -/
def commandNames : List Text := ["e".toList, "help".toList, "q".toList, "w".toList, "wq".toList]

def getCommandSuggestions (buffer : Text) : List Text :=
  if buffer = [] then ["e".toList, "help".toList, "q".toList]
  else
    let prefixMatches := commandNames.filter fun cmd => buffer.isPrefixOf cmd
    let substringMatches := commandNames.filter fun cmd => !buffer.isPrefixOf cmd && (Text.find cmd buffer).isSome
    (prefixMatches ++ substringMatches).take 3

def renderLabel (s : EditorState) : Text :=
  match s.documentLabel with
  | some label => label ++ (if s.dirty then ['*'] else []) ++ [' ']
  | none => if s.dirty then "[No Name]* ".toList else []

def renderMessage (s : EditorState) : Text :=
  if s.statusMessage ≠ [] then " | ".toList ++ s.statusMessage
  else
    " | ".toList ++ getModeHint s.mode ++
      (if s.mode = .command ∧ getCommandSuggestions s.commandBuffer ≠ [] then
        " | Suggestions: ".toList ++ joinWords (getCommandSuggestions s.commandBuffer)
      else [])

def renderStatus (s : EditorState) : Text :=
  modeText s.mode ++ [' '] ++ renderLabel s ++ (if s.mode = .command then ':' :: s.commandBuffer else []) ++
    (if s.mode = .search then '/' :: s.searchQuery else []) ++ renderMessage s

/-! ## The editor -/

inductive EditorError where
  | io (error : IoError)
  | command (error : CommandError)
  | notSupported (msg : String)
  | invalidState (msg : String)
  | viewError (msg : String)

def EditorError.text : EditorError → String
  | .io error => "I/O error: " ++ error.text
  | .command error => "Command error: " ++ error.text
  | .notSupported msg => "Not supported: " ++ msg
  | .invalidState msg => "Invalid state: " ++ msg
  | .viewError msg => "View error: " ++ msg

inductive EditorAction where
  | continue
  | quit
  | saved (versionId : VersionId)

/-- `σ` is the state of the I/O handler. -/
structure Editor (σ : Type) where
  state : EditorState
  document : Option DocumentHandle
  io : Option σ
  mainViewHandle : Option ViewHandleCap
  statusViewHandle : Option ViewHandleCap
  mainViewRevision : Nat
  statusViewRevision : Nat

namespace Editor

variable {σ : Type}

def new : Editor σ := ⟨.new, none, none, none, none, 1, 1⟩

variable (self : Editor σ)

def setViewHandles (mainView statusView : ViewHandleCap) : Editor σ :=
  { self with mainViewHandle := some mainView, statusViewHandle := some statusView }

def setIo (io : σ) : Editor σ := { self with io := some io }

abbrev Edit (σ α : Type) := Proc (Editor σ) EditorError α

def onState (f : EditorState → EditorState) : Edit σ Unit := modify fun self => { self with state := f self.state }

def computed (f : EditorState → Option EditorState) : Edit σ EditorAction := do
  let self ← get
  let state ← Proc.okOrPanic (f self.state)
  set { self with state }
  return .continue

def showStatus (msg : String) : Edit σ Unit := onState (·.setStatusMessage msg)

def onIo {α : Type} (io : σ) (m : Proc σ IoError α) : Edit σ (Except IoError α) :=
  m.attempt.zoom (fun _ => io) fun io self => { self with io := some io }

/-! ## Documents -/

def newDocument : Editor σ :=
  { self with state := EditorState.new.setStatusMessage "New document", document := none }

def loadDocument (content : Text) (handle : DocumentHandle) : Editor σ :=
  { self with
    state := ((self.state.loadContent content).setDocumentLabel handle.pathLabel).setStatusMessage "Document loaded"
    document := some handle }

variable [EditorIo σ]

def openWith (options : OpenOptions) : Edit σ Unit := do
  let io ← Proc.okOr (.notSupported "No I/O handler configured") (← get).io
  match ← onIo io (EditorIo.open options) with
  | .ok result => modify (·.loadDocument result.content result.handle)
  | .error .notFound =>
    match options.path with
    | some path => do
      onState (·.setDocumentLabel (some path))
      showStatus ("[New File] " ++ String.ofList path)
    | none => showStatus "[New File]"
  | .error (.permissionDenied reason) => do
    showStatus ("Permission denied: " ++ reason)
    throw (.err (.io (.permissionDenied reason)))
  | .error err => do
    showStatus ("Error: " ++ err.text)
    throw (.err (.io err))

def markSaved (message : String) : Edit σ Unit :=
  onState fun s => { s with dirty := false }.setStatusMessage message

def setDocument (handle : DocumentHandle) : Edit σ Unit := modify fun self => { self with document := some handle }

def saveDocument (drawn : Uuid) : Edit σ VersionId := do
  let self ← get
  match self.io, self.document with
  | some io, some handle => do
    match ← onIo io (EditorIo.save handle self.state.buffer.asString) with
    | .error err => throw (.err (.io err))
    | .ok result => do
      setDocument ⟨result.objectId.getD handle.objectId, result.newVersionId, handle.pathLabel, handle.canUpdateLink⟩
      markSaved result.message
      return result.newVersionId
  | none, none => do
    let newVersion : VersionId := ⟨drawn⟩
    markSaved ("Saved version Version(" ++ newVersion.uuid.text ++ ")")
    return newVersion
  | some _, none => do
    showStatus "No file name (use :w <filename>)"
    throw (.err (.invalidState "No file name"))
  | none, some _ => do
    showStatus "No I/O handler configured"
    throw (.err (.notSupported "No I/O handler configured"))

def saveDocumentAs (path : Text) (drawn : Uuid) : Edit σ VersionId := do
  let self ← get
  let io ← Proc.okOr (.notSupported "No I/O handler configured") self.io
  match ← onIo io (EditorIo.saveAs path self.state.buffer.asString) with
  | .error err => throw (.err (.io err))
  | .ok result => do
    setDocument ⟨result.objectId.getD ⟨drawn⟩, result.newVersionId, some path, true⟩
    markSaved result.message
    return result.newVersionId

/-! ## Keys -/

def handleNormalMode (event : KeyEvent) (s : EditorState) : Option EditorState :=
  match event.code, event.modifiers.isEmpty with
  | .h, true | .left, true => some s.moveCursorLeft
  | .j, true | .down, true => some s.moveCursorDown
  | .k, true | .up, true => some s.moveCursorUp
  | .l, true | .right, true => some s.moveCursorRight
  | .i, true => some ((s.saveUndoSnapshot.setMode .insert).setStatusMessage "")
  | .x, true =>
    let s := s.saveUndoSnapshot
    (s.buffer.deleteChar s.cursor).map fun (changed, buffer) =>
      { s with buffer := buffer, dirty := s.dirty || changed }
  | .u, true =>
    match s.undo with
    | (true, s) => some (s.setStatusMessage "Undo")
    | (false, s) => some (s.setStatusMessage "Already at oldest change")
  | .slash, true => some ((s.setMode .search).setStatusMessage "")
  | .n, true =>
    s.findNext.map fun (found, s) => s.setStatusMessage (if found then "Next match" else "Pattern not found")
  | .r, _ =>
    if event.modifiers.isCtrl then
      match s.redo with
      | (true, s) => some (s.setStatusMessage "Redo")
      | (false, s) => some (s.setStatusMessage "Already at newest change")
    else some s
  | .semicolon, _ => if event.modifiers.isShift then some ((s.setMode .command).setStatusMessage "") else some s
  | _, _ => some s

def handleInsertMode (event : KeyEvent) (s : EditorState) : Option EditorState :=
  match event.code with
  | .escape => some (s.setMode .normal)
  | .enter =>
    (s.buffer.insertNewline s.cursor).map fun
      | (true, buffer) => { s with buffer := buffer, dirty := true, cursor := ⟨s.cursor.row + 1, 0⟩ }
      | (false, buffer) => { s with buffer := buffer }
  | .backspace =>
    (s.buffer.backspace s.cursor).map fun
      | (some newPos, buffer) => { s with buffer := buffer, dirty := true, cursor := newPos }
      | (none, buffer) => { s with buffer := buffer }
  | _ =>
    match event.toChar with
    | some ch =>
      (s.buffer.insertChar s.cursor ch).map fun
        | (true, buffer) => { s with buffer := buffer, dirty := true, cursor.col := s.cursor.col + 1 }
        | (false, buffer) => { s with buffer := buffer }
    | none => some s

def handleSearchMode (event : KeyEvent) (s : EditorState) : Option EditorState :=
  match event.code with
  | .escape => some { s.setMode .normal with searchQuery := [] }
  | .enter =>
    s.findNext.map fun (found, s) =>
      (s.setMode .normal).setStatusMessage (if found then "Match found" else "Pattern not found")
  | .backspace => some { s with searchQuery := s.searchQuery.dropLast }
  | _ =>
    match event.toChar with
    | some ch => some { s with searchQuery := s.searchQuery ++ [ch] }
    | none => some s

def executeCommand (cmdStr : Text) (drawn : Uuid) : Edit σ EditorAction := do
  match ← Proc.ofExcept ((Command.parse cmdStr).mapError EditorError.command) with
  | .write => return .saved (← saveDocument drawn)
  | .writeAs path => return .saved (← saveDocumentAs path drawn)
  | .edit path force =>
    if (← get).state.dirty && !force then
      showStatus "No write since last change (use :w or :e! to discard)"
    else openWith (.withPath path)
    return .continue
  | .quit =>
    if (← get).state.dirty then
      showStatus "Unsaved changes — use :w or :q!"
      return .continue
    else return .quit
  | .forceQuit => return .quit
  | .writeQuit => do
    let _ ← saveDocument drawn
    return .quit

def handleCommandMode (event : KeyEvent) (drawn : Uuid) : Edit σ EditorAction := do
  match event.code with
  | .escape => do
    onState fun s => { s.setMode .normal with commandBuffer := [] }
    return .continue
  | .enter => do
    let cmdStr := (← get).state.commandBuffer
    onState fun s => { s with commandBuffer := [] }.setMode .normal
    executeCommand cmdStr drawn
  | .backspace => do
    onState fun s => { s with commandBuffer := s.commandBuffer.dropLast }
    return .continue
  | _ => do
    if let some ch := event.toChar then onState fun s => { s with commandBuffer := s.commandBuffer ++ [ch] }
    return .continue

def processInput (event : InputEvent) (drawn : Uuid) : Edit σ EditorAction :=
  match event with
  | .key event => do
    if !event.isPressed then return .continue
    match (← get).state.mode with
    | .normal => computed (handleNormalMode event)
    | .insert => computed (handleInsertMode event)
    | .command => handleCommandMode event drawn
    | .search => computed (handleSearchMode event)

/-! ## Views -/

def mainFrame (handle : ViewHandleCap) (timestampNs : Nat) : ViewFrame :=
  (ViewFrame.new handle.viewId .textBuffer self.mainViewRevision (.textBuffer self.state.buffer.lines)
    timestampNs).withCursor ⟨self.state.cursor.row, self.state.cursor.col⟩

def statusFrame (handle : ViewHandleCap) (timestampNs : Nat) : ViewFrame :=
  .new handle.viewId .statusLine self.statusViewRevision (.statusLine (renderStatus self.state)) timestampNs

def publishFrame (handle : ViewHandleCap) (frame : ViewFrame) : Proc (Editor σ × ViewHost) EditorError Unit := do
  let (self, viewHost) ← get
  let viewHost ← Proc.ofExcept ((viewHost.publishFrame handle frame).mapError fun e => .viewError e.text)
  set (self, viewHost)

/-- A revision is used up only by a frame that the host took. -/
def publishViews (timestampNs : Nat) : Proc (Editor σ × ViewHost) EditorError Unit := do
  let (self, _) ← get
  if let some handle := self.mainViewHandle then
    publishFrame handle (self.mainFrame handle timestampNs)
    modify fun (self, viewHost) => ({ self with mainViewRevision := self.mainViewRevision + 1 }, viewHost)
  if let some handle := self.statusViewHandle then
    publishFrame handle (self.statusFrame handle timestampNs)
    modify fun (self, viewHost) => ({ self with statusViewRevision := self.statusViewRevision + 1 }, viewHost)

/-! ## Runs -/

inductive Call where
  | newDocument
  | loadDocument (content : Text) (handle : DocumentHandle)
  | openWith (options : OpenOptions)
  | processInput (event : InputEvent) (drawn : Uuid)
  | saveCurrentDocument (drawn : Uuid)

def perform : Call → Edit σ Unit
  | .newDocument => modify (·.newDocument)
  | .loadDocument content handle => modify (·.loadDocument content handle)
  | .openWith options => openWith options
  | .processInput event drawn => do
    let _ ← processInput event drawn
  | .saveCurrentDocument drawn => do
    let _ ← saveDocument drawn

def machine : Machine (Editor σ) Call (Except EditorError Unit) := ⟨fun self c => (perform c).call self⟩

end Editor

end PandaGen.Vi
