import PandaGen.Input.Events
import PandaGen.View.Host

/-!
# The line console

`InlineConsole` of `services_workspace_manager/src/lib.rs`: the console of command lines, pipelines and custom
components. Its cursor is a byte position; `none` is a panic.
-/

namespace PandaGen.Workspace

open Lib Input View

def componentIdText (id : ComponentId) : String := "comp:" ++ id.uuid.text

structure InlineConsole where
  prompt : Text
  inputBuffer : Text
  cursorPos : Nat
  history : List Text
  historyPos : Option Nat
  outputLines : List Text
  nextMainRevision : Nat
  nextStatusRevision : Nat

namespace InlineConsole

def maxOutputLines : Nat := 256

def new (prompt : String) (welcomeLines : List String) : InlineConsole where
  prompt := prompt.toList
  inputBuffer := []
  cursorPos := 0
  history := []
  historyPos := none
  outputLines := welcomeLines.map String.toList
  nextMainRevision := 1
  nextStatusRevision := 1

variable (self : InlineConsole)

def trimOutput : InlineConsole :=
  if self.outputLines.length > maxOutputLines then
    { self with outputLines := self.outputLines.drop (self.outputLines.length - maxOutputLines) }
  else self

def pushOutputLines (lines : List Text) : InlineConsole :=
  trimOutput { self with outputLines := self.outputLines ++ lines }

def clearInput : InlineConsole :=
  { self with inputBuffer := [], cursorPos := 0, historyPos := none }

def recallAt (pos : Nat) : Option InlineConsole :=
  self.history[pos]?.map fun entry =>
    { self with historyPos := some pos, inputBuffer := entry, cursorPos := entry.byteLength }

def typeChar (key : KeyEvent) : Option InlineConsole :=
  match key.toChar with
  | some ch =>
    (self.inputBuffer.insert self.cursorPos ch).map fun inputBuffer =>
      { self with inputBuffer, cursorPos := self.cursorPos + 1, historyPos := none }
  | none => some self

def handleKey (key : KeyEvent) : Option (Option Text × InlineConsole) :=
  match key.code with
  | .enter =>
    let command := self.inputBuffer
    let history := if command.words ≠ [] then self.history ++ [command] else self.history
    some (some command, clearInput { self with history })
  | .backspace =>
    if self.cursorPos > 0 ∧ self.cursorPos ≤ self.inputBuffer.byteLength then
      (self.inputBuffer.remove (self.cursorPos - 1)).map fun inputBuffer =>
        (none, { self with inputBuffer, cursorPos := self.cursorPos - 1 })
    else some (none, self)
  | .delete =>
    if self.cursorPos < self.inputBuffer.byteLength then
      (self.inputBuffer.remove self.cursorPos).map fun inputBuffer => (none, { self with inputBuffer })
    else some (none, self)
  | .left => some (none, if self.cursorPos > 0 then { self with cursorPos := self.cursorPos - 1 } else self)
  | .right =>
    some (none, if self.cursorPos < self.inputBuffer.byteLength then { self with cursorPos := self.cursorPos + 1 }
      else self)
  | .home => some (none, { self with cursorPos := 0 })
  | .end => some (none, { self with cursorPos := self.inputBuffer.byteLength })
  | .escape => some (none, self.clearInput)
  | .up =>
    if self.history = [] then some (none, self)
    else (self.recallAt (self.historyPos.elim (self.history.length - 1) (· - 1))).map (none, ·)
  | .down =>
    match self.historyPos with
    | none => some (none, self)
    | some pos =>
      if pos + 1 < self.history.length then (self.recallAt (pos + 1)).map (none, ·)
      else some (none, self.clearInput)
  | _ => (self.typeChar key).map (none, ·)

def processInput (event : InputEvent) : Option (Option Text × InlineConsole) :=
  match event with
  | .key key =>
    if !key.isPressed then some (none, self)
    else
      match key.modifiers.isCtrl, key.code with
      | true, .c => some (none, self.clearInput)
      | true, .l => some (none, trimOutput { self with outputLines := [] })
      | _, _ => self.handleKey key

/-! ## Views -/

def mainFrame (view : ViewId) (timestampNs : Nat) (componentId : ComponentId) : ViewFrame :=
  ((ViewFrame.new view .textBuffer self.nextMainRevision
    (.textBuffer (self.outputLines ++ [self.prompt ++ self.inputBuffer])) timestampNs).withCursor
      ⟨self.outputLines.length, self.prompt.byteLength + self.cursorPos⟩).withComponentId (componentIdText componentId)

def statusText (statusLabel : String) : String :=
  statusLabel ++ " | lines:" ++ toString self.outputLines.length ++ " | history:" ++ toString self.history.length

def statusFrame (view : ViewId) (timestampNs : Nat) (componentId : ComponentId) (statusLabel : String) : ViewFrame :=
  (ViewFrame.new view .statusLine self.nextStatusRevision (.statusLine (self.statusText statusLabel).toList)
    timestampNs).withComponentId (componentIdText componentId)

/-- A frame that the host refuses is dropped, and its revision is used up as well. -/
def publishViews (viewHost : ViewHost) (mainView statusView : ViewHandleCap) (timestampNs : Nat)
    (componentId : ComponentId) (statusLabel : String) : InlineConsole × ViewHost :=
  let viewHost := viewHost.offerFrame mainView (self.mainFrame mainView.viewId timestampNs componentId)
  let viewHost := viewHost.offerFrame statusView
    (self.statusFrame statusView.viewId timestampNs componentId statusLabel)
  ({ self with
    nextMainRevision := self.nextMainRevision + 1
    nextStatusRevision := self.nextStatusRevision + 1 }, viewHost)

end InlineConsole

end PandaGen.Workspace
