import PandaGen.Fs.View
import PandaGen.Input.Events
import PandaGen.View.Host

/-!
# The file picker

`services_file_picker/src/{lib,render}.rs`.
-/

namespace PandaGen.Workspace

open Lib Input View Storage Fs

inductive FilePickerResult where
  | fileSelected (objectId : ObjectId) (name : String)
  | cancelled
  | continue

structure FilePicker where
  currentDirectory : DirectoryView
  entries : List Fs.DirectoryEntry
  selectedIndex : Nat
  directoryStack : List DirectoryView

namespace FilePicker

variable (self : FilePicker)

/-- The entries of a directory come by name, so that only the directories have to go first. -/
def refreshEntries : FilePicker :=
  let listed := self.currentDirectory.listEntries
  let entries := listed.filter (·.kind = .map) ++ listed.filter (·.kind ≠ .map)
  { self with entries, selectedIndex := if self.selectedIndex ≥ entries.length then 0 else self.selectedIndex }

def new (root : DirectoryView) : FilePicker := refreshEntries ⟨root, [], 0, []⟩

def moveSelectionUp : FilePicker :=
  if self.entries = [] then self
  else { self with
    selectedIndex := if self.selectedIndex = 0 then self.entries.length - 1 else self.selectedIndex - 1 }

def moveSelectionDown : FilePicker :=
  if self.entries = [] then self else { self with selectedIndex := (self.selectedIndex + 1) % self.entries.length }

/-- The index is that of an entry, since every change of the entries checks it. -/
def handleSelection (resolver : Option FileSystemViewService) : FilePickerResult × FilePicker :=
  match self.entries[self.selectedIndex]? with
  | none => (.continue, self)
  | some selected =>
    if selected.kind = .map then
      match resolver.bind (·.resolveDirectory selected.objectId) with
      | none => (.continue, self)
      | some subdir =>
        (.continue, refreshEntries { self with
          directoryStack := self.directoryStack ++ [self.currentDirectory]
          currentDirectory := subdir })
    else (.fileSelected selected.objectId selected.name, self)

def handleBack : FilePickerResult × FilePicker :=
  match self.directoryStack.getLast? with
  | some parentDir =>
    (.continue, refreshEntries { self with
      directoryStack := self.directoryStack.dropLast
      currentDirectory := parentDir })
  | none => (.cancelled, self)

def processInput (event : InputEvent) (resolver : Option FileSystemViewService) : FilePickerResult × FilePicker :=
  match event with
  | .key event =>
    if !event.isPressed then (.continue, self)
    else
      match event.code with
      | .up => (.continue, self.moveSelectionUp)
      | .down => (.continue, self.moveSelectionDown)
      | .enter => self.handleSelection resolver
      | .escape => self.handleBack
      | _ => (.continue, self)

/-! ## Views -/

def formatEntry (entry : Fs.DirectoryEntry) (isSelected : Bool) : Text :=
  (if isSelected then "> ".toList else "  ".toList) ++ entry.name.toList ++ (if entry.kind = .map then ['/'] else [' '])

def renderLines : List Text :=
  if self.entries = [] then ["(empty directory)".toList]
  else self.entries.mapIdx fun index entry => formatEntry entry (index = self.selectedIndex)

def renderTextBuffer (viewId : ViewId) (revision timestampNs : Nat) : ViewFrame :=
  (ViewFrame.new viewId .textBuffer revision (.textBuffer self.renderLines) timestampNs).withCursor
    ⟨self.selectedIndex, 0⟩

def statusText (breadcrumb : String) : String :=
  if self.entries = [] then breadcrumb ++ " — Empty"
  else breadcrumb ++ " — " ++ toString (self.selectedIndex + 1) ++ " of " ++ toString self.entries.length ++ " items"

def renderStatusLine (viewId : ViewId) (revision timestampNs : Nat) (breadcrumb : String) : ViewFrame :=
  .new viewId .statusLine revision (.statusLine (self.statusText breadcrumb).toList) timestampNs

end FilePicker

end PandaGen.Workspace
