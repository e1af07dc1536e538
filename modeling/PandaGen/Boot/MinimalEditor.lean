import PandaGen.Editor.Core
import PandaGen.Storage.PersistentFs
import PandaGen.Vi.Io

/-!
# The editor of the bare kernel

`kernel_bootstrap/src/{bare_metal_storage,bare_metal_editor_io,minimal_editor}.rs`: files by name in the root directory,
the documents of an editor, and the editor that reads one byte after the other. `none` is a panic.
-/

namespace PandaGen.Boot

open Lib Hal Storage Editor

structure FileDraw where
  lookupTx : TransactionId
  readTx : TransactionId
  unlinked : Draw
  fileId : ObjectId
  written : Draw
  linked : Draw

/-! ## Files -/

abbrev BareMetalFilesystem (D : Type) := PersistentFilesystem D

namespace BareMetalFilesystem

variable {D : Type} [BlockDevice D] [SerdeDebug PersistentDirectory] (draw : FileDraw)

def onFs {α : Type} (m : ObjectId → Proc (BlockStorage D) TransactionError α) :
    Proc (BareMetalFilesystem D) TransactionError α := do
  let self ← get
  (m self.rootDirId).zoom PersistentFilesystem.storage fun storage self => { self with storage }

def readFileByName (name : Text) : Proc (BareMetalFilesystem D) TransactionError (List UInt8) := do
  let dir ← onFs (PersistentFilesystem.readDirectory draw.lookupTx)
  let entry ← Proc.okOr (.storageError "File not found") dir.entries[String.ofList name]?
  onFs fun _ => PersistentFilesystem.readFile draw.readTx entry.objectId

variable [DiskFormat]

def createFile (name : Text) (content : List UInt8) : Proc (BareMetalFilesystem D) TransactionError ObjectId := do
  let fileId ← onFs fun _ => PersistentFilesystem.writeFile draw.fileId draw.written content
  onFs fun rootId => PersistentFilesystem.link draw.readTx draw.linked (String.ofList name) rootId fileId .blob 0
  return fileId

def writeFileByName (name : Text) (content : List UInt8) : Proc (BareMetalFilesystem D) TransactionError ObjectId := do
  let _ ← (onFs fun rootId =>
    PersistentFilesystem.unlink draw.lookupTx draw.unlinked (String.ofList name) rootId 0).attempt
  createFile draw name content

end BareMetalFilesystem

/-! ## Documents -/

inductive EditorIoError where
  | notFound
  | storageError (cause : TransactionError)
  | noPath
  | invalidUtf8

/-- An error that is not `NotFound` is kept as it is. The source stores its `Debug` text, which nothing reads. -/
def EditorIoError.ofTransaction : TransactionError → EditorIoError
  | .objectNotFound _ => .notFound
  | other => .storageError other

structure DocumentHandle where
  objectId : Option ObjectId
  path : Option Text

namespace BareMetalEditorIo

open BareMetalFilesystem

variable {D : Type} [BlockDevice D] [SerdeDebug PersistentDirectory] [DiskFormat] (draw : FileDraw)

def save (handle : DocumentHandle) (content : Text) : Proc (BareMetalFilesystem D) EditorIoError Text :=
  match handle.path with
  | some path => do
    let _ ← (writeFileByName draw path (Vi.asBytes content)).mapErr .ofTransaction
    return "Saved to ".toList ++ path
  | none => throw (.err .noPath)

def saveAs (path content : Text) : Proc (BareMetalFilesystem D) EditorIoError (Text × DocumentHandle) := do
  let objectId ← (writeFileByName draw path (Vi.asBytes content)).mapErr .ofTransaction
  return ("Saved as ".toList ++ path, ⟨some objectId, some path⟩)

end BareMetalEditorIo

/-! ## The editor -/

structure MinimalEditor (D : Type) where
  core : EditorCore
  viewportRows : Nat
  scrollOffset : Nat
  status : Text
  editorIo : Option (BareMetalFilesystem D)
  document : Option DocumentHandle

namespace MinimalEditor

variable {D : Type}

def new (viewportRows : Nat) : MinimalEditor D := ⟨.new, viewportRows, 0, [], none, none⟩

variable (e : MinimalEditor D)

def setEditorIo (io : BareMetalFilesystem D) (handle : DocumentHandle) : MinimalEditor D :=
  { e with editorIo := some io, document := some handle }

def loadContent (e : MinimalEditor D) (content : Text) : MinimalEditor D :=
  { e with core := (e.core.loadContent content).markSaved }

def adjustViewport : Option (MinimalEditor D) :=
  let cursorRow := e.core.cursor.row
  if cursorRow < e.scrollOffset then some { e with scrollOffset := cursorRow }
  else if cursorRow ≥ e.scrollOffset + e.viewportRows then
    if e.viewportRows = 0 then none else some { e with scrollOffset := cursorRow - (e.viewportRows - 1) }
  else some e

def refreshPromptStatus : MinimalEditor D :=
  if e.status ≠ [] then e
  else
    match e.core.mode with
    | .command => { e with status := ':' :: e.core.commandBuffer }
    | .search => { e with status := '/' :: e.core.searchQuery }
    | _ => e

variable [BlockDevice D] [SerdeDebug PersistentDirectory] [DiskFormat]

def failedToSave : Text := "Error: failed to save file".toList

def handleIo (draw : FileDraw) (request : CoreIoRequest) : Option (Bool × MinimalEditor D) :=
  let content := e.core.buffer.asString
  match e.editorIo with
  | some io =>
    match request, e.document with
    | .save, some handle => ((BareMetalEditorIo.save draw handle content).call io).map fun
        | (.ok msg, io) => (false, { e with editorIo := some io, status := msg, core := e.core.markSaved })
        | (.error _, io) => (false, { e with editorIo := some io, status := failedToSave })
    | .save, none => some (false, { e with status := "Error: no file path (use :w <path>)".toList })
    | .saveAs path, _ => ((BareMetalEditorIo.saveAs draw path content).call io).map fun
        | (.ok (msg, handle), io) =>
          (false, { e with
            editorIo := some io, status := msg, document := some handle, core := e.core.markSaved })
        | (.error _, io) => (false, { e with editorIo := some io, status := failedToSave })
    -- the result of the save is not looked at
    | .saveAndQuit, some handle => ((BareMetalEditorIo.save draw handle content).call io).map fun (_, io) =>
      (true, { e with editorIo := some io })
    | .saveAndQuit, none => some (true, e)
  | none =>
    let e := { e with status := "Filesystem unavailable".toList }
    match request with
    | .save | .saveAs _ => some (false, { e with core := e.core.markSaved })
    | .saveAndQuit => some (true, e)

def handleOutcome (draw : FileDraw) : CoreOutcome → Option (Bool × MinimalEditor D)
  | .continue => some (false, e)
  | .changed => e.adjustViewport.map fun e => (false, e)
  | .requestExit _ => some (true, e)
  | .statusMessage msg => some (false, { e with status := msg })
  | .requestIo request => e.handleIo draw request

def processByte (draw : FileDraw) (byte : UInt8) : Option (Bool × MinimalEditor D) :=
  let e := { e with status := [] }
  match Key.fromAscii byte with
  | none => some (false, e)
  | some key =>
    match e.core.applyKey key with
    | none => none
    | some (outcome, core) => (handleOutcome { e with core := core } draw outcome).map fun (shouldQuit, e) =>
      (shouldQuit, if shouldQuit then e else e.refreshPromptStatus)

def getViewportCursor : Option Position :=
  let cursor := e.core.cursor
  if cursor.row ≥ e.scrollOffset ∧ cursor.row < e.scrollOffset + e.viewportRows then
    some ⟨cursor.row - e.scrollOffset, cursor.col⟩
  else none

inductive Call (D : Type) where
  | setEditorIo (io : BareMetalFilesystem D) (handle : DocumentHandle)
  | loadContent (content : Text)
  | processByte (draw : FileDraw) (byte : UInt8)

def machine : Machine (MinimalEditor D) (Call D) Bool where
  step e
    | .setEditorIo io handle => some (false, e.setEditorIo io handle)
    | .loadContent content => some (false, e.loadContent content)
    | .processByte draw byte => e.processByte draw byte

end MinimalEditor

end PandaGen.Boot
