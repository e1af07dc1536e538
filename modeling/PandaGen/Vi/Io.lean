import PandaGen.Fs.View
import PandaGen.Storage.JournaledStorage

/-!
# Documents of the vi editor

`services_editor_vi/src/io.rs`: the interface through which the editor opens and saves documents, and its
implementation on a journaled storage.
-/

namespace PandaGen.Vi

open Lib Storage Fs

inductive IoError where
  | notFound
  | permissionDenied (reason : String)
  | storageError (msg : String)
  | invalidUtf8
  deriving DecidableEq

def IoError.text : IoError → String
  | .notFound => "Document not found"
  | .permissionDenied reason => "Permission denied: " ++ reason
  | .storageError msg => "Storage error: " ++ msg
  | .invalidUtf8 => "Invalid UTF-8 content"

structure DocumentHandle where
  objectId : ObjectId
  versionId : VersionId
  pathLabel : Option Text
  canUpdateLink : Bool

structure OpenOptions where
  path : Option Text
  objectId : Option ObjectId

/-- `OpenOptions::new().with_path(path)` -/
def OpenOptions.withPath (path : Text) : OpenOptions := ⟨some path, none⟩

structure SaveResult where
  newVersionId : VersionId
  linkUpdated : Bool
  message : String
  objectId : Option ObjectId

structure OpenResult where
  content : Text
  handle : DocumentHandle

/-- The trait `EditorIo`. -/
class EditorIo (σ : Type) where
  «open» : OpenOptions → Proc σ IoError OpenResult
  save : DocumentHandle → Text → Proc σ IoError SaveResult
  saveAs : Text → Text → Proc σ IoError SaveResult

/-! ## Documents in a storage -/

/-- `str::as_bytes` -/
def asBytes (content : Text) : List UInt8 := content.flatMap String.utf8EncodeChar

/-- `String::from_utf8` -/
def fromUtf8 (data : List UInt8) : Option Text := data.toByteArray.utf8Decode?.map Array.toList

def transactionErrorText : TransactionError → String
  | .conflict msg => "Transaction conflict on object " ++ msg
  | .objectNotFound msg => "Object not found: " ++ msg
  | .alreadyFinalized => "Transaction already finalized"
  | .invalidOperation msg => "Invalid operation: " ++ msg
  | .storageError msg => "Storage error: " ++ msg

/-- The storage, the names in it, and the identifiers that are drawn from `drawn` on. -/
structure StorageEditorIo where
  storage : JournaledStorage
  fsView : Option FileSystemViewService
  root : Option DirectoryView
  ids : Nat → Uuid
  drawn : Nat

namespace StorageEditorIo

def mapTxError : TransactionError → IoError
  | .objectNotFound _ => .notFound
  | other => .storageError (transactionErrorText other)

def newUuid : Proc StorageEditorIo IoError Uuid := do
  let self ← get
  set { self with drawn := self.drawn + 1 }
  return self.ids self.drawn

def beginTransaction : Proc StorageEditorIo IoError Transaction := do
  return .new ⟨← newUuid⟩

def onStorage {α : Type} (m : Proc JournaledStorage TransactionError α) : Proc StorageEditorIo IoError α :=
  (m.zoom StorageEditorIo.storage fun storage self => { self with storage }).mapErr mapTxError

def resolve (self : StorageEditorIo) (path : Text) : Except IoError ObjectId :=
  match self.fsView, self.root with
  | none, _ => .error (.permissionDenied "No fs_view available")
  | some _, none => .error (.permissionDenied "No root directory")
  | some fs, some root =>
    match fs.open root path with
    | .ok id => .ok id
    | .error (.notFound _) => .error .notFound
    | .error err => .error (.storageError err.text)

def «open» (options : OpenOptions) : Proc StorageEditorIo IoError OpenResult := do
  let self ← get
  let objectId ← Proc.ofExcept (match options.objectId, options.path with
    | some objectId, _ => .ok objectId
    | none, some path => self.resolve path
    | none, none => .error .notFound)
  let tx ← beginTransaction
  let versionId ← Proc.ofExcept ((self.storage.read tx objectId).mapError mapTxError)
  let data ← Proc.ofExcept ((self.storage.readData tx objectId).mapError mapTxError)
  let _ ← (onStorage (JournaledStorage.rollback tx)).attempt
  match fromUtf8 data with
  | none => throw (.err .invalidUtf8)
  | some content => return ⟨content, ⟨objectId, versionId, options.path, self.fsView.isSome⟩⟩

def writeContent (objectId : ObjectId) (content : Text) : Proc StorageEditorIo IoError VersionId := do
  let tx ← beginTransaction
  let (versionId, tx) ← onStorage (JournaledStorage.write tx objectId ⟨← newUuid⟩ (asBytes content))
  let _ ← onStorage (JournaledStorage.commit tx)
  return versionId

def save (handle : DocumentHandle) (content : Text) : Proc StorageEditorIo IoError SaveResult := do
  let newVersionId ← writeContent handle.objectId content
  return ⟨newVersionId, false, "Saved successfully", some handle.objectId⟩

def saveAs (path content : Text) : Proc StorageEditorIo IoError SaveResult := do
  let self ← get
  let fs ← Proc.okOr (.permissionDenied "No fs_view available") self.fsView
  let root ← Proc.okOr (.permissionDenied "No root directory") self.root
  let tx ← beginTransaction
  let objectId : ObjectId := ⟨← newUuid⟩
  let (versionId, tx) ← onStorage (JournaledStorage.write tx objectId ⟨← newUuid⟩ (asBytes content))
  let _ ← onStorage (JournaledStorage.commit tx)
  let name := (path.splitOn '/').getLast?.getD path
  match fs.link root name objectId .blob with
  | .error err => throw (.err (.storageError ("Failed to link file: " ++ err.text)))
  | .ok (fs, root) => do
    modify fun self => { self with fsView := some fs, root := some root }
    return ⟨versionId, true, "Saved as: " ++ String.ofList path, some objectId⟩

instance : EditorIo StorageEditorIo := ⟨StorageEditorIo.open, save, saveAs⟩

end StorageEditorIo

end PandaGen.Vi
