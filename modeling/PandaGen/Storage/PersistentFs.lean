import PandaGen.Lib.Machine
import PandaGen.Storage.BlockStorage

/-!
# Persistent filesystem (`services_storage/src/persistent_fs.rs`)

Directories and files are objects of a block storage. A directory is stored as its JSON text, under a new
version at every change. The methods act on `self.storage`; `root_dir_id` never changes.
-/

namespace PandaGen.Storage

open Hal Lib

structure DirectoryEntry where
  name : String
  objectId : ObjectId
  kind : ObjectKind
  deriving DecidableEq

structure DirectoryMetadata where
  createdAt : Nat
  modifiedAt : Nat
  owner : String

structure PersistentDirectory where
  entries : BTreeMap String DirectoryEntry
  parent : Option ObjectId
  metadata : DirectoryMetadata

namespace PersistentDirectory

def new (owner : String) (timestamp : Nat) : PersistentDirectory := ⟨∅, none, ⟨timestamp, timestamp, owner⟩⟩

def addEntry (dir : PersistentDirectory) (name : String) (entry : DirectoryEntry) (timestamp : Nat) :
    PersistentDirectory :=
  { dir with entries := dir.entries.insert name entry, metadata.modifiedAt := timestamp }

def removeEntry (dir : PersistentDirectory) (name : String) (timestamp : Nat) :
    Option DirectoryEntry × PersistentDirectory :=
  let entry := dir.entries[name]?
  let dir := { dir with entries := dir.entries.erase name }
  (entry, if entry.isSome then { dir with metadata.modifiedAt := timestamp } else dir)

def listEntries (dir : PersistentDirectory) : List (String × DirectoryEntry) := dir.entries.toList

end PersistentDirectory

structure Draw where
  tx : TransactionId
  version : VersionId

structure PersistentFilesystem (D : Type) where
  storage : BlockStorage D
  rootDirId : ObjectId

namespace PersistentFilesystem

variable {D : Type} [BlockDevice D]

def readObject (tx : TransactionId) (objectId : ObjectId) :
    Proc (BlockStorage D) TransactionError (List UInt8) := do
  let s ← get
  match s.read (Transaction.new tx) objectId with
  | .error e => throw (.err e)
  | .ok versionId =>
    (BlockStorage.readObjectData objectId versionId).mapErr fun e =>
      .storageError ("read data failed: " ++ e.debug)

variable [DiskFormat]

def writeObject (draw : Draw) (objectId : ObjectId) (data : List UInt8) :
    Proc (BlockStorage D) TransactionError VersionId := do
  let tx := Transaction.new draw.tx
  let versionId ← BlockStorage.write tx objectId draw.version data
  let _ ← BlockStorage.commit tx
  pure versionId

def writeFile (fileId : ObjectId) (draw : Draw) (content : List UInt8) :
    Proc (BlockStorage D) TransactionError ObjectId := do
  let _ ← writeObject draw fileId content
  pure fileId

def readFile (tx : TransactionId) (fileId : ObjectId) : Proc (BlockStorage D) TransactionError (List UInt8) :=
  readObject tx fileId

/-! ## Directories -/

variable [SerdeDebug PersistentDirectory]

def readDirectory (tx : TransactionId) (dirId : ObjectId) :
    Proc (BlockStorage D) TransactionError PersistentDirectory := do
  let data ← readObject tx dirId
  Proc.okOr (.storageError ("deserialize failed: " ++ fromSliceError PersistentDirectory data)) (fromSlice data)

def writeDirectory (draw : Draw) (dirId : ObjectId) (dir : PersistentDirectory) :
    Proc (BlockStorage D) TransactionError VersionId := do
  let dirJson ← Proc.okOr (.storageError ("serialize failed: " ++ toVecError dir)) (toVec dir)
  writeObject draw dirId dirJson

def mkdir (newDirId : ObjectId) (created : Draw) (readTx : TransactionId) (linked : Draw) (name : String)
    (parentDirId : ObjectId) (owner : String) (timestamp : Nat) :
    Proc (BlockStorage D) TransactionError ObjectId := do
  let newDir := { PersistentDirectory.new owner timestamp with parent := some parentDirId }
  let _ ← writeDirectory created newDirId newDir
  let parent ← readDirectory readTx parentDirId
  let entry : DirectoryEntry := ⟨name, newDirId, .map⟩
  let _ ← writeDirectory linked parentDirId (parent.addEntry entry.name entry timestamp)
  pure newDirId

def link (readTx : TransactionId) (draw : Draw) (name : String) (dirId objectId : ObjectId) (kind : ObjectKind)
    (timestamp : Nat) : Proc (BlockStorage D) TransactionError Unit := do
  let dir ← readDirectory readTx dirId
  let entry : DirectoryEntry := ⟨name, objectId, kind⟩
  let _ ← writeDirectory draw dirId (dir.addEntry entry.name entry timestamp)
  pure ()

def unlink (readTx : TransactionId) (draw : Draw) (name : String) (dirId : ObjectId) (timestamp : Nat) :
    Proc (BlockStorage D) TransactionError (Option DirectoryEntry) := do
  let dir ← readDirectory readTx dirId
  let (entry, dir) := dir.removeEntry name timestamp
  let _ ← writeDirectory draw dirId dir
  pure entry

def list (tx : TransactionId) (dirId : ObjectId) :
    Proc (BlockStorage D) TransactionError (List (String × DirectoryEntry)) := do
  let dir ← readDirectory tx dirId
  pure dir.listEntries

/-! ## Filesystems -/

def format (device : D) (owner : String) (rootDirId : ObjectId) (draw : Draw) :
    Except (Fault TransactionError) (PersistentFilesystem D) :=
  match BlockStorage.format device with
  | .error .panic => .error .panic
  | .error (.err e) => .error (.err (.storageError ("format failed: " ++ e.debug)))
  | .ok storage =>
    match (writeDirectory draw rootDirId (PersistentDirectory.new owner 0)).exec storage with
    | (.error e, _) => .error e
    | (.ok _, storage) => .ok ⟨storage, rootDirId⟩

inductive Call where
  | mkdir (newDirId : ObjectId) (created : Draw) (readTx : TransactionId) (linked : Draw) (name : String)
      (parentDirId : ObjectId) (owner : String) (timestamp : Nat)
  | link (readTx : TransactionId) (draw : Draw) (name : String) (dirId objectId : ObjectId) (kind : ObjectKind)
      (timestamp : Nat)
  | unlink (readTx : TransactionId) (draw : Draw) (name : String) (dirId : ObjectId) (timestamp : Nat)
  | list (tx : TransactionId) (dirId : ObjectId)
  | writeFile (fileId : ObjectId) (draw : Draw) (content : List UInt8)
  | readFile (tx : TransactionId) (fileId : ObjectId)
  | readDirectory (tx : TransactionId) (dirId : ObjectId)

inductive Reply where
  | created (id : ObjectId)
  | linked
  | unlinked (entry : Option DirectoryEntry)
  | listing (entries : List (String × DirectoryEntry))
  | contents (bytes : List UInt8)
  | directory (dir : PersistentDirectory)

def run : Call → Proc (BlockStorage D) TransactionError Reply
  | .mkdir newDirId created readTx linked name parentDirId owner timestamp =>
    Reply.created <$> mkdir newDirId created readTx linked name parentDirId owner timestamp
  | .link readTx draw name dirId objectId kind timestamp =>
    (fun _ => Reply.linked) <$> link readTx draw name dirId objectId kind timestamp
  | .unlink readTx draw name dirId timestamp => Reply.unlinked <$> unlink readTx draw name dirId timestamp
  | .list tx dirId => Reply.listing <$> list tx dirId
  | .writeFile fileId draw content => Reply.created <$> writeFile fileId draw content
  | .readFile tx fileId => Reply.contents <$> readFile tx fileId
  | .readDirectory tx dirId => Reply.directory <$> readDirectory tx dirId

/-- One call. A call that panics ends the run. -/
def step (fs : PersistentFilesystem D) (call : Call) :
    Option (Except TransactionError Reply × PersistentFilesystem D) :=
  match (run call).exec fs.storage with
  | (.ok r, s) => some (.ok r, { fs with storage := s })
  | (.error (.err e), s) => some (.error e, { fs with storage := s })
  | (.error .panic, _) => none

variable (D) in
def machine : Machine (PersistentFilesystem D) Call (Except TransactionError Reply) := ⟨step⟩

end PersistentFilesystem

end PandaGen.Storage
