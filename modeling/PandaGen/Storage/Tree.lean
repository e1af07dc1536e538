import PandaGen.Storage.PersistentFs

/-!
# Directories and files

What the persistent filesystem is for: a map from identifiers to directories and files. Objects carry no
mark of their kind, so one that is named as the other kind is taken through its JSON text.
-/

namespace PandaGen.Storage

@[ext] structure Directory where
  entries : String → Option DirectoryEntry
  parent : Option ObjectId
  metadata : DirectoryMetadata

namespace Directory

def empty (owner : String) (timestamp : Nat) (parent : Option ObjectId) : Directory :=
  ⟨fun _ => none, parent, ⟨timestamp, timestamp, owner⟩⟩

def link (d : Directory) (entry : DirectoryEntry) (timestamp : Nat) : Directory :=
  { d with
    entries := Function.update d.entries entry.name (some entry)
    metadata := { d.metadata with modifiedAt := timestamp } }

def unlink (d : Directory) (name : String) (timestamp : Nat) : Directory :=
  { d with
    entries := Function.update d.entries name none
    metadata := if (d.entries name).isSome then { d.metadata with modifiedAt := timestamp } else d.metadata }

end Directory

/-- The entries `es` are those of `entries`, in the order of their names. -/
def Lists (entries : String → Option DirectoryEntry) (es : List (String × DirectoryEntry)) : Prop :=
  es.Pairwise (fun a b => a.1 < b.1) ∧ ∀ name e, (name, e) ∈ es ↔ entries name = some e

def PersistentDirectory.toDirectory (dir : PersistentDirectory) : Directory :=
  ⟨fun name => dir.entries[name]?, dir.parent, dir.metadata⟩

inductive Node where
  | directory (d : Directory)
  | file (bytes : List UInt8)

abbrev Tree := ObjectId → Option Node

open PersistentFilesystem

section

variable [SerdeJson PersistentDirectory]

def Node.HasText : Node → List UInt8 → Prop
  | .directory d, text => ∃ dir : PersistentDirectory, dir.toDirectory = d ∧ toVec dir = some text
  | .file bytes, text => text = bytes

/-- The directory that an object is, or that a file holds as its text. -/
def Node.Shows : Node → Directory → Prop
  | .directory d, d' => d' = d
  | .file bytes, d' => ∃ dir : PersistentDirectory, fromSlice bytes = some dir ∧ d' = dir.toDirectory

namespace Tree

def HasText (m : Tree) (id : ObjectId) (text : List UInt8) : Prop := ∃ node, m id = some node ∧ node.HasText text

def Shows (m : Tree) (id : ObjectId) (d : Directory) : Prop := ∃ node, m id = some node ∧ node.Shows d

def set (m : Tree) (id : ObjectId) (node : Node) : Tree := Function.update m id (some node)

omit [SerdeJson PersistentDirectory] in
theorem set_self (m : Tree) (id node) : m.set id node id = some node := Function.update_self ..

def Finds (m : Tree) : Call → Prop
  | .list _ dirId | .readDirectory _ dirId => ∃ d, m.Shows dirId d
  | .readFile _ fileId => ∃ text, m.HasText fileId text
  | _ => False

/-- What a call may return, and what it does. A call that fails changes nothing, except that `mkdir` may
leave the new directory without an entry that leads to it. Reads of objects that are there do not fail. -/
inductive Step (m : Tree) : Call → Except TransactionError Reply → Tree → Prop
  | failed {call e} : ¬ m.Finds call → Step m call (.error e) m
  | orphaned {newDirId created readTx linked name parentDirId owner timestamp e} :
      Step m (.mkdir newDirId created readTx linked name parentDirId owner timestamp) (.error e)
        (m.set newDirId (.directory (.empty owner timestamp (some parentDirId))))
  | mkdir {newDirId created readTx linked name parentDirId owner timestamp d} :
      (m.set newDirId (.directory (.empty owner timestamp (some parentDirId)))).Shows parentDirId d →
      Step m (.mkdir newDirId created readTx linked name parentDirId owner timestamp) (.ok (.created newDirId))
        ((m.set newDirId (.directory (.empty owner timestamp (some parentDirId)))).set parentDirId
          (.directory (d.link ⟨name, newDirId, .map⟩ timestamp)))
  | link {readTx draw name dirId objectId kind timestamp d} : m.Shows dirId d →
      Step m (.link readTx draw name dirId objectId kind timestamp) (.ok .linked)
        (m.set dirId (.directory (d.link ⟨name, objectId, kind⟩ timestamp)))
  | unlink {readTx draw name dirId timestamp d} : m.Shows dirId d →
      Step m (.unlink readTx draw name dirId timestamp) (.ok (.unlinked (d.entries name)))
        (m.set dirId (.directory (d.unlink name timestamp)))
  | list {tx dirId d es} : m.Shows dirId d → Lists d.entries es →
      Step m (.list tx dirId) (.ok (.listing es)) m
  | writeFile {fileId draw content} :
      Step m (.writeFile fileId draw content) (.ok (.created fileId)) (m.set fileId (.file content))
  | readFile {tx fileId text} : m.HasText fileId text → Step m (.readFile tx fileId) (.ok (.contents text)) m
  | readDirectory {tx dirId} {dir : PersistentDirectory} : m.Shows dirId dir.toDirectory →
      Step m (.readDirectory tx dirId) (.ok (.directory dir)) m

inductive Run (m₀ : Tree) : List (Call × Except TransactionError Reply) → Tree → Prop
  | nil : Run m₀ [] m₀
  | snoc {tr m call o m'} : Run m₀ tr m → Step m call o m' → Run m₀ (tr ++ [(call, o)]) m'

end Tree

end

def Tree.format (owner : String) (rootDirId : ObjectId) : Tree :=
  Tree.set (fun _ => none) rootDirId (.directory (.empty owner 0 none))

/-! ## The calls of a run -/

def PersistentFilesystem.Call.changes : Call → List ObjectId
  | .mkdir newDirId _ _ _ _ parentDirId _ _ => [newDirId, parentDirId]
  | .link _ _ _ dirId _ _ _ => [dirId]
  | .unlink _ _ _ dirId _ => [dirId]
  | .writeFile fileId _ _ => [fileId]
  | .list _ _ | .readFile _ _ | .readDirectory _ _ => []

def objectDrawnBy : Call × Except TransactionError Reply → Option ObjectId
  | (.mkdir newDirId _ _ _ _ _ _ _, _) => some newDirId
  | (.writeFile fileId _ _, _) => some fileId
  | _ => none

def objectsDrawn (rootDirId : ObjectId) (tr : List (Call × Except TransactionError Reply)) : List ObjectId :=
  rootDirId :: tr.filterMap objectDrawnBy

def directoryMadeBy : Call × Except TransactionError Reply → Option ObjectId
  | (.mkdir newDirId _ _ _ _ _ _ _, .ok _) => some newDirId
  | _ => none

def directoriesMade (rootDirId : ObjectId) (tr : List (Call × Except TransactionError Reply)) : List ObjectId :=
  rootDirId :: tr.filterMap directoryMadeBy

def putBy (dirId : ObjectId) (name : String) :
    Call × Except TransactionError Reply → Option (Option DirectoryEntry)
  | (.mkdir newDirId _ _ _ name' parentDirId _ _, .ok _) =>
    if parentDirId = dirId ∧ name' = name then some (some ⟨name', newDirId, .map⟩) else none
  | (.link _ _ name' dirId' objectId kind _, .ok _) =>
    if dirId' = dirId ∧ name' = name then some (some ⟨name', objectId, kind⟩) else none
  | (.unlink _ _ name' dirId' _, .ok _) => if dirId' = dirId ∧ name' = name then some none else none
  | _ => none

def lastPut (tr : List (Call × Except TransactionError Reply)) (dirId : ObjectId) (name : String) :
    Option DirectoryEntry :=
  (tr.filterMap (putBy dirId name)).getLast?.join

end PandaGen.Storage
