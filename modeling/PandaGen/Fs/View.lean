import PandaGen.Lib.ByteText
import PandaGen.Storage.Transaction

/-!
# The filesystem view

`fs_view/src/{directory,path}.rs` and `services_fs_view/src/service.rs`: names of objects in directories, and paths
through them.
-/

namespace PandaGen.Fs

open Lib Storage

/-! ## Paths -/

inductive PathError where
  | invalidPath (msg : String)

def trimSlashes (path : Text) : Text := ((path.dropWhile (· = '/')).reverse.dropWhile (· = '/')).reverse

def checkComponents : List Text → Except PathError Unit
  | [] => .ok ()
  | component :: rest =>
    if component = [] then .error (.invalidPath "Path contains empty component")
    else if component = ['.'] ∨ component = ['.', '.'] then
      .error (.invalidPath "Relative path components (. or ..) are not supported")
    else checkComponents rest

def splitPath (path : Text) : Except PathError (List Text) :=
  let path := trimSlashes path
  if path = [] then .error (.invalidPath "Empty path")
  else
    let components := path.splitOn '/'
    (checkComponents components).map fun _ => components

/-! ## Directories -/

structure DirectoryEntry where
  name : String
  objectId : ObjectId
  kind : ObjectKind

structure DirectoryView where
  id : ObjectId
  entries : BTreeMap String DirectoryEntry

namespace DirectoryView

def new (id : ObjectId) : DirectoryView := ⟨id, ∅⟩

def getEntry (self : DirectoryView) (name : Text) : Option DirectoryEntry := self.entries[String.ofList name]?

def addEntry (self : DirectoryView) (entry : DirectoryEntry) : DirectoryView :=
  if self.entries.contains entry.name then self else { self with entries := self.entries.insert entry.name entry }

def listEntries (self : DirectoryView) : List DirectoryEntry := self.entries.values

end DirectoryView

/-! ## The service -/

inductive OperationError where
  | pathError (error : PathError)
  | notFound (name : Text)
  | alreadyExists (name : Text)
  | notADirectory (name : Text)

def OperationError.text : OperationError → String
  | .pathError (.invalidPath msg) => "Path error: Invalid path: " ++ msg
  | .notFound name => "Object not found: " ++ String.ofList name
  | .alreadyExists name => "Already exists: " ++ String.ofList name
  | .notADirectory name => "Not a directory: " ++ String.ofList name

structure FileSystemViewService where
  directories : BTreeMap ObjectId DirectoryView

namespace FileSystemViewService

def traverse (self : FileSystemViewService) : DirectoryView → List Text → Except OperationError DirectoryView
  | current, [] => .ok current
  | current, component :: rest =>
    match current.getEntry component with
    | none => .error (.notFound component)
    | some entry =>
      if entry.kind ≠ .map then .error (.notADirectory component)
      else
        match self.directories[entry.objectId]? with
        | none => .error (.notFound component)
        | some next => self.traverse next rest

variable (self : FileSystemViewService)

def resolveParent (root : DirectoryView) (path : Text) :
    Except OperationError (DirectoryView × Text) :=
  match splitPath path with
  | .error e => .error (.pathError e)
  | .ok components => (self.traverse root components.dropLast).map fun dir => (dir, components.getLast?.getD [])

def «open» (root : DirectoryView) (path : Text) : Except OperationError ObjectId :=
  if trimSlashes path = [] then .ok root.id
  else
    match self.resolveParent root path with
    | .error e => .error e
    | .ok (parent, name) =>
      match parent.getEntry name with
      | none => .error (.notFound name)
      | some entry => .ok entry.objectId

/-- The directory of the new name is the root or a registered one. -/
def link (root : DirectoryView) (path : Text) (objectId : ObjectId) (kind : ObjectKind) :
    Except OperationError (FileSystemViewService × DirectoryView) :=
  match self.resolveParent root path with
  | .error e => .error e
  | .ok (parent, name) =>
    if (parent.getEntry name).isSome then .error (.alreadyExists name)
    else
      let entry : DirectoryEntry := ⟨String.ofList name, objectId, kind⟩
      if parent.id = root.id then .ok (self, root.addEntry entry)
      else
        match self.directories[parent.id]? with
        | none => .error (.notFound "parent".toList)
        | some dir => .ok (⟨self.directories.insert parent.id (dir.addEntry entry)⟩, root)

def resolveDirectory (id : ObjectId) : Option DirectoryView := self.directories[id]?

end FileSystemViewService

end PandaGen.Fs
