import PandaGen.Core.HashOrder
import PandaGen.Core.Uuid

/-!
# Merging and compacting device logs

`SyncState` of `distributed_storage/src/lib.rs`. The merge groups the logs by device in a hash map and takes
them out again in the order the hash map yields, which is an input here. The compaction keeps the entry with
the greatest timestamp of each object, and of several such entries the last.
-/

namespace PandaGen.Distributed

structure VersionedObject where
  objectId : ObjectId
  versionId : VersionId
  payload : List UInt8
  timestampNs : Nat
  deriving DecidableEq

structure DeviceLog where
  deviceId : DeviceId
  entries : List VersionedObject
  deriving DecidableEq

structure SyncState where
  logs : List DeviceLog

inductive SyncError where
  | deviceNotFound (deviceId : DeviceId)

namespace SyncState

def default : SyncState := ⟨[]⟩

def addDevice (s : SyncState) (deviceId : DeviceId) : SyncState := ⟨s.logs ++ [⟨deviceId, []⟩]⟩

def append (s : SyncState) (deviceId : DeviceId) (entry : VersionedObject) : Except SyncError SyncState :=
  match s.logs.findIdx? fun log => log.deviceId == deviceId with
  | none => .error (.deviceNotFound deviceId)
  | some i => .ok ⟨s.logs.modify i fun log => { log with entries := log.entries ++ [entry] }⟩

def mergeLog (merged : BTreeMap DeviceId (List VersionedObject)) (log : DeviceLog) :
    BTreeMap DeviceId (List VersionedObject) :=
  merged.insert log.deviceId (merged[log.deviceId]?.getD [] ++ log.entries)

def merge (order : HashOrder DeviceLog) (s other : SyncState) : SyncState :=
  let merged := (s.logs ++ other.logs).foldl mergeLog ∅
  ⟨order.order (merged.toList.map fun e => ⟨e.1, e.2⟩)⟩

def allEntries (s : SyncState) : List VersionedObject := s.logs.flatMap DeviceLog.entries

def compactEntry (latest : BTreeMap ObjectId VersionedObject) (entry : VersionedObject) :
    BTreeMap ObjectId VersionedObject :=
  let replace := match latest[entry.objectId]? with
    | some current => decide (entry.timestampNs ≥ current.timestampNs)
    | none => true
  if replace then latest.insert entry.objectId entry else latest

def compact (s : SyncState) : BTreeMap ObjectId VersionedObject := s.allEntries.foldl compactEntry ∅

end SyncState

end PandaGen.Distributed
