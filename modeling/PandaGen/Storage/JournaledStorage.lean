import PandaGen.Storage.Session

/-!
# Journaled storage (`services_storage/src/journaled_storage.rs`)

Writes go to a journal at once and to the objects when their transaction commits.
-/

namespace PandaGen.Storage

open Lib

structure VersionEntry where
  versionId : VersionId
  data : List UInt8
  deriving DecidableEq

inductive JournalEntry where
  | write (txId : TransactionId) (objectId : ObjectId) (versionId : VersionId) (data : List UInt8)
  | commit (txId : TransactionId)
  deriving DecidableEq

structure JournaledStorage where
  objects : BTreeMap ObjectId (List VersionEntry)
  journal : List JournalEntry
  pending : BTreeMap TransactionId (List PendingWrite)

def pushVersion (objects : BTreeMap ObjectId (List VersionEntry)) (write : PendingWrite) :
    BTreeMap ObjectId (List VersionEntry) :=
  objects.insert write.objectId (objects[write.objectId]?.getD [] ++ [⟨write.versionId, write.data⟩])

def pushPending (pending : BTreeMap TransactionId (List PendingWrite)) (txId : TransactionId) (write : PendingWrite) :
    BTreeMap TransactionId (List PendingWrite) :=
  pending.insert txId (pending[txId]?.getD [] ++ [write])

namespace JournaledStorage

def new : JournaledStorage := ⟨∅, [], ∅⟩

/-! ## Recovery -/

/-- One turn of the loop in `recover`: the writes seen so far, and the objects. -/
def recoverEntry : BTreeMap TransactionId (List PendingWrite) × BTreeMap ObjectId (List VersionEntry) →
    JournalEntry → BTreeMap TransactionId (List PendingWrite) × BTreeMap ObjectId (List VersionEntry)
  | (writes, objects), .write txId objectId versionId data =>
    (pushPending writes txId ⟨objectId, versionId, data⟩, objects)
  | (writes, objects), .commit txId =>
    match writes[txId]? with
    | some pending => (writes.erase txId, pending.foldl pushVersion objects)
    | none => (writes, objects)

variable (s : JournaledStorage)

def recover : JournaledStorage :=
  ⟨(s.journal.foldl recoverEntry (∅, ∅)).2, s.journal, ∅⟩

def fromJournal (entries : List JournalEntry) : JournaledStorage := recover ⟨∅, entries, ∅⟩

/-! ## Transactions -/

def readEntry (tx : Transaction) (objectId : ObjectId) :
    Except TransactionError VersionEntry :=
  if tx.state ≠ .active then .error .alreadyFinalized else
  match s.pending[tx.id]?.bind fun pending => pending.reverse.find? (·.objectId = objectId) with
  | some entry => .ok ⟨entry.versionId, entry.data⟩
  | none =>
    match s.objects[objectId]? with
    | none => .error (.objectNotFound (objectIdText objectId))
    | some versions =>
      match versions.getLast? with
      | none => .error (.objectNotFound (objectIdText objectId))
      | some entry => .ok entry

def readData (tx : Transaction) (objectId : ObjectId) : Except TransactionError (List UInt8) :=
  (s.readEntry tx objectId).map (·.data)

def read (tx : Transaction) (objectId : ObjectId) : Except TransactionError VersionId :=
  (s.readEntry tx objectId).map (·.versionId)

def write (tx : Transaction) (objectId : ObjectId) (versionId : VersionId) (data : List UInt8) :
    Proc JournaledStorage TransactionError (VersionId × Transaction) := do
  Proc.failIf (tx.state ≠ .active) (.err .alreadyFinalized)
  modify fun s =>
    { s with
      pending := pushPending s.pending tx.id ⟨objectId, versionId, data⟩
      journal := s.journal ++ [.write tx.id objectId versionId data] }
  match tx.modify objectId with
  | .ok tx => pure (versionId, tx)
  | .error e => throw (.err e)

def applyPending (txId : TransactionId) : JournaledStorage :=
  match s.pending[txId]? with
  | some pending => { s with pending := s.pending.erase txId, objects := pending.foldl pushVersion s.objects }
  | none => s

def commit (tx : Transaction) : Proc JournaledStorage TransactionError Transaction := do
  Proc.failIf (tx.state ≠ .active) (.err .alreadyFinalized)
  modify fun s => s.applyPending tx.id
  modify fun s => { s with journal := s.journal ++ [.commit tx.id] }
  match tx.commit with
  | .ok tx => pure tx
  | .error e => throw (.err e)

def rollback (tx : Transaction) : Proc JournaledStorage TransactionError Transaction := do
  Proc.failIf (tx.state ≠ .active) (.err .alreadyFinalized)
  modify fun s => { s with pending := s.pending.erase tx.id }
  match tx.rollback with
  | .ok tx => pure tx
  | .error e => throw (.err e)

def step (w : Session JournaledStorage) : Op → Option (Response × Session JournaledStorage)
  | .begin id => some (.ok none, ⟨w.storage, w.txs ++ [Transaction.new id]⟩)
  | .write i objectId versionId data =>
    w.call i fun tx => do
      let (v, tx) ← write tx objectId versionId data
      pure (some v, tx)
  | .commit i =>
    w.call i fun tx => do
      let tx ← commit tx
      pure (none, tx)
  | .rollback i =>
    w.call i fun tx => do
      let tx ← rollback tx
      pure (none, tx)
  | .recover => some (.ok none, ⟨w.storage.recover, w.txs⟩)

def machine : Machine (Session JournaledStorage) Op Response := ⟨step⟩

end JournaledStorage

end PandaGen.Storage
