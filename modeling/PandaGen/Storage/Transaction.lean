import PandaGen.Core.Uuid

/-!
# Transactions (`services_storage/src/transaction.rs`, `object.rs`)
-/

namespace PandaGen.Storage

inductive TransactionError where
  | conflict (msg : String)
  | objectNotFound (msg : String)
  | alreadyFinalized
  | invalidOperation (msg : String)
  | storageError (msg : String)
  deriving DecidableEq

inductive TransactionState where
  | active
  | committed
  | rolledBack
  deriving DecidableEq

structure Transaction where
  id : TransactionId
  state : TransactionState
  modified : List ObjectId
  deriving DecidableEq

namespace Transaction

def new (id : TransactionId) : Transaction := ⟨id, .active, []⟩

def modify (tx : Transaction) (objectId : ObjectId) : Except TransactionError Transaction :=
  if tx.state ≠ .active then .error .alreadyFinalized
  else .ok { tx with modified := tx.modified ++ [objectId] }

def commit (tx : Transaction) : Except TransactionError Transaction :=
  if tx.state ≠ .active then .error .alreadyFinalized else .ok { tx with state := .committed }

def rollback (tx : Transaction) : Except TransactionError Transaction :=
  if tx.state ≠ .active then .error .alreadyFinalized
  else .ok { tx with state := .rolledBack, modified := [] }

variable {tx : Transaction}

theorem modify_active (h : tx.state = .active) (o) : tx.modify o = .ok { tx with modified := tx.modified ++ [o] } :=
  if_neg (not_not.mpr h)

theorem commit_active (h : tx.state = .active) : tx.commit = .ok { tx with state := .committed } :=
  if_neg (not_not.mpr h)

theorem rollback_active (h : tx.state = .active) : tx.rollback = .ok { tx with state := .rolledBack, modified := [] } :=
  if_neg (not_not.mpr h)

end Transaction

inductive ObjectKind where
  | blob
  | log
  | map
  deriving DecidableEq

def objectIdText (o : ObjectId) : String := "Object(" ++ o.uuid.text ++ ")"

structure PendingWrite where
  objectId : ObjectId
  versionId : VersionId
  data : List UInt8
  deriving DecidableEq

end PandaGen.Storage
