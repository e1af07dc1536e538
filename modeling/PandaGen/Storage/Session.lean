import PandaGen.Lib.Machine
import PandaGen.Storage.BlockStorage
import Mathlib.Data.List.Pairwise
import Mathlib.Logic.Function.Basic

/-!
# Sessions

A session is a storage together with the transactions its callers hold. The calls of any number of
callers on it are interleaved in any order. The ledger of a run says what its calls amount to.
-/

namespace PandaGen.Storage

open Lib Proc Hal List

/-- A call; `tx` is the position of a transaction in the order the transactions were begun. `recover`
opens a block storage again, and recovers a journaled storage in place. -/
inductive Op where
  | begin (id : TransactionId)
  | write (tx : Nat) (objectId : ObjectId) (versionId : VersionId) (data : List UInt8)
  | commit (tx : Nat)
  | rollback (tx : Nat)
  | recover
  deriving DecidableEq

abbrev Response := Except TransactionError (Option VersionId)

abbrev Trace := List (Op × Response)

structure Session (S : Type) where
  storage : S
  txs : List Transaction

namespace Session

variable {S : Type}

def start (s : S) : Session S := ⟨s, []⟩

def call (w : Session S) (i : Nat) (m : Transaction → Proc S TransactionError (Option VersionId × Transaction)) :
    Option (Response × Session S) :=
  match w.txs[i]? with
  | none => none
  | some tx =>
    match (m tx).exec w.storage with
    | (.ok (v, tx), s) => some (.ok v, ⟨s, w.txs.set i tx⟩)
    | (.error (.err e), s) => some (.error e, ⟨s, w.txs⟩)
    | (.error .panic, _) => none

theorem call_post {w w' : Session S} {o} {i : Nat}
    {m : Transaction → Proc S TransactionError (Option VersionId × Transaction)}
    {Q : Transaction → Except (Fault TransactionError) (Option VersionId × Transaction) → S → Prop}
    (hQ : ∀ tx, (m tx).Post w.storage (Q tx)) (h : w.call i m = some (o, w')) : ∃ tx, w.txs[i]? = some tx ∧
      ((∃ v tx' s', Q tx (.ok (v, tx')) s' ∧ o = .ok v ∧ w' = ⟨s', w.txs.set i tx'⟩) ∨
        ∃ e s', Q tx (.error (.err e)) s' ∧ o = .error e ∧ w' = ⟨s', w.txs⟩) := by
  simp only [call] at h
  split at h
  · cases h
  · rename_i tx htx
    refine ⟨tx, htx, ?_⟩
    split at h
    · rename_i v tx' s' he
      cases h
      exact .inl ⟨v, tx', s', (hQ tx).of_exec he, rfl, rfl⟩
    · rename_i e s' he
      cases h
      exact .inr ⟨e, s', (hQ tx).of_exec he, rfl, rfl⟩
    · cases h

theorem call_active {β : Type} {w w' : Session S} {o} {i : Nat} {m : Transaction → Unit → Proc S TransactionError β}
    {ret : Transaction → β → Proc S TransactionError (Option VersionId × Transaction)} {v}
    {tx' : Transaction → Transaction} {s' : Transaction → S}
    (h : w.call i (fun tx => (failIf (tx.state ≠ .active) (.err .alreadyFinalized) >>= m tx) >>= ret tx) = some (o, w'))
    (hm : ∀ tx, tx.state = .active → (m tx () >>= ret tx).exec w.storage = (.ok (v, tx' tx), s' tx)) :
    ∃ tx, w.txs[i]? = some tx ∧ (tx.state ≠ .active ∧ o = .error .alreadyFinalized ∧ w' = w ∨
      tx.state = .active ∧ o = .ok v ∧ w' = ⟨s' tx, w.txs.set i (tx' tx)⟩) := by
  simp only [call] at h
  split at h
  · cases h
  · rename_i tx htx
    refine ⟨tx, htx, ?_⟩
    by_cases hactive : tx.state = .active
    · rw [bind_assoc, failIf, if_neg (not_not.mpr hactive), pure_bind, hm tx hactive] at h
      cases h
      exact .inr ⟨hactive, rfl, rfl⟩
    · rw [failIf, if_pos hactive] at h
      cases h
      exact .inl ⟨hactive, rfl, rfl⟩

end Session

/-! ## Runs -/

def WrittenBy (tr : Trace) (i : Nat) (x : PendingWrite) : Prop :=
  (Op.write i x.objectId x.versionId x.data, .ok (some x.versionId)) ∈ tr

def Written (tr : Trace) (x : PendingWrite) : Prop := ∃ i, WrittenBy tr i x

def drawnBy : Op × Response → Option VersionId
  | (.write _ _ v _, .ok _) => some v
  | _ => none

def drawn (tr : Trace) : List VersionId := tr.filterMap drawnBy

def begunBy : Op × Response → Option TransactionId
  | (.begin id, _) => some id
  | _ => none

def begun (tr : Trace) : List TransactionId := tr.filterMap begunBy

theorem drawn_append (tr tr') : drawn (tr ++ tr') = drawn tr ++ drawn tr' :=
  filterMap_append

theorem Written.mono {tr tr' x} (h : Written tr x) : Written (tr ++ tr') x := by
  obtain ⟨i, hi⟩ := h
  exact ⟨i, mem_append_left _ hi⟩

theorem Written.mem_drawn {tr x} (h : Written tr x) : x.versionId ∈ drawn tr := by
  obtain ⟨i, hi⟩ := h
  exact mem_filterMap.mpr ⟨_, hi, rfl⟩

theorem Written.eq {tr} (hn : (drawn tr).Nodup) {x y} (hx : Written tr x) (hy : Written tr y)
    (h : x.versionId = y.versionId) : x = y := by
  obtain ⟨i, hi⟩ := hx
  obtain ⟨j, hj⟩ := hy
  have hpair := pairwise_filterMap.mp hn
  by_contra hne
  have hsymm : Std.Symm fun a b => ∀ v, drawnBy a = some v → ∀ v', drawnBy b = some v' → v ≠ v' :=
    ⟨fun a b hab v hv v' hv' => (hab v' hv' v hv).symm⟩
  refine hpair.forall hi hj ?_ x.versionId rfl y.versionId rfl h
  intro heq
  cases x; cases y
  simp_all

theorem writtenBy_concat {tr i x ev} : WrittenBy (tr ++ [ev]) i x ↔
      WrittenBy tr i x ∨ ev = (.write i x.objectId x.versionId x.data, .ok (some x.versionId)) := by
  rw [WrittenBy, mem_append, mem_singleton]
  exact or_congr Iff.rfl eq_comm

/-! ## Ledgers -/

/-- What the calls of a run amount to: the transactions begun, and whether they are still active; the
pending writes of each transaction; and the writes of the committed transactions, in the order of their
commits. A commit that fails drops the pending writes. -/
structure Ledger where
  txs : List (TransactionId × Bool)
  pending : TransactionId → List PendingWrite
  commits : List (List PendingWrite)

namespace Ledger

def empty : Ledger := ⟨[], fun _ => [], []⟩

variable (l : Ledger)

def active (i : Nat) : Option TransactionId :=
  l.txs[i]?.bind fun (id, active) => if active then some id else none

def pendingOf (i : Nat) : List PendingWrite := (l.active i).elim [] l.pending

def drop (id : TransactionId) : Ledger := { l with pending := Function.update l.pending id [] }

def finish (i : Nat) (id : TransactionId) : Ledger :=
  { l.drop id with txs := l.txs.set i (id, false) }

def record (id : TransactionId) : Ledger :=
  { l with commits := l.commits ++ if l.pending id = [] then [] else [l.pending id] }

def applyActive (id : TransactionId) : Op × Response → Ledger
  | (.write _ o v data, _) => { l with pending := Function.update l.pending id (l.pending id ++ [⟨o, v, data⟩]) }
  | (.commit i, .ok _) => (l.record id).finish i id
  | (.commit _, .error _) => l.drop id
  | (.rollback i, _) => l.finish i id
  | _ => l

def apply (ev : Op × Response) : Ledger :=
  match ev.1 with
  | .begin id => { l with txs := l.txs ++ [(id, true)] }
  | .write i _ _ _ | .commit i | .rollback i => (l.active i).elim l fun id => l.applyActive id ev
  | .recover => { l with pending := fun _ => [] }

def of (tr : Trace) : Ledger := tr.foldl apply empty

end Ledger

/-! ## Sessions on a block storage

`View` is what the store is for: the latest version of each object and the bytes of each version.
-/

namespace Session

variable {D : Type} [BlockDevice D] [DiskFormat]

/-- One call. A call that panics ends the run, and so does an `open` that fails. -/
def step (w : Session (BlockStorage D)) : Op → Option (Response × Session (BlockStorage D))
  | .begin id => some (.ok none, ⟨w.storage, w.txs ++ [Transaction.new id]⟩)
  | .write i objectId versionId data =>
    w.call i fun tx => do
      let v ← BlockStorage.write tx objectId versionId data
      pure (some v, tx)
  | .commit i =>
    w.call i fun tx => do
      let tx ← BlockStorage.commit tx
      pure (none, tx)
  | .rollback i =>
    w.call i fun tx => do
      let tx ← BlockStorage.rollback tx
      pure (none, tx)
  | .recover =>
    match BlockStorage.openDevice w.storage.device with
    | .ok s => some (.ok none, ⟨s, w.txs⟩)
    | .error _ => none

variable (D) in
def machine : Machine (Session (BlockStorage D)) Op Response := ⟨step⟩

end Session

/-! ## What a store holds -/

@[ext] structure View where
  latest : ObjectId → Option VersionId
  bytes : ObjectId × VersionId → Option (List UInt8)

namespace View

def empty : View := ⟨fun _ => none, fun _ => none⟩

def write (v : View) (w : PendingWrite) : View :=
  ⟨Function.update v.latest w.objectId (some w.versionId),
    Function.update v.bytes (w.objectId, w.versionId) (some w.data)⟩

def commit (v : View) (ws : List PendingWrite) : View := ws.foldl write v

/-- `v'` has the same latest versions as `v`, and the same bytes for each version in `v`. -/
def Keeps (v v' : View) : Prop := v'.latest = v.latest ∧ ∀ k, (v.bytes k).isSome → v'.bytes k = v.bytes k

end View

def Ledger.view (l : Ledger) : View := View.empty.commit l.commits.flatten

namespace BlockStorage

variable {D : Type} [BlockDevice D]

def readEntry (s : BlockStorage D) (e : AllocationEntry) : Option (List UInt8) := do
  ((readData (← e.blocks) e.sizeBytes).exec s).1.toOption

def view (s : BlockStorage D) : View :=
  ⟨fun o => s.latestVersions[o]?, fun k => s.allocations[k]?.bind s.readEntry⟩

end BlockStorage

end PandaGen.Storage
