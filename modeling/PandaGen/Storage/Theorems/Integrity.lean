import PandaGen.Storage.Json
import PandaGen.Storage.Lemmas.Refinement

/-!
# Integrity of a session, and what a failed commit leaves
-/

namespace PandaGen.Storage

open Hal Lib Proc BlockStorage Ledger Session

def NoReopen {D : Type} (_ : Session (BlockStorage D)) (op : Op) (_ : Response) : Prop := op ≠ .recover

instance {D : Type} (w : Session (BlockStorage D)) (op : Op) (o : Response) : Decidable (NoReopen w op o) :=
  inferInstanceAs (Decidable (op ≠ .recover))

section

variable {D : Type} [BlockDevice D] [DiskFormat] [LawfulBlockDevice D] [LawfulDiskFormat]

/-- In a session without `open` the extents of committed versions are disjoint, lie inside the data area
and are not free; the committed versions and the pending writes are those of the ledger, all of them were
acknowledged, and reads return their bytes. -/
theorem session_integrity {d : D} {s : BlockStorage D} (hf : format d = .ok s)
    {tr : Trace} {w : Session (BlockStorage D)}
    (hrun : (machine D).Run NoReopen (start s) tr w) (huniq : (drawn tr).Nodup) :
    (∀ (k k' : ObjectId × VersionId) (e e' : AllocationEntry), w.storage.allocations[k]? = some e →
      w.storage.allocations[k']? = some e' → k ≠ k' → Disjoint e.extent e'.extent) ∧
    (∀ (k : ObjectId × VersionId) (e : AllocationEntry), w.storage.allocations[k]? = some e →
      e.extent ⊆ Finset.Ico w.storage.superblock.dataStart w.storage.superblock.totalBlocks ∧
        Disjoint e.extent w.storage.freeBlocks) ∧
    (∀ o v, (∃ e, w.storage.allocations[(o, v)]? = some e) ↔
      ∃ data, ⟨o, v, data⟩ ∈ (of tr).commits.flatten) ∧
    (∀ t : TransactionId, w.storage.pending[t]?.getD [] = (of tr).pending t) ∧
    ∀ x, (x ∈ (of tr).commits.flatten ∨ ∃ t, x ∈ (of tr).pending t) → Written tr x ∧
      ((readObjectData x.objectId x.versionId).exec w.storage).1 = .ok x.data := by
  obtain ⟨ht, es, hsound⟩ := run_sound hf (fun _ _ _ h => h) hrun
  have hmem : ∀ k e, w.storage.allocations[k]? = some e → e ∈ es ∧ e.key = k := by
    intro k e he
    rw [hsound.indexed.allocations] at he
    exact mem_of_lookup he
  refine ⟨?_, ?_, ?_, ht.refines.pending, ?_⟩
  · intro k k' e e' he he' hne
    obtain ⟨hes, hk⟩ := hmem k e he
    obtain ⟨hes', hk'⟩ := hmem k' e' he'
    refine hsound.disjoint.forall hes hes' ?_
    rintro rfl
    exact hne (hk.symm.trans hk')
  · intro k e he
    exact ⟨hsound.inside e (hmem k e he).1, hsound.taken e (hmem k e he).1⟩
  · intro o v
    constructor
    · rintro ⟨e, he⟩
      obtain ⟨x, hx, rfl, rfl, _⟩ := hsound.exists_of_allocation he
      exact ⟨x.data, hx⟩
    · rintro ⟨data, hx⟩
      exact hsound.exists_allocation hx
  · rintro x (hx | ⟨t, hx⟩)
    · have hxw := ht.acknowledged.commits x hx
      obtain ⟨e, he⟩ := hsound.exists_allocation hx
      obtain ⟨y, hy, _, hyv, hread⟩ := hsound.exists_of_allocation he
      -- a write with the version of an acknowledged one is that one
      obtain rfl := (ht.acknowledged.commits y hy).eq huniq hxw hyv
      exact ⟨hxw, ht.read_committed huniq hxw he hread⟩
    · exact ⟨ht.acknowledged.pending t x hx, ht.read_pending huniq hx⟩

end

theorem session_integrity_commit_then_write : ∃ s tr w, format (RamDisk.new 40 (by decide)) = .ok s ∧
    (machine RamDisk).Run NoReopen (start s) tr w ∧
    (drawn tr = [⟨1⟩, ⟨2⟩] ∧ (of tr).commits = [[⟨⟨1⟩, ⟨1⟩, [1, 2, 3]⟩]]) ∧ (Written tr ⟨⟨1⟩, ⟨1⟩, [1, 2, 3]⟩ ∧
      ((readObjectData ⟨1⟩ ⟨1⟩).exec w.storage).1 = .ok [1, 2, 3]) := by
  obtain ⟨s, hf, tr, w, hrun, hdrawn, hcommits⟩ := exists_run (RamDisk.new 40 (by decide))
    [.begin ⟨1⟩, .write 0 ⟨1⟩ ⟨1⟩ [1, 2, 3], .commit 0, .begin ⟨2⟩, .write 1 ⟨2⟩ ⟨2⟩ [4]] NoReopen
    (fun _ tr _ => drawn tr = [⟨1⟩, ⟨2⟩] ∧ (of tr).commits = [[⟨⟨1⟩, ⟨1⟩, [1, 2, 3]⟩]])
    (by decide +kernel)
  refine ⟨s, tr, w, hf, hrun, ⟨hdrawn, hcommits⟩, ?_⟩
  exact (session_integrity hf hrun (by rw [hdrawn]; decide)).2.2.2.2 ⟨⟨1⟩, ⟨1⟩, [1, 2, 3]⟩
    (.inl (by rw [hcommits]; decide))

/-! ## Failed commits -/

section

variable {D : Type} {s s' : BlockStorage D} {tx : Transaction}

/-- The transaction is not active, or there is no room for the first of its writes. -/
def TurnsAway (s : BlockStorage D) (tx : Transaction) : Prop :=
  tx.state ≠ .active ∨ ∃ x, s.pending[tx.id]?.bind List.head? = some x ∧ s.freeBlocks.card < blocksFor x.data.length

instance : Decidable (TurnsAway s tx) := inferInstanceAs (Decidable (_ ∨ _))

variable [BlockDevice D] [DiskFormat]

theorem TurnsAway.post_commit (h : TurnsAway s tx) :
    (commit tx).Post s fun _ s' => ∃ pending, s' = { s with pending } := by
  simp only [commit, post_bind, post_failIf]
  split
  · exact ⟨_, rfl⟩
  · rename_i hactive
    obtain ⟨x, hx, hroom⟩ := h.resolve_left hactive
    obtain ⟨ws, hp, hx⟩ := Option.bind_eq_some_iff.mp hx
    obtain ⟨ws, rfl⟩ := List.head?_eq_some_iff.mp hx
    simp only [post_get, hp, post_bind, post_set, writePending, writeEntry, post_mapErr, allocateBlocks, post_failIf,
      if_pos hroom]
    exact ⟨_, rfl⟩

/-- A failed commit leaves the allocations and the latest versions. It leaves the free blocks and the commit
sequence as well exactly if it was turned away before it took a block. -/
theorem failed_commit_free_iff [LawfulBlockDevice D] {e : TransactionError}
    (h : (commit tx).exec s = (.error (.err e), s')) :
    s'.allocations = s.allocations ∧ s'.latestVersions = s.latestVersions ∧
    (s'.freeBlocks = s.freeBlocks ∧ s'.superblock.commitSequence = s.superblock.commitSequence ↔ TurnsAway s tx) := by
  by_cases hturns : TurnsAway s tx
  · obtain ⟨pending, rfl⟩ := hturns.post_commit.of_exec h
    exact ⟨rfl, rfl, iff_of_true ⟨rfl, rfl⟩ hturns⟩
  · have hnext : s.nextSuperblock.commitSequence ≠ s.superblock.commitSequence := Nat.succ_ne_self _
    cases (commit_outcome tx).of_exec h with
    | finalized hfin => exact absurd (.inl hfin) hturns
    | aborted _ hp _ _ _ _ hq =>
      refine ⟨rfl, rfl, iff_of_false ?_ hturns⟩
      rintro ⟨hfree, hsequence⟩
      obtain ⟨-, htaken⟩ | ⟨hq, -⟩ := hq
      · obtain ⟨⟨⟩⟩ | ⟨x, hx, hroom⟩ := htaken hfree
        exact hturns (.inr ⟨x, Option.bind_eq_some_iff.mpr ⟨_, hp, hx⟩, hroom⟩)
      · exact hnext (hq.symm.trans hsequence)
    | recorded => exact ⟨rfl, rfl, iff_of_false (fun hsame => hnext hsame.2) hturns⟩

end

theorem failed_commit_free_iff_second_write : ∃ s tr w s',
    format (RamDisk.new 4 (by decide)) = .ok s ∧ (machine RamDisk).Run NoReopen (start s) tr w ∧
    (commit (.new ⟨1⟩)).exec w.storage = (.error (.err (storageError .noFreeSpace)), s') ∧
    s'.allocations = w.storage.allocations ∧ ¬ (s'.freeBlocks = w.storage.freeBlocks ∧
      s'.superblock.commitSequence = w.storage.superblock.commitSequence) := by
  obtain ⟨s, hf, tr, w, hrun, herr, hturns⟩ := exists_run (RamDisk.new 4 (by decide))
    [.begin ⟨1⟩, .write 0 ⟨1⟩ ⟨1⟩ [1], .write 0 ⟨2⟩ ⟨2⟩ [2]] NoReopen
    (fun _ _ w => ((commit (.new ⟨1⟩)).exec w.storage).1 = .error (.err (storageError .noFreeSpace)) ∧
      ¬ TurnsAway w.storage (.new ⟨1⟩))
    (by decide +kernel)
  obtain ⟨hallocations, -, hfree⟩ := failed_commit_free_iff (Prod.ext herr rfl)
  exact ⟨s, tr, w, _, hf, hrun, Prod.ext herr rfl, hallocations, fun hsame => hturns (hfree.mp hsame)⟩

/-- The only free block goes to the first write, there is none for the second, and the block is lost. -/
theorem failed_commit_takes_block : ∃ s, format (RamDisk.new 4 (by decide)) = .ok s ∧ ∃ tr w,
    (machine RamDisk).Run NoReopen (start s) tr w ∧ tr.getLast? = some (.commit 0, .error (storageError .noFreeSpace)) ∧
    s.freeBlocks.card = 1 ∧ w.storage.freeBlocks.card = 0 ∧ w.storage.allocations.isEmpty :=
  exists_run (RamDisk.new 4 (by decide))
    [.begin ⟨1⟩, .write 0 ⟨1⟩ ⟨1⟩ [1], .write 0 ⟨2⟩ ⟨2⟩ [2], .commit 0] NoReopen _ (by decide +kernel)

end PandaGen.Storage
