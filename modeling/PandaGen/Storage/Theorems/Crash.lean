import PandaGen.Storage.Json
import PandaGen.Storage.Lemmas.Crash

/-!
# Crashes during a commit
-/

namespace PandaGen.Storage

open Hal Lib BlockStorage Ledger Session Option List

section

variable {D : Type} [BlockDevice D] [DiskFormat] [LawfulBlockDevice D] [LawfulDiskFormat]
  {d : FailingBlockDevice D} {s₀ s' : BlockStorage (FailingBlockDevice D)} {tr : Trace}
  {w : Session (BlockStorage (FailingBlockDevice D))} {i k : Nat} {tx : Transaction}
  {r : Except (Fault TransactionError) Transaction}

/-- A commit that is cut off after `k` block writes is found in full if its record was stored, and else
not at all, if the old log is clean for the commits before it and for those with it. -/
theorem crash_atomic (hf : format d = .ok s₀) (hrun : (machine (FailingBlockDevice D)).Run Successful (start s₀) tr w)
    (htx : w.txs[i]? = some tx) (hcut : (commit tx).exec (w.storage.cutAfter k) = (r, s'))
    (hlt : (of tr).commits.length + 1 < s₀.superblock.commitLogBlocks)
    (hclean : CleanLog (slots s₀.superblock.commitLogBlocks (contents d)) (of tr).commits.length)
    (hclean' : CleanLog (slots s₀.superblock.commitLogBlocks (contents d))
      ((of tr).commits.length + 1)) :
    ∃ s, openDevice s'.device.inner = .ok s ∧
      (w.storage.RecordStored tx.id ((of tr).pendingOf i) (contents s'.device.inner) →
        s.view = (of tr).view.commit ((of tr).pendingOf i)) ∧
      (¬ w.storage.RecordStored tx.id ((of tr).pendingOf i) (contents s'.device.inner) →
        s.view = (of tr).view) := by
  obtain ⟨hn, ht, he, rs, hl, hs, hlen⟩ := run_cut hf hrun hcut
  have hslots := (format_formatted hf).slots_eq
  have hn' : (w.storage.cutAfter k).superblock.commitLogBlocks = s₀.superblock.commitLogBlocks := hn
  rw [← hslots, ← hlen, ← hn'] at hclean hclean'
  rw [← hlen, ← hn'] at hlt
  exact he.crash_view hl hs (ht.refines.nonempty tx.id) hlt hclean hclean' (ht.refines.pendingOf htx) rfl rfl

end

theorem crash_atomic_record_written : ∃ s₀ tr w tx r s' s,
    format (FailingBlockDevice.new (RamDisk.new 40 (by decide)) .never) = .ok s₀ ∧
    (machine (FailingBlockDevice RamDisk)).Run Successful (start s₀) tr w ∧
    w.txs[0]? = some tx ∧ (commit tx).exec (w.storage.cutAfter 2) = (r, s') ∧ (of tr).pendingOf 0 = [⟨⟨1⟩, ⟨1⟩, [1]⟩] ∧
    w.storage.RecordStored tx.id ((of tr).pendingOf 0) (contents s'.device.inner) ∧
    openDevice s'.device.inner = .ok s ∧ s.view = (of tr).view.commit ((of tr).pendingOf 0) := by
  obtain ⟨s₀, hf, tr, w, hrun, hlt, hws, tx, htx, hrec⟩ := exists_run
    (FailingBlockDevice.new (RamDisk.new 40 (by decide)) .never) [.begin ⟨1⟩, .write 0 ⟨1⟩ ⟨1⟩ [1]] Successful
    (fun s₀ tr w => (of tr).commits.length + 1 < s₀.superblock.commitLogBlocks ∧
      (of tr).pendingOf 0 = [⟨⟨1⟩, ⟨1⟩, [1]⟩] ∧ ∃ tx, w.txs[0]? = some tx ∧
      decodeRecord (contents ((commit tx).exec (w.storage.cutAfter 2)).2.device.inner
        w.storage.nextSlot) = some (w.storage.nextRecord tx.id [⟨⟨1⟩, ⟨1⟩, 6, 1⟩]))
    (by decide +kernel)
  have hblank := @not_mem_slots_new _ s₀.superblock.commitLogBlocks 40 (by decide)
  have hstored : w.storage.RecordStored tx.id ((of tr).pendingOf 0)
      (contents ((commit tx).exec (w.storage.cutAfter 2)).2.device.inner) :=
    ⟨_, by rw [hws]; exact .cons ⟨rfl, rfl, rfl⟩ .nil, hrec⟩
  obtain ⟨s, hopen, hyes, _⟩ := crash_atomic hf hrun htx rfl hlt (.of_blank hblank _) (.of_blank hblank _)
  exact ⟨s₀, tr, w, tx, _, _, s, hf, hrun, htx, rfl, hws, hstored, hopen, hyes hstored⟩

set_option synthInstance.maxSize 1000 in
/-- One commit, `format`, and a first commit that is cut off at once: the old commit is back. -/
theorem crash_reveals_old_commit : ∃ s₀ tr₀ w₀ s₁ tr w tx r s' s,
    format (FailingBlockDevice.new (RamDisk.new 40 (by decide)) .never) = .ok s₀ ∧
    (machine (FailingBlockDevice RamDisk)).Run Successful (start s₀) tr₀ w₀ ∧
    format w₀.storage.device = .ok s₁ ∧ (machine (FailingBlockDevice RamDisk)).Run Successful (start s₁) tr w ∧
    w.txs[0]? = some tx ∧ (commit tx).exec (w.storage.cutAfter 0) = (r, s') ∧
    (of tr).commits.length + 1 < s₁.superblock.commitLogBlocks ∧ (drawn (tr₀ ++ tr)).Nodup ∧
    openDevice s'.device.inner = .ok s ∧
    s.view ≠ (of tr).view ∧ s.view ≠ (of tr).view.commit ((of tr).pendingOf 0) := by
  obtain ⟨s₀, hf₀, tr₀, w₀, hrun₀, s₁, hf₁, tr, w, hexec, hlt, huniq, hbefore, hafter, tx, htx, s, hopen, hold⟩ :=
    exists_run (FailingBlockDevice.new (RamDisk.new 40 (by decide)) .never)
    [.begin ⟨1⟩, .write 0 ⟨1⟩ ⟨1⟩ [1], .commit 0] Successful
    (fun _ tr₀ w₀ => ∃ s₁ : BlockStorage (FailingBlockDevice RamDisk),
      format w₀.storage.device = .ok s₁ ∧
      ∃ tr w, (machine (FailingBlockDevice RamDisk)).exec (fun w op o => decide (Successful w op o))
        (start s₁) [.begin ⟨2⟩, .write 0 ⟨2⟩ ⟨2⟩ [2]] = some (tr, w) ∧
      (of tr).commits.length + 1 < s₁.superblock.commitLogBlocks ∧ (drawn (tr₀ ++ tr)).Nodup ∧
      (of tr).view.bytes (⟨1⟩, ⟨1⟩) = none ∧
      ((of tr).view.commit ((of tr).pendingOf 0)).bytes (⟨1⟩, ⟨1⟩) = none ∧
      ∃ tx, w.txs[0]? = some tx ∧ ∃ s : BlockStorage RamDisk,
        openDevice ((commit tx).exec (w.storage.cutAfter 0)).2.device.inner = .ok s ∧
        s.view.bytes (⟨1⟩, ⟨1⟩) = some [1])
    (by decide +kernel)
  refine ⟨s₀, tr₀, w₀, s₁, tr, w, tx, _, _, s, hf₀, hrun₀, hf₁, Machine.exec_guarded hexec, htx, rfl, hlt, huniq,
    hopen, ?_, ?_⟩
  · intro hv
    rw [hv, hbefore] at hold
    cases hold
  · intro hv
    rw [hv, hafter] at hold
    cases hold

/-! ## Commits after a recovery -/

section

variable {D : Type} [BlockDevice D] [DiskFormat] [LawfulBlockDevice D] [LawfulDiskFormat]
  {d : FailingBlockDevice D} {s₀ s' : BlockStorage (FailingBlockDevice D)} {tr tr' : Trace}
  {w : Session (BlockStorage (FailingBlockDevice D))} {s₁ : BlockStorage D} {w' : Session (BlockStorage D)}
  {i k : Nat} {tx : Transaction} {r : Except (Fault TransactionError) Transaction}

/-- A transaction that was recovered from its commit record alone is still there after another session
just when that session commits nothing. -/
theorem recovered_stays_iff (hf : format d = .ok s₀)
    (hrun : (machine (FailingBlockDevice D)).Run Successful (start s₀) tr w)
    (htx : w.txs[i]? = some tx) (hws : (of tr).pendingOf i ≠ [])
    (hcut : (commit tx).exec (w.storage.cutAfter k) = (r, s'))
    (hstored : w.storage.RecordStored tx.id ((of tr).pendingOf i) (contents s'.device.inner))
    (hsuper : contents s'.device.inner 0 = contents w.storage.device.inner 0)
    (hopen : openDevice s'.device.inner = .ok s₁)
    (hrecovered : ∀ x ∈ (of tr).pendingOf i, s₁.view.bytes (x.objectId, x.versionId) = some x.data)
    (hrun' : (machine D).Run Successful (start s₁) tr' w')
    (hlt : (of tr).commits.length + 1 + (of tr').commits.length < s₀.superblock.commitLogBlocks)
    (huniq : (drawn (tr ++ tr')).Nodup)
    (hfresh : FreshVersions (slots s₀.superblock.commitLogBlocks (contents d)) (drawn (tr ++ tr'))) :
    (∃ s, openDevice w'.storage.device = .ok s ∧
      ∀ x ∈ (of tr).pendingOf i, s.view.bytes (x.objectId, x.versionId) = some x.data) ↔
      (of tr').commits = [] := by
  obtain ⟨hn, ht, he, rs, hl, hs, hlen⟩ := run_cut hf hrun hcut
  have hn' : (w.storage.cutAfter k).superblock.commitLogBlocks = s₀.superblock.commitLogBlocks := hn
  have hfmt := format_formatted hf
  rw [← hfmt.slots_eq, ← hn'] at hfresh
  rw [← hlen, ← hn'] at hlt
  rw [drawn_append] at huniq hfresh
  obtain ⟨huniq₁, _, happart⟩ := nodup_append.mp huniq
  have hdist := run_distinct hfmt.geometry hfmt.pending hrun huniq₁
  have hdrawn : ∀ x ∈ (of tr).pendingOf i, x.versionId ∈ drawn tr := by
    intro x hx
    obtain ⟨t, hx⟩ := mem_pendingOf hx
    exact (ht.acknowledged.pending t x hx).mem_drawn
  -- the versions of the writes are not in the old log, so the record is the one of this commit
  obtain ⟨es, c₁, hst⟩ : ∃ es c₁, Storing (w.storage.cutAfter k) tx ((of tr).pendingOf i) es c₁ s' := by
    rcases he.stored_or hs with ⟨hslots, _⟩ | ⟨ws', es, c₁, hactive, hp, hst⟩
    · refine absurd hstored (hl.not_recordStored_of_fresh hs.geometry hslots (by omega) hfresh ?_ hws)
      exact fun x hx => mem_append_left _ (hdrawn x hx)
    · change w.storage.pending[tx.id]? = some ws' at hp
      rw [ht.refines.pendingOf htx, if_pos hactive, hp]
      exact ⟨es, c₁, hst⟩
  -- `open` found the superblock from before the commit
  have hsb : toVec w.storage.superblock = some (contents s'.device.inner 0).untilNull := by
    rw [hsuper]
    exact hl.disk
  have hfits : w.storage.superblock.Fits (blockCount s'.device.inner) := by
    have hcount : blockCount s'.device.inner = blockCount w.storage.device := hst.count
    rw [hcount]
    exact ht.geometry.fits
  obtain ⟨s₁', hre, hopen'⟩ := openDevice_reopened hsb hfits
  obtain ⟨hrange, rfl⟩ := (hopen' s₁).mp hopen
  obtain ⟨hn'', ht', rs', s, hl', hre', hopen'⟩ := run_logged_of_open hre hsb hfits hrun'
  constructor
  · rintro ⟨s₂, hs₂, hkept⟩
    obtain ⟨-, rfl⟩ := (hopen' s₂).mp hs₂
    by_contra hne
    have hrs' : rs' ≠ [] := by
      rintro rfl
      exact hne (forall₂_nil_right_iff.mp hl'.entries)
    obtain ⟨x, hx⟩ := exists_mem_of_ne_nil _ hws
    -- the version of `x` is in no record: neither in an old one, nor in one of the two sessions
    have hfresh' : FreshVersions (slots (w.storage.cutAfter k).superblock.commitLogBlocks
        (contents w'.storage.device)) [x.versionId] := by
      have hover := hst.overwritten (hn'' ▸ hl'.toLogOf) hrs'
      refine hover.freshVersions (hl.freshVersions (fun r hr e he hv => ?_) fun y hy => ?_) fun y hy => ?_
      · rw [mem_singleton] at hv
        exact hfresh r hr e he (hv ▸ mem_append_left _ (hdrawn x hx))
      · obtain ⟨t, hx⟩ := mem_pendingOf hx
        exact mem_singleton.not.mpr (hdist.apart t x hx y hy).symm
      · exact mem_singleton.not.mpr
          (happart _ (hdrawn x hx) _ (ht'.acknowledged.commits y hy).mem_drawn).symm
    have hidx := hre'.indexed
    rw [hn''] at hidx
    have hnone := hidx.bytes_eq_none (o := x.objectId) hfresh' (mem_singleton_self _)
    rw [hkept x hx] at hnone
    cases hnone
  · intro hnil
    rw [hnil] at hl'
    refine ⟨s, (hopen' s).mpr ⟨?_, rfl⟩, ?_⟩
    · rw [hl'.quiet (forall₂_nil_left_iff.mp hl'.entries), hn'']
      exact hrange
    rw [ht'.view_eq_of_quiet hre hfits hl' hre']
    exact hrecovered

end

set_option maxRecDepth 100000 in
set_option synthInstance.maxSize 1000 in
theorem recovered_stays_iff_no_commit : ∃ s₀ tr w tx r s' s₁ tr' w' s,
    format (FailingBlockDevice.new (RamDisk.new 60 (by decide)) .never) = .ok s₀ ∧
    (machine (FailingBlockDevice RamDisk)).Run Successful (start s₀) tr w ∧
    w.txs[0]? = some tx ∧ (commit tx).exec (w.storage.cutAfter 2) = (r, s') ∧ openDevice s'.device.inner = .ok s₁ ∧
    (machine RamDisk).Run Successful (start s₁) tr' w' ∧ drawn (tr ++ tr') = [⟨1⟩, ⟨2⟩] ∧
    openDevice w'.storage.device = .ok s ∧ s.view.bytes (⟨1⟩, ⟨1⟩) = some [1] := by
  obtain ⟨s₀, hf, tr, w, hrun, hn, hws, hnil, tx, htx, hrec, hsuper, s₁, hopen, hfound, tr', w', hexec, hnil',
    hdrawn⟩ :=
    exists_run
    (FailingBlockDevice.new (RamDisk.new 60 (by decide)) .never) [.begin ⟨1⟩, .write 0 ⟨1⟩ ⟨1⟩ [1]] Successful
    (fun s₀ tr w => s₀.superblock.commitLogBlocks = 3 ∧ (of tr).pendingOf 0 = [⟨⟨1⟩, ⟨1⟩, [1]⟩] ∧
      (of tr).commits = [] ∧ ∃ tx, w.txs[0]? = some tx ∧
      decodeRecord (contents ((commit tx).exec (w.storage.cutAfter 2)).2.device.inner
        w.storage.nextSlot) = some (w.storage.nextRecord tx.id [⟨⟨1⟩, ⟨1⟩, 9, 1⟩]) ∧
      contents ((commit tx).exec (w.storage.cutAfter 2)).2.device.inner 0 = contents w.storage.device.inner 0 ∧
      ∃ s₁ : BlockStorage RamDisk, openDevice ((commit tx).exec (w.storage.cutAfter 2)).2.device.inner = .ok s₁ ∧
      s₁.view.bytes (⟨1⟩, ⟨1⟩) = some [1] ∧
      ∃ tr' w', (machine RamDisk).exec (fun w op o => decide (Successful w op o)) (start s₁)
        [.begin ⟨2⟩, .write 0 ⟨2⟩ ⟨2⟩ [2]] = some (tr', w') ∧ (of tr').commits = [] ∧ drawn (tr ++ tr') = [⟨1⟩, ⟨2⟩])
    (by decide +kernel)
  have hrun' := Machine.exec_guarded hexec
  have hblank := @not_mem_slots_new _ s₀.superblock.commitLogBlocks 60 (by decide)
  obtain ⟨s, hopen', hkept⟩ := (recovered_stays_iff hf hrun htx (by rw [hws]; simp) rfl
    ⟨_, by rw [hws]; exact .cons ⟨rfl, rfl, rfl⟩ .nil, hrec⟩ hsuper hopen (by rw [hws]; simpa using hfound) hrun'
    (by rw [hnil, hnil', hn]; decide) (by rw [hdrawn]; decide) (.of_blank hblank _)).mpr hnil'
  refine ⟨s₀, tr, w, tx, _, _, s₁, tr', w', s, hf, hrun, htx, rfl, hopen, hrun', hdrawn, hopen', ?_⟩
  exact hkept ⟨⟨1⟩, ⟨1⟩, [1]⟩ (by rw [hws]; simp)

set_option maxRecDepth 100000 in
/-- A recovered first commit is gone after a session with one commit. -/
theorem recovered_commit_is_overwritten : ∃ s₀ tr w tx r s' s₁ tr' w' s,
    format (FailingBlockDevice.new (RamDisk.new 60 (by decide)) .never) = .ok s₀ ∧
    (machine (FailingBlockDevice RamDisk)).Run Successful (start s₀) tr w ∧
    w.txs[0]? = some tx ∧ (commit tx).exec (w.storage.cutAfter 2) = (r, s') ∧
    contents s'.device.inner 0 = contents w.storage.device.inner 0 ∧
    openDevice s'.device.inner = .ok s₁ ∧ s₁.view.bytes (⟨1⟩, ⟨1⟩) = some [1] ∧
    (machine RamDisk).Run Successful (start s₁) tr' w' ∧ drawn (tr ++ tr') = [⟨1⟩, ⟨2⟩] ∧
    (of tr).commits.length + 1 + (of tr').commits.length < s₀.superblock.commitLogBlocks ∧
    openDevice w'.storage.device = .ok s ∧ s.view.bytes (⟨1⟩, ⟨1⟩) = none := by
  obtain ⟨s₀, hf, tr, w, hrun, hp⟩ := exists_run
    (FailingBlockDevice.new (RamDisk.new 60 (by decide)) .never) [.begin ⟨1⟩, .write 0 ⟨1⟩ ⟨1⟩ [1]] Successful
    (fun s₀ tr w => w.txs[0]?.any fun tx =>
      (openDevice ((commit tx).exec (w.storage.cutAfter 2)).2.device.inner).toOption.any
        fun s₁ =>
      ((machine RamDisk).exec (fun w op o => decide (Successful w op o)) (start s₁)
        [.begin ⟨2⟩, .write 0 ⟨2⟩ ⟨2⟩ [2], .commit 0]).any fun (tr', w') =>
      (openDevice w'.storage.device).toOption.any fun s =>
      decide (contents ((commit tx).exec (w.storage.cutAfter 2)).2.device.inner 0 =
          contents w.storage.device.inner 0 ∧
        s₁.view.bytes (⟨1⟩, ⟨1⟩) = some [1] ∧ drawn (tr ++ tr') = [⟨1⟩, ⟨2⟩] ∧
        (of tr).commits.length + 1 + (of tr').commits.length < s₀.superblock.commitLogBlocks ∧
        s.view.bytes (⟨1⟩, ⟨1⟩) = none))
    (by decide +kernel)
  obtain ⟨tx, htx, hp⟩ := (any_eq_true _ _).mp hp
  obtain ⟨s₁, hopen, hp⟩ := exists_ok_of_any hp
  obtain ⟨⟨tr', w'⟩, hexec, hp⟩ := (any_eq_true _ _).mp hp
  obtain ⟨s, hopen', hp⟩ := exists_ok_of_any hp
  obtain ⟨hsuper, hfound, hdrawn, hlt, hlost⟩ := of_decide_eq_true hp
  exact ⟨s₀, tr, w, tx, _, _, s₁, tr', w', s, hf, hrun, htx, rfl, hsuper, hopen, hfound,
    Machine.exec_guarded hexec, hdrawn, hlt, hopen', hlost⟩

end PandaGen.Storage
