import PandaGen.Storage.Json
import PandaGen.Storage.Lemmas.Durability

/-!
# What is found again after `open`
-/

namespace PandaGen.Storage

open Hal Lib BlockStorage Ledger Session

section

variable {D : Type} [BlockDevice D] [DiskFormat] [LawfulBlockDevice D] [LawfulDiskFormat]
  {d : D} {s₀ : BlockStorage D} {tr : Trace} {w : Session (BlockStorage D)}

/-- After `k` commits and a reopen everything is as before just when the `k` records fit into the log
beside slot 0 and the old log was clean, or there is a single record in a log of a single slot. -/
theorem reopen_keeps_iff (hf : format d = .ok s₀)
    (hrun : (machine D).Run Successful (start s₀) tr w) (huniq : (drawn tr).Nodup)
    (hfresh : FreshVersions (slots s₀.superblock.commitLogBlocks (contents d)) (drawn tr)) :
    (∃ s, openDevice w.storage.device = .ok s ∧ w.storage.view.Keeps s.view) ↔
      ((of tr).commits.length < s₀.superblock.commitLogBlocks ∧
        CleanLog (slots s₀.superblock.commitLogBlocks (contents d)) (of tr).commits.length) ∨
      (s₀.superblock.commitLogBlocks = 1 ∧ (of tr).commits.length = 1) := by
  have hfmt := format_formatted hf
  obtain ⟨hn, _, s, rs, hre, hopen, hl, hsound, hlen⟩ := run_reopened hf hrun
  have ht := run_tracks hfmt.geometry hfmt.pending hrun
  have hd := run_distinct hfmt.geometry hfmt.pending hrun huniq
  have hslots := hfmt.slots_eq
  have hiff := hl.keeps_iff hsound hd.commits (fun x hx => (ht.acknowledged.commits x hx).mem_drawn)
    (by rw [hn, hslots]; exact hfresh) hre
  rw [← hlen, ← hslots, ← hn, ← hiff]
  constructor
  · rintro ⟨s', hs', hk⟩
    obtain ⟨-, rfl⟩ := (hopen s').mp hs'
    exact hk
  · intro hk
    refine ⟨s, (hopen s).mpr ⟨?_, rfl⟩, hk⟩
    rw [hl.entriesOf_accepted_of (hiff.mp hk)]
    exact hsound.inRange

end

theorem reopen_keeps_iff_one_commit : ∃ s₀ tr w, format (RamDisk.new 40 (by decide)) = .ok s₀ ∧
    (machine RamDisk).Run Successful (start s₀) tr w ∧ (drawn tr).Nodup ∧ (of tr).commits.length = 1 ∧
    ∃ s, openDevice w.storage.device = .ok s ∧ w.storage.view.Keeps s.view := by
  obtain ⟨s₀, hf, tr, w, hrun, huniq, hlen, hn⟩ := exists_run (RamDisk.new 40 (by decide))
    [.begin ⟨1⟩, .write 0 ⟨1⟩ ⟨1⟩ [1], .commit 0] Successful
    (fun s₀ tr _ => (drawn tr).Nodup ∧ (of tr).commits.length = 1 ∧ s₀.superblock.commitLogBlocks = 2)
    (by decide +kernel)
  have hblank := @not_mem_slots_new _ s₀.superblock.commitLogBlocks 40 (by decide)
  refine ⟨s₀, tr, w, hf, hrun, huniq, hlen, ?_⟩
  refine (reopen_keeps_iff hf hrun huniq (.of_blank hblank _)).mpr (.inl ⟨?_, .of_blank hblank _⟩)
  rw [hlen, hn]
  decide

/-- Two commits on a device with one log block: after `open` the first one is gone. -/
theorem reopen_loses_after_wrap : ∃ s₀ tr w s, format (RamDisk.new 5 (by decide)) = .ok s₀ ∧
    (machine RamDisk).Run Successful (start s₀) tr w ∧ (drawn tr).Nodup ∧ openDevice w.storage.device = .ok s ∧
    w.storage.view.bytes (⟨1⟩, ⟨1⟩) = some [1] ∧ s.view.bytes (⟨1⟩, ⟨1⟩) = none ∧ ¬ w.storage.view.Keeps s.view := by
  obtain ⟨s₀, hf, tr, w, hrun, huniq, hbytes, s, hs, hnone⟩ := exists_run (RamDisk.new 5 (by decide))
    [.begin ⟨1⟩, .write 0 ⟨1⟩ ⟨1⟩ [1], .commit 0, .begin ⟨2⟩, .write 1 ⟨2⟩ ⟨2⟩ [2], .commit 1] Successful
    (fun _ tr w => (drawn tr).Nodup ∧ w.storage.view.bytes (⟨1⟩, ⟨1⟩) = some [1] ∧
      ∃ s : BlockStorage RamDisk, openDevice w.storage.device = .ok s ∧ s.view.bytes (⟨1⟩, ⟨1⟩) = none)
    (by decide +kernel)
  refine ⟨s₀, tr, w, s, hf, hrun, huniq, hs, hbytes, hnone, fun hk => ?_⟩
  have := hk.2 (⟨1⟩, ⟨1⟩) (by rw [hbytes]; rfl)
  rw [hnone, hbytes] at this
  cases this

/-! ## Formatting a used device -/

section

variable {D : Type} [BlockDevice D] [DiskFormat] [LawfulBlockDevice D] [LawfulDiskFormat]
  {d : D} {s₀ : BlockStorage D} {tr : Trace} {w : Session (BlockStorage D)}

/-- After `format`, fewer commits than log blocks and `open`, the store holds the new commits and nothing
else just when the log that the device held before was clean. -/
theorem format_erases_iff (hf : format d = .ok s₀) (hrun : (machine D).Run Successful (start s₀) tr w)
    (hk : (of tr).commits.length < s₀.superblock.commitLogBlocks) (huniq : (drawn tr).Nodup)
    (hfresh : FreshVersions (slots s₀.superblock.commitLogBlocks (contents d)) (drawn tr)) :
    (∃ s, openDevice w.storage.device = .ok s ∧ s.view = (of tr).view) ↔
      CleanLog (slots s₀.superblock.commitLogBlocks (contents d)) (of tr).commits.length := by
  have hfmt := format_formatted hf
  obtain ⟨hn, hview, s, rs, hre, hopen, hl, hsound, hlen⟩ := run_reopened hf hrun
  have ht := run_tracks hfmt.geometry hfmt.pending hrun
  have hd := run_distinct hfmt.geometry hfmt.pending hrun huniq
  have hslots := hfmt.slots_eq
  rw [← hview, ← hslots, ← hlen, ← hn]
  constructor
  · rintro ⟨s', hs', hv⟩
    obtain ⟨-, rfl⟩ := (hopen s').mp hs'
    have hkeeps : w.storage.view.Keeps s.view := by
      rw [hv]
      exact ⟨rfl, fun _ _ => rfl⟩
    rcases (hl.keeps_iff hsound hd.commits (fun x hx => (ht.acknowledged.commits x hx).mem_drawn)
      (by rw [hn, hslots]; exact hfresh) hre).mp hkeeps with ⟨_, hclean⟩ | ⟨_, _⟩
    · exact hclean
    · omega
  · intro hclean
    have hfound := hl.entriesOf_accepted (by omega) hclean
    exact ⟨s, (hopen s).mpr ⟨by rw [hfound]; exact hsound.inRange, rfl⟩, hre.view_eq hsound.indexed hfound⟩

end

set_option synthInstance.maxSize 1000 in
/-- One commit, `format`, one commit, `open`: the new record has taken the slot of the old one. -/
theorem format_erases_iff_used_device : ∃ s₀ tr₀ w₀ s₁ tr w, format (RamDisk.new 60 (by decide)) = .ok s₀ ∧
    (machine RamDisk).Run Successful (start s₀) tr₀ w₀ ∧ (of tr₀).commits = [[⟨⟨1⟩, ⟨1⟩, [1]⟩]] ∧
    format w₀.storage.device = .ok s₁ ∧ (machine RamDisk).Run Successful (start s₁) tr w ∧
    (of tr).commits = [[⟨⟨2⟩, ⟨2⟩, [2]⟩]] ∧ ∃ s, openDevice w.storage.device = .ok s ∧ s.view = (of tr).view := by
  obtain ⟨s₀, hf₀, tr₀, w₀, hrun₀, hcommits₀, s₁, hf₁, tr, w, hexec, hcommits, huniq, hn, hfirst, hlater, hfresh⟩ :=
    exists_run (RamDisk.new 60 (by decide)) [.begin ⟨1⟩, .write 0 ⟨1⟩ ⟨1⟩ [1], .commit 0] Successful
    (fun _ tr₀ w₀ => (of tr₀).commits = [[⟨⟨1⟩, ⟨1⟩, [1]⟩]] ∧
      ∃ s₁ : BlockStorage RamDisk, format w₀.storage.device = .ok s₁ ∧
      ∃ tr w, (machine RamDisk).exec (fun w op o => decide (Successful w op o)) (start s₁)
        [.begin ⟨2⟩, .write 0 ⟨2⟩ ⟨2⟩ [2], .commit 0] = some (tr, w) ∧
      (of tr).commits = [[⟨⟨2⟩, ⟨2⟩, [2]⟩]] ∧ (drawn tr).Nodup ∧ s₁.superblock.commitLogBlocks = 3 ∧
      (slots 3 (contents w₀.storage.device)).head? = some none ∧
      (slots 3 (contents w₀.storage.device)).drop 2 = [none] ∧
      ∀ slot ∈ slots 3 (contents w₀.storage.device), ∀ r ∈ slot, ∀ e ∈ r.allocations, e.versionId ∉ drawn tr)
    (by decide +kernel)
  refine ⟨s₀, tr₀, w₀, s₁, tr, w, hf₀, hrun₀, hcommits₀, hf₁, Machine.exec_guarded hexec, hcommits, ?_⟩
  have hiff := format_erases_iff hf₁ (Machine.exec_guarded hexec) (by rw [hcommits, hn]; decide) huniq
    (by rw [hn]; exact fun r hr => hfresh _ hr r rfl)
  rw [hn, hcommits] at hiff
  refine hiff.mpr ⟨fun _ r hr => ?_, ?_⟩
  · cases hfirst.symm.trans hr
  · rintro r ⟨pre, post, heq, -⟩
    have hmem : some r ∈ [(none : Option CommitRecord)] := by
      rw [← hlater, show (slots 3 (contents w₀.storage.device)).drop 2 = _ from heq]
      simp
    simp at hmem

set_option synthInstance.maxSize 1000 in
/-- Two commits, `format`, one commit, `open`: the second of the old commits is back. -/
theorem format_keeps_old_commit : ∃ s₀ tr₀ w₀ s₁ tr w s, format (RamDisk.new 60 (by decide)) = .ok s₀ ∧
    (machine RamDisk).Run Successful (start s₀) tr₀ w₀ ∧ format w₀.storage.device = .ok s₁ ∧
    (machine RamDisk).Run Successful (start s₁) tr w ∧
    (drawn (tr₀ ++ tr)).Nodup ∧ (of tr).commits.length < s₁.superblock.commitLogBlocks ∧
    openDevice w.storage.device = .ok s ∧ s.view.bytes (⟨2⟩, ⟨2⟩) = some [2] ∧ s.view ≠ (of tr).view := by
  obtain ⟨s₀, hf₀, tr₀, w₀, hrun₀, s₁, hf₁, tr, w, hexec, huniq, hk, hnone, s, hs, hold⟩ := exists_run
    (RamDisk.new 60 (by decide))
    [.begin ⟨1⟩, .write 0 ⟨1⟩ ⟨1⟩ [1], .commit 0, .begin ⟨2⟩, .write 1 ⟨2⟩ ⟨2⟩ [2], .commit 1] Successful
    (fun _ tr₀ w₀ => ∃ s₁ : BlockStorage RamDisk, format w₀.storage.device = .ok s₁ ∧
      ∃ tr w, (machine RamDisk).exec (fun w op o => decide (Successful w op o)) (start s₁)
        [.begin ⟨3⟩, .write 0 ⟨3⟩ ⟨3⟩ [3], .commit 0] = some (tr, w) ∧
      (drawn (tr₀ ++ tr)).Nodup ∧ (of tr).commits.length < s₁.superblock.commitLogBlocks ∧
      (of tr).view.bytes (⟨2⟩, ⟨2⟩) = none ∧
      ∃ s : BlockStorage RamDisk, openDevice w.storage.device = .ok s ∧
        s.view.bytes (⟨2⟩, ⟨2⟩) = some [2])
    (by decide +kernel)
  refine ⟨s₀, tr₀, w₀, s₁, tr, w, s, hf₀, hrun₀, hf₁, Machine.exec_guarded hexec, huniq, hk, hs, hold, fun hv => ?_⟩
  rw [hv, hnone] at hold
  cases hold

end PandaGen.Storage
