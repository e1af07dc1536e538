import PandaGen.Storage.Lemmas.Refinement
import PandaGen.Storage.PersistentFs

/-!
# Objects of a filesystem

Between two calls of a filesystem no write is pending.
-/

namespace PandaGen.Storage

open Hal Lib Proc LawfulBlockDevice Std.ExtTreeMap List Option

/-! ## Commits that do not panic -/

namespace BlockStorage

variable {D : Type} {s : BlockStorage D}

theorem safe_onDevice {α : Type} (f : D → Except BlockError α × D) : (onDevice f).Safe s := by
  rw [Safe, post_onDevice]
  split <;> simp

variable [BlockDevice D]

theorem safe_writeData (blocks : List Nat) (data : List UInt8) : (writeData blocks data).Safe s := by
  induction blocks generalizing s data with
  | nil => exact safe_onDevice _
  | cons b blocks ih => exact (safe_onDevice _).bind fun _ _ => ih _

theorem safe_writeEntry {w} (h : w.data ≠ []) : (writeEntry w).Safe s := by
  rw [writeEntry, Safe, post_bind, post_mapErr]
  refine post_allocateBlocks ?_ (by simp)
  intro hcard
  obtain ⟨_, _, _, hlen⟩ := takeLowest_spec (blocksFor w.data.length) s.freeBlocks
  cases hbs : (takeLowest (blocksFor w.data.length) s.freeBlocks).1 with
  | nil =>
    have hpos : 0 < blocksFor w.data.length := blocksFor_pos (length_pos_iff.mpr h)
    rw [hbs, length_nil] at hlen
    omega
  | cons b bs => exact ((safe_writeData (b :: bs) w.data).mapErr _).bind fun _ _ => safe_pure _

theorem safe_writePending {ws} (h : ∀ w ∈ ws, w.data ≠ []) : (writePending ws).Safe s := by
  induction ws generalizing s with
  | nil => exact safe_pure _
  | cons w ws ih =>
    obtain ⟨hw, hws⟩ := forall_mem_cons.mp h
    exact (safe_writeEntry hw).bind fun _ _ => (ih hws).bind fun _ _ => safe_pure _

variable [DiskFormat]

theorem safe_writeSuperblock : (writeSuperblock : Proc (BlockStorage D) BlockStorageError Unit).Safe s := by
  exact (safe_okOr _ _).bind fun _ _ => (safe_failIf _ _).bind fun _ _ =>
    (safe_onDevice _).bind fun _ _ => safe_onDevice _

theorem safe_writeCommitRecord {t es} (hlog : s.superblock.commitLogBlocks ≠ 0)
    (hseq : s.superblock.commitSequence + 1 < 2 ^ 64) (hslot : s.nextSlot < 2 ^ 64) :
    (writeCommitRecord t es).Safe s := by
  rw [writeCommitRecord, Safe, post_get_bind, post_okOrPanic_bind, checkedAdd, if_pos hseq]
  refine (safe_okOr _ _).bind fun _ _ => (safe_failIf _ _).bind fun _ _ => ?_
  rw [Safe, post_failIf_bind, if_neg hlog, post_okOrPanic_bind]
  rw [nextSlot, nextSuperblock] at hslot
  simp only [checkedAdd, hslot, if_true]
  exact (safe_onDevice _).bind fun _ _ => (safe_onDevice _).bind fun _ _ => safe_writeSuperblock

variable [LawfulBlockDevice D]

theorem safe_commit {tx} (hlog : s.superblock.commitLogBlocks ≠ 0) (hslot : s.nextSlot < 2 ^ 64)
    (hroom : s.superblock.commitSequence + s.freeBlocks.card < 2 ^ 64)
    (h : ∀ ws, s.pending[tx.id]? = some ws → ws ≠ [] ∧ ∀ w ∈ ws, w.data ≠ []) : (commit tx).Safe s := by
  simp only [commit, Safe, post_bind, post_failIf]
  split
  · simp
  rename_i hactive
  have hcommit : tx.commit = .ok { tx with state := .committed } := by
    simp [Transaction.commit, not_not.mp hactive]
  simp only [post_get, hcommit]
  cases hp : s.pending[tx.id]? with
  | none => simp
  | some ws =>
    obtain ⟨hws, hdata⟩ := h ws hp
    refine (safe_writePending hdata).bind ?_
    -- the data blocks leave the superblock as it is, and take a block
    refine (post_writePending ws).mono ?_
    rintro _ _ ⟨d, F, ⟨rfl, _⟩, _, hes⟩ es rfl
    have htaken : F.card < s.freeBlocks.card := (hes es rfl).taken hws
    refine Safe.bind (Safe.mapErr (safe_writeCommitRecord ?_ ?_ ?_) _) fun _ _ => ?_
    · exact hlog
    · show s.superblock.commitSequence + 1 < 2 ^ 64
      omega
    · exact hslot
    · rw [Safe, post_bind, post_modify]
      exact safe_pure _

omit [LawfulBlockDevice D] in
/-- A commit that steps the sequence takes a block. -/
theorem CommitOutcome.room_le {tx r s'} (h : CommitOutcome s tx r s') (hne : s.pending[tx.id]? ≠ some []) :
    s'.superblock.commitSequence + s'.freeBlocks.card ≤ s.superblock.commitSequence + s.freeBlocks.card := by
  have hws {ws} (hp : s.pending[tx.id]? = some ws) : ws ≠ [] := fun hnil => hne (hnil ▸ hp)
  cases h with
  | finalized | empty => exact Nat.le_refl _
  | @aborted ws r d F q _ hp _ _ hF _ hq =>
    have hle := Finset.card_le_card hF.subset
    show q + F.card ≤ _
    obtain ⟨rfl, -⟩ | ⟨rfl, htaken⟩ := hq
    · omega
    · have hlt := htaken (hws hp)
      simp only [nextSuperblock]
      omega
  | recorded _ hp _ _ hdata _ _ =>
    have hlt := hdata.taken (hws hp)
    simp only [nextSuperblock]
    omega
  | committed _ hp _ hdata _ _ =>
    have hlt := hdata.taken (hws hp)
    simp only [foldl_recordAllocation_frame, nextSuperblock]
    omega

end BlockStorage

/-! ## Latest contents -/

namespace View

def contents (v : View) (o : ObjectId) : Option (List UInt8) := (v.latest o).bind fun ver => v.bytes (o, ver)

theorem contents_write (v : View) (w : PendingWrite) (o) :
    (v.write w).contents o = if w.objectId = o then some w.data else v.contents o := by
  by_cases h : w.objectId = o
  · subst h
    simp [contents, write]
  · have hne : ∀ ver, (o, ver) ≠ (w.objectId, w.versionId) := fun ver heq => h (Prod.mk.inj heq).1.symm
    simp [contents, write, h, Ne.symm h, hne]

def Full (v : View) : Prop := ∀ o ver, v.latest o = some ver → ∃ bytes, v.bytes (o, ver) = some bytes

theorem Full.write {v : View} (h : v.Full) (w) : (v.write w).Full := by
  intro o ver hlatest
  simp only [View.write, Function.update_apply] at hlatest ⊢
  by_cases hk : (o, ver) = (w.objectId, w.versionId)
  · exact ⟨w.data, if_pos hk⟩
  · rw [if_neg hk]
    split at hlatest
    · rename_i ho
      exact absurd (Prod.ext ho (some.inj hlatest).symm) hk
    · exact h o ver hlatest

theorem full_commit (ws) : (View.empty.commit ws).Full := by
  induction ws using reverseRecOn with
  | nil =>
    intro o ver h
    cases h
  | append_singleton ws w ih =>
    rw [View.commit, foldl_append]
    exact ih.write w

end View

/-! ## Reads and writes of objects -/

namespace BlockStorage

variable {D : Type} [BlockDevice D] {s s' : BlockStorage D}

theorem readData_device [LawfulBlockDevice D] (blocks n) :
    (readData blocks n).Post s fun _ s' => ∃ d, s' = { s with device := d } ∧
      blockCount d = blockCount s.device ∧ Hal.contents d = Hal.contents s.device := by
  induction blocks generalizing s n with
  | nil => exact ⟨s.device, rfl, rfl, rfl⟩
  | cons b blocks ih =>
    have hcount := readBlock_blockCount s.device b
    have hcont := readBlock_contents s.device b
    rw [readData, post_bind, post_onDevice]
    split
    · dsimp only
      split
      · exact ⟨_, rfl, hcount, hcont⟩
      · rw [post_bind]
        refine ih _ |>.mono ?_
        rintro r _ ⟨d, rfl, hd, hc⟩
        cases r with
        | ok rest | error e => exact ⟨d, rfl, hd.trans hcount, hc.trans hcont⟩
    · exact ⟨_, rfl, hcount, hcont⟩

theorem readObjectData_device [LawfulBlockDevice D] (o v) :
    (readObjectData o v).Post s fun _ s' => ∃ d, s' = { s with device := d } ∧
      blockCount d = blockCount s.device ∧ Hal.contents d = Hal.contents s.device := by
  rw [readObjectData, post_bind, post_get]
  dsimp only
  split
  · exact ⟨s.device, rfl, rfl, rfl⟩
  · rw [post_bind, post_okOr]
    cases s.allocations[(o, v)]? with
    | none => exact ⟨s.device, rfl, rfl, rfl⟩
    | some e =>
      dsimp only
      rw [post_bind, post_okOrPanic]
      cases e.blocks with
      | none => exact ⟨s.device, rfl, rfl, rfl⟩
      | some blocks => exact readData_device blocks e.sizeBytes

variable [DiskFormat]

structure Settled (s : BlockStorage D) : Prop where
  sound : ∃ ws es, s.Sound ws es
  pending : s.pending = ∅
  room : s.superblock.commitSequence + s.freeBlocks.card < 2 ^ 64

theorem CommitEffect.pending_empty {tx w r} (h : s.pending = ∅)
    (he : (s.addPending tx.id w).CommitEffect tx r s') (hactive : tx.state = .active) : s'.pending = ∅ := by
  refine ext_getElem? fun t => ?_
  cases hp : s'.pending[t]? with
  | none => rfl
  | some xs =>
    have hadd := he.pending_sub hp
    have hdrop := he.pending_getD hactive t
    rw [hp, getD_some] at hdrop
    simp only [addPending, h, BTreeMap.getElem?_insert, getElem?_empty] at hadd
    split at hadd
    · rename_i ht
      rw [if_pos ht] at hdrop
      rw [hdrop] at hadd
      simp at hadd
    · cases hadd

variable [LawfulBlockDevice D]

theorem Settled.full (h : s.Settled) : s.view.Full := by
  obtain ⟨ws, es, hs⟩ := h.sound
  rw [hs.view_eq]
  exact View.full_commit ws

end BlockStorage

namespace PersistentFilesystem

open BlockStorage

variable {D : Type} [BlockDevice D]

/-! ## Objects -/

variable [LawfulBlockDevice D] [DiskFormat] {s : BlockStorage D}

theorem post_readObject (h : s.Settled) (t o) : (readObject t o).Post s fun r s' => s'.Settled ∧ s'.view = s.view ∧
      match s.view.contents o with
      | some bytes => r = .ok bytes
      | none => r = .error (.err (.objectNotFound (objectIdText o))) := by
  rw [readObject, post_bind, post_get]
  cases hl : s.latestVersions[o]? with
  | none =>
    have hread : s.read (Transaction.new t) o = .error (.objectNotFound (objectIdText o)) := by
      simp [BlockStorage.read, Transaction.new, h.pending, hl]
    have hnone : s.view.contents o = none := by simp [View.contents, BlockStorage.view, hl]
    simp only [hread, hnone]
    exact ⟨h, rfl, rfl⟩
  | some v =>
    have hread : s.read (Transaction.new t) o = .ok v := by
      simp [BlockStorage.read, Transaction.new, h.pending, hl]
    have hlatest : s.view.latest o = some v := hl
    obtain ⟨bytes, hb⟩ := h.full o v hl
    have hsome : s.view.contents o = some bytes := by rw [View.contents, hlatest, bind_some, hb]
    obtain ⟨e, he, hentry⟩ := bind_eq_some_iff.mp hb
    have hok : ((readObjectData o v).exec s).1 = .ok bytes := by
      rcases readObjectData_cases s o v with ⟨t, xs, y, hp, _⟩ | ⟨_, hdata⟩
      · simp [h.pending] at hp
      · exact hdata e bytes he hentry
    simp only [hread, hsome, post_mapErr]
    obtain ⟨d, hs', hn, hc⟩ := readObjectData_device (s := s) o v
    obtain ⟨ws, es, hsound⟩ := h.sound
    have hsound' := hsound.withDevice hn hc
    rw [Post, hok, hs']
    exact ⟨⟨⟨ws, es, hsound'⟩, h.pending, h.room⟩, by rw [hsound'.view_eq, hsound.view_eq], rfl⟩

theorem readObject_congr {s' : BlockStorage D} (h : s.Settled) (h' : s'.Settled) {o}
    (hc : s'.view.contents o = s.view.contents o) (t) : ((readObject t o).exec s').1 = ((readObject t o).exec s).1 := by
  obtain ⟨_, _, hr⟩ := post_readObject h t o
  obtain ⟨_, _, hr'⟩ := post_readObject h' t o
  rw [hc] at hr'
  cases hb : s.view.contents o with
  | none | some bytes =>
    rw [hb] at hr hr'
    exact hr'.trans hr.symm

variable [LawfulDiskFormat]

theorem post_writeObject (h : s.Settled) (draw o) {data} (hdata : data ≠ []) :
    (writeObject draw o data).Post s fun r s' => s'.Settled ∧
      ((r = .ok draw.version ∧ s'.view = s.view.write ⟨o, draw.version, data⟩) ∨
        ((∃ e, r = .error (.err e)) ∧ s'.view = s.view)) := by
  obtain ⟨ws, es, hs⟩ := h.sound
  have hactive : ¬ (Transaction.new draw.tx).state ≠ .active := not_not.mpr rfl
  rw [writeObject, post_bind, BlockStorage.write, post_failIf_bind, if_neg hactive, post_bind, post_modify, post_pure]
  change Post _ (s.addPending (Transaction.new draw.tx).id ⟨o, draw.version, data⟩) _
  have hpend : (s.addPending draw.tx ⟨o, draw.version, data⟩).pending[draw.tx]? = some [⟨o, draw.version, data⟩] := by
    simp [addPending, h.pending]
  have hs1 : (s.addPending draw.tx ⟨o, draw.version, data⟩).Sound ws es := hs.withPending _
  have hsafe : (commit (Transaction.new draw.tx)).Safe (s.addPending draw.tx ⟨o, draw.version, data⟩) := by
    refine safe_commit ?_ ?_ h.room ?_
    · exact Nat.ne_of_gt hs.geometry.fits.commitLogBlocks_pos
    · have hslot := hs1.geometry.nextSlot_eq.2
      have hdata := hs1.geometry.fits.dataStart_lt
      have htotal := hs1.geometry.fits.totalBlocks
      have hcount := LawfulBlockDevice.blockCount_lt (s.addPending draw.tx ⟨o, draw.version, data⟩).device
      omega
    · intro ws hws
      rw [show (Transaction.new draw.tx).id = draw.tx from rfl, hpend] at hws
      cases hws
      exact ⟨cons_ne_nil _ _, fun w hw => mem_singleton.mp hw ▸ hdata⟩
  rw [post_bind]
  refine Post.mono (Q := fun r s' => CommitOutcome _ _ r s' ∧ r ≠ .error .panic)
    ⟨commit_outcome (Transaction.new draw.tx), hsafe⟩ ?_
  rintro r s' ⟨ho, hne⟩
  have he := ho.effect hs1.geometry
  have hempty := CommitEffect.pending_empty h.pending he rfl
  have hroom : s'.superblock.commitSequence + s'.freeBlocks.card < 2 ^ 64 := by
    refine Nat.lt_of_le_of_lt (ho.room_le ?_) h.room
    rw [show (Transaction.new draw.tx).id = draw.tx from rfl, hpend]
    simp
  obtain ⟨es', hs'⟩ := hs1.commit he
  rcases r with (e | _) | tx
  · exact ⟨⟨⟨_, _, hs'⟩, hempty, hroom⟩, .inr ⟨⟨e, rfl⟩, by rw [hs'.view_eq, hs.view_eq]⟩⟩
  · exact absurd rfl hne
  · have hs' : s'.Sound (ws ++ [⟨o, draw.version, data⟩]) es' := by
      rw [show (Transaction.new draw.tx).id = draw.tx from rfl, hpend] at hs'
      exact hs'
    refine ⟨⟨⟨_, _, hs'⟩, hempty, hroom⟩, .inl ⟨rfl, ?_⟩⟩
    show s'.view = _
    rw [hs'.view_eq, hs.view_eq, View.commit, foldl_append]
    rfl

end PersistentFilesystem

end PandaGen.Storage
