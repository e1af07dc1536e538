import PandaGen.Storage.Json
import PandaGen.Storage.Lemmas.PersistentFs

/-!
# Writes that find room

On a device that never fails, a write is carried out exactly if there are free blocks for its data. The superblock and
the commit record of a write are small: `Compact` says that they fit in a block.
-/

namespace PandaGen.Storage

open Hal Lib Proc BlockStorage LawfulBlockDevice ReliableBlockDevice

def FitsBlock {α : Type} [SerdeJson α] (a : α) : Prop := ∃ text, toVec a = some text ∧ text.length ≤ blockSize

structure Superblock.Compact [DiskFormat] (sb : Superblock) : Prop where
  superblock : ∀ q < 2 ^ 64, FitsBlock { sb with commitSequence := q }
  record : ∀ t, ∀ q < 2 ^ 64, ∀ e : AllocationEntry, e.blockIdx < sb.totalBlocks →
    blocksFor e.sizeBytes ≤ sb.totalBlocks → FitsBlock (CommitRecord.new t q [e])

namespace BlockStorage

variable {D : Type} {s s' s'' : BlockStorage D} {n n' : Nat}

/-- From `s` to `s'` a number of free blocks is taken, and nothing else of the layout changes. -/
structure Spends (n : Nat) (s s' : BlockStorage D) : Prop where
  free : s'.freeBlocks.card + n = s.freeBlocks.card
  superblock : ∃ q, s'.superblock = { s.superblock with commitSequence := q }

theorem Spends.refl (s : BlockStorage D) : Spends 0 s s := ⟨rfl, s.superblock.commitSequence, rfl⟩

theorem Spends.trans (h : Spends n s s') (h' : Spends n' s' s'') : Spends (n + n') s s'' := by
  obtain ⟨hfree, q, hq⟩ := h
  obtain ⟨hfree', q', hq'⟩ := h'
  exact ⟨by omega, q', by rw [hq', hq]⟩

theorem Spends.compact [DiskFormat] (h : Spends n s s')
    (hc : s.superblock.Compact) : s'.superblock.Compact := by
  obtain ⟨_, q, hq⟩ := h
  rw [hq]
  exact ⟨hc.superblock, hc.record⟩

theorem card_takeLowest {n free} (h : n ≤ free.card) : (takeLowest n free).2.card + n = free.card := by
  obtain ⟨hnodup, hsub, hrest, hlen⟩ := takeLowest_spec n free
  have htaken : (takeLowest n free).1.toFinset.card = n := (List.toFinset_card_of_nodup hnodup).trans (hlen h)
  rw [hrest, Finset.card_sdiff_of_subset fun b hb => hsub b (List.mem_toFinset.mp hb), htaken]
  omega

/-! ## Reads -/

variable [BlockDevice D] [LawfulBlockDevice D]

theorem readObject_spends (t o) : (PersistentFilesystem.readObject t o).Post s fun _ s' => Spends 0 s s' := by
  rw [PersistentFilesystem.readObject, post_get_bind]
  split
  · exact .refl s
  · rw [post_mapErr]
    refine (readObjectData_device o _).mono ?_
    rintro ((_ | _) | _) _ ⟨d, rfl, -⟩ <;> exact ⟨rfl, s.superblock.commitSequence, rfl⟩

/-! ## Writes -/

variable [ReliableBlockDevice D]

section

variable {Q : Except (Fault BlockStorageError) Unit → BlockStorage D → Prop}
  (hok : ∀ d, blockCount d = blockCount s.device → Q (.ok ()) { s with device := d })
include hok

theorem post_writeBlock_inside {i b} (hi : i < blockCount s.device) :
    (onDevice fun d => writeBlock d i b).Post s Q := by
  rw [post_onDevice, writeBlock_inside _ _ hi]
  exact hok _ (writeBlock_blockCount _ _ _)

theorem post_flush_ok : (onDevice flush : Proc (BlockStorage D) _ _).Post s Q := by
  rw [post_onDevice, flush_ok]
  exact hok _ (flush_blockCount _)

end

theorem writeData_ok (blocks data) (h : ∀ b ∈ blocks, b < blockCount s.device) :
    (writeData blocks data).Post s fun r s' => r = .ok () ∧ ∃ d, s' = { s with device := d } ∧
      blockCount d = blockCount s.device := by
  induction blocks generalizing s data with
  | nil => exact post_flush_ok fun d hd => ⟨rfl, d, rfl, hd⟩
  | cons b blocks ih =>
    obtain ⟨hb, hblocks⟩ := List.forall_mem_cons.mp h
    rw [writeData, post_bind]
    refine post_writeBlock_inside (fun d hd => ?_) hb
    refine (ih (s := { s with device := d }) _ fun b' hb' => hd ▸ hblocks b' hb').mono ?_
    rintro _ _ ⟨rfl, d', rfl, hd'⟩
    exact ⟨rfl, d', rfl, hd'.trans hd⟩

theorem writeEntry_ok {w} (hdata : w.data ≠ []) (hfree : ∀ b ∈ s.freeBlocks, b < blockCount s.device) :
    (writeEntry w).Post s fun r s' =>
      (∃ e d F, r = .ok e ∧ e.blockIdx < blockCount s.device ∧ e.sizeBytes = w.data.length ∧
        blockCount d = blockCount s.device ∧ F.card + blocksFor w.data.length = s.freeBlocks.card ∧
        s' = { s with device := d, freeBlocks := F }) ∨
      (s.freeBlocks.card < blocksFor w.data.length ∧ (∃ e, r = .error (.err e)) ∧ s' = s) := by
  rw [writeEntry, post_bind, post_mapErr]
  refine post_allocateBlocks ?_ ?_
  · intro hcard
    obtain ⟨-, hsub, -, hlen⟩ := takeLowest_spec (blocksFor w.data.length) s.freeBlocks
    have hpos : 0 < blocksFor w.data.length := blocksFor_pos (List.length_pos_iff.mpr hdata)
    have hrest := card_takeLowest hcard
    have hlen := hlen hcard
    generalize (takeLowest (blocksFor w.data.length) s.freeBlocks).2 = F at hrest ⊢
    generalize (takeLowest (blocksFor w.data.length) s.freeBlocks).1 = bs at hsub hlen ⊢
    cases bs with
    | nil => exact absurd hlen hpos.ne
    | cons b bs =>
      have hinside : ∀ b' ∈ b :: bs, b' < blockCount s.device := fun b' hb' => hfree b' (hsub b' hb')
      simp only [post_bind, post_mapErr]
      refine (writeData_ok (s := { s with freeBlocks := F }) (b :: bs) w.data hinside).mono ?_
      rintro _ _ ⟨rfl, d, rfl, hd⟩
      exact .inl ⟨_, d, F, rfl, hinside b List.mem_cons_self, rfl, hd, hrest, rfl⟩
  · exact fun hcard => .inr ⟨hcard, ⟨_, rfl⟩, rfl⟩

variable [DiskFormat]

theorem writeSuperblock_ok (hsb : FitsBlock s.superblock) (hpos : 0 < blockCount s.device) :
    (writeSuperblock : Proc (BlockStorage D) _ _).Post s fun r s' => r = .ok () ∧ ∃ d, s' = { s with device := d } := by
  obtain ⟨text, htext, hlen⟩ := hsb
  simp only [writeSuperblock, post_bind, post_get, post_okOr, htext, post_failIf, gt_iff_lt, hlen.not_gt, if_false]
  exact post_writeBlock_inside (fun _ _ => post_flush_ok fun d _ => ⟨rfl, d, rfl⟩) hpos

theorem writeCommitRecord_ok {t es} (hseq : s.superblock.commitSequence + 1 < 2 ^ 64)
    (hslot : s.nextSlot < blockCount s.device) (hlog : s.superblock.commitLogBlocks ≠ 0)
    (hrecord : FitsBlock (s.nextRecord t es))
    (hsb : FitsBlock s.nextSuperblock) : (writeCommitRecord t es).Post s fun r s' => r = .ok () ∧
      ∃ d, s' = { s with device := d, superblock := s.nextSuperblock } := by
  obtain ⟨text, htext, hlen⟩ := hrecord
  have hrec : CommitRecord.new t (s.superblock.commitSequence + 1) es = s.nextRecord t es := rfl
  have hidx : checkedAdd s.superblock.commitLogStart
      ((s.superblock.commitSequence + 1) % s.superblock.commitLogBlocks) =
      some s.nextSlot := if_pos (hslot.trans (blockCount_lt s.device))
  rw [writeCommitRecord, post_get_bind, post_okOrPanic_bind, checkedAdd, if_pos hseq]
  simp only [post_bind, post_modify, post_get, post_okOr, hrec, htext, post_failIf, gt_iff_lt, hlen.not_gt, hlog,
    if_false, post_okOrPanic, hidx]
  refine post_writeBlock_inside (fun d hd => post_flush_ok fun d' hd' => ?_) hslot
  have hpos : 0 < blockCount d' := by
    rw [show blockCount d' = blockCount s.device from hd'.trans hd]
    omega
  exact (writeSuperblock_ok (s := { s with device := d', superblock := s.nextSuperblock }) hsb hpos).mono
    fun _ _ h => ⟨h.1, h.2⟩

omit [LawfulBlockDevice D] [ReliableBlockDevice D] in
theorem post_writeObject_iff (h : s.pending = ∅) {draw o data} {Q : Except (Fault TransactionError) VersionId → _} :
    (PersistentFilesystem.writeObject draw o data).Post s Q ↔ (do
      let alloc ← writeEntry ⟨o, draw.version, data⟩
      (writeCommitRecord draw.tx [alloc]).mapErr storageError
      modify fun s => recordAllocation s alloc
      pure draw.version : Proc (BlockStorage D) TransactionError VersionId).Post s Q := by
  have hactive : ¬ (Transaction.new draw.tx).state ≠ .active := not_not.mpr rfl
  have hpending : (s.addPending draw.tx ⟨o, draw.version, data⟩).pending[(Transaction.new draw.tx).id]? =
      some [⟨o, draw.version, data⟩] := by
    simp [addPending, h, Transaction.new]
  have herased : { s.addPending draw.tx ⟨o, draw.version, data⟩ with
      pending := (s.addPending draw.tx ⟨o, draw.version, data⟩).pending.erase draw.tx } = s := by
    have hempty : (s.addPending draw.tx ⟨o, draw.version, data⟩).pending.erase draw.tx = s.pending := by
      refine Std.ExtTreeMap.ext_getElem? fun t => ?_
      simp only [addPending, h, BTreeMap.getElem?_erase, BTreeMap.getElem?_insert]
      split <;> rfl
    rw [hempty]
    rfl
  rw [PersistentFilesystem.writeObject, post_bind, BlockStorage.write, post_failIf_bind, if_neg hactive, post_bind,
    post_modify, post_pure]
  change Post _ (s.addPending draw.tx ⟨o, draw.version, data⟩) _ ↔ _
  rw [commit, post_bind, post_failIf_bind, if_neg hactive, post_get_bind, hpending]
  simp only [post_bind, post_set, writePending]
  rw [show (Transaction.new draw.tx).id = draw.tx from rfl, herased]
  exact Iff.rfl

omit [LawfulBlockDevice D] [ReliableBlockDevice D] in
/-- A write of no data panics. -/
theorem writeObject_nil (h : s.pending = ∅) (draw o) :
    (PersistentFilesystem.writeObject draw o []).Post s fun r _ => r.isOk = false := by
  rw [post_writeObject_iff h, post_bind, writeEntry, post_bind, post_mapErr]
  refine post_allocateBlocks (fun _ => ?_) fun _ => ?_
  · rw [show takeLowest (blocksFor ([] : List UInt8).length) s.freeBlocks = ([], s.freeBlocks) from rfl]
    exact rfl
  · exact rfl

/-- A call that takes `n` blocks if there are as many, and fails if there are not. -/
def Takes {α : Type} (n : Nat) (s : BlockStorage D) (r : Except (Fault TransactionError) α) (s' : BlockStorage D) :
    Prop :=
  (n ≤ s.freeBlocks.card ∧ (∃ a, r = .ok a) ∧ Spends n s s') ∨
    (s.freeBlocks.card < n ∧ (∃ e, r = .error (.err e)) ∧ Spends 0 s s')

theorem writeObject_takes (h : s.Settled) (hcompact : s.superblock.Compact) (draw o) {data} (hdata : data ≠ []) :
    (PersistentFilesystem.writeObject draw o data).Post s (Takes (blocksFor data.length) s) := by
  obtain ⟨ws, es, hs⟩ := h.sound
  have hfits := hs.geometry.fits
  have hfree : ∀ b ∈ s.freeBlocks, b < blockCount s.device := fun b hb =>
    hfits.totalBlocks ▸ (Finset.mem_Ico.mp (hs.geometry.free hb)).2
  have hcard : s.freeBlocks.card ≤ s.superblock.totalBlocks := by
    have := Finset.card_le_card hs.geometry.free
    rw [Nat.card_Ico] at this
    omega
  rw [post_writeObject_iff h.pending, post_bind]
  refine (writeEntry_ok hdata hfree).mono ?_
  rintro _ _ (⟨e, d, F, rfl, hidx, hsize, hd, hF, rfl⟩ | ⟨hshort, ⟨e, rfl⟩, rfl⟩)
  · have hF : F.card + blocksFor data.length = s.freeBlocks.card := hF
    have hpos : 0 < blocksFor data.length := blocksFor_pos (List.length_pos_iff.mpr hdata)
    have hq : s.nextSuperblock.commitSequence < 2 ^ 64 := by
      have hroom := h.room
      simp only [nextSuperblock]
      omega
    simp only [post_bind, post_mapErr]
    refine (writeCommitRecord_ok ?_ ?_ ?_ ?_ ?_).mono ?_
    · exact hq
    · show s.nextSlot < blockCount d
      rw [show blockCount d = s.superblock.totalBlocks from hd.trans hfits.totalBlocks.symm]
      exact hs.geometry.nextSlot_eq.2.trans hfits.dataStart_lt
    · exact hfits.commitLogBlocks_pos.ne'
    · exact hcompact.record _ _ hq e (hfits.totalBlocks ▸ hidx) (by rw [hsize]; show blocksFor data.length ≤ _; omega)
    · exact hcompact.superblock _ hq
    · rintro _ _ ⟨rfl, d', rfl⟩
      exact .inl ⟨by omega, ⟨_, rfl⟩, hF, _, rfl⟩
  · exact .inr ⟨hshort, ⟨e, rfl⟩, .refl _⟩

end BlockStorage

/-! ## Directories -/

namespace PersistentFilesystem

section

variable {D : Type} [SerdeJson PersistentDirectory]

def directoryBlocks (dir : PersistentDirectory) : Nat := blocksFor ((toVec dir).getD []).length

def HasRoom (s : BlockStorage D) (dir : PersistentDirectory) : Prop :=
  (toVec dir).isSome ∧ directoryBlocks dir ≤ s.freeBlocks.card

instance (s : BlockStorage D) (dir) : Decidable (HasRoom s dir) := inferInstanceAs (Decidable (_ ∧ _))

end

variable {D : Type} [BlockDevice D] [LawfulBlockDevice D] [DiskFormat] [SerdeDebug PersistentDirectory]
  [LawfulSerdeJson PersistentDirectory] {s : BlockStorage D} {m : Tree}
  {dir : PersistentDirectory}

theorem readDirectory_spends (h : Represents s m) {o} (hdir : m o = some (.directory dir.toDirectory)) (t) :
    (readDirectory t o).Post s fun r s' => r = .ok dir ∧ Represents s' m ∧ Spends 0 s s' := by
  have hspends : (readDirectory t o).Post s fun _ s' => Spends 0 s s' := by
    refine (readObject_spends t o).bind (fun _ _ h => h) fun data _ h => ?_
    rw [post_okOr]
    cases (fromSlice data : Option PersistentDirectory) <;> exact h
  refine ((post_readDirectory h t o).and hspends).mono ?_
  rintro _ _ ⟨⟨hs, ⟨dir', rfl, _, hnode, hshows⟩ | ⟨_, hnone⟩⟩, hspend⟩
  · rw [hdir] at hnode
    cases hnode
    obtain rfl : dir' = dir := PersistentDirectory.toDirectory_injective hshows
    exact ⟨rfl, hs, hspend⟩
  · exact absurd ⟨_, hdir, rfl⟩ (hnone _)

variable [ReliableBlockDevice D]

theorem changeDirectory_takes {α : Type} (h : Represents s m) (hcompact : s.superblock.Compact) {o}
    (hdir : m o = some (.directory dir.toDirectory)) (t : TransactionId) (draw : Draw)
    (f : PersistentDirectory → PersistentDirectory) (g : PersistentDirectory → α) : (do
      let dir ← readDirectory t o
      let _ ← writeDirectory draw o (f dir)
      pure (g dir) : Proc (BlockStorage D) TransactionError α).Post s fun r s' =>
      (HasRoom s (f dir) ∧ r = .ok (g dir) ∧ Spends (directoryBlocks (f dir)) s s') ∨
        (¬ HasRoom s (f dir) ∧ (∃ e, r = .error (.err e)) ∧ Spends 0 s s') := by
  rw [post_bind]
  refine (readDirectory_spends h hdir t).mono ?_
  rintro _ s₁ ⟨rfl, h₁, hspend⟩
  have hcard : s₁.freeBlocks.card = s.freeBlocks.card := hspend.free
  simp only [post_bind, writeDirectory, post_okOr, HasRoom, directoryBlocks]
  cases htext : toVec (f dir) with
  | none => exact .inr ⟨by simp, ⟨_, rfl⟩, hspend⟩
  | some text =>
    refine (writeObject_takes h₁.settled (hspend.compact hcompact) draw o (toVec_ne_nil htext)).mono ?_
    rintro _ s₂ (⟨hroom, ⟨_, rfl⟩, hspend₂⟩ | ⟨hshort, ⟨_, rfl⟩, hspend₂⟩)
    · refine .inl ⟨⟨rfl, hcard ▸ hroom⟩, rfl, ?_⟩
      exact Nat.zero_add (blocksFor text.length) ▸ hspend.trans hspend₂
    · exact .inr ⟨fun hroom => absurd (hcard ▸ hroom.2) hshort.not_ge, ⟨_, rfl⟩, hspend.trans hspend₂⟩

end PersistentFilesystem

/-! ## The JSON texts -/

/-- The fields that a commit leaves as they are lie in the range of `u64`. -/
def Superblock.Small (sb : Superblock) : Prop :=
  ∀ n ∈ [sb.magic, sb.version, sb.totalBlocks, sb.bitmapStart, sb.bitmapBlocks, sb.dataStart, sb.commitLogStart,
    sb.commitLogBlocks], n < 2 ^ 64

instance (sb : Superblock) : Decidable sb.Small := inferInstanceAs (Decidable (∀ n ∈ _, n < 2 ^ 64))

namespace Json

open Codec

theorem length_id {k : IdKind} (a : Id k) : (id.print a).length = 38 := by
  simp [id, Uuid.codec, quote, Uuid.hyphen]

theorem compact {sb : Superblock} (h : sb.Small) : sb.Compact where
  superblock q hq := by
    refine ⟨_, rfl, ?_⟩
    have hlen : ∀ n < 2 ^ 64, (nat.print n).length ≤ 20 := fun n hn => length_nat (by decide) (by omega)
    have hq := hlen q hq
    replace h := fun n hn => hlen n (h n hn)
    simp only [List.forall_mem_cons] at h
    simp [superblock, comma, closingBrace, blockSize]
    omega
  record t q hq e hidx hsize := by
    refine ⟨_, rfl, ?_⟩
    have htotal := h sb.totalBlocks (by simp)
    have hbytes := le_blocksFor_mul e.sizeBytes
    simp only [blockSize] at hbytes
    have hq := length_nat (k := 20) (by decide) (show q < 10 ^ 20 by omega)
    have hidx := length_nat (k := 20) (by decide) (show e.blockIdx < 10 ^ 20 by omega)
    have hsize := length_nat (k := 23) (by decide) (show e.sizeBytes < 10 ^ 23 by omega)
    have hchecksum := length_nat (k := 10) (by decide) (show (CommitRecord.new t q [e]).checksum.toNat < 10 ^ 10 by
      have := (CommitRecord.new t q [e]).checksum.toNat_lt; omega)
    simp [commitRecord, allocationEntry, u32, array, Codec.sequence, printItems, comma, closingBrace, blockSize,
      length_id,
      CommitRecord.new] at *
    omega

end Json

end PandaGen.Storage
