import PandaGen.Lib.SeqLog
import PandaGen.Storage.Lemmas.Commit
import PandaGen.Storage.Session

/-!
# What recovery finds

The commit log as a list of slots, and `open` in terms of the records that a scan of the slots accepts.
-/

namespace PandaGen.Storage

open Hal Lib Proc BlockStorage LawfulBlockDevice List Nat CommitRecord SeqLog LawfulSerdeJson Std.ExtTreeMap

/-! ## The index of a list of allocations -/

def AllocationEntry.key (e : AllocationEntry) : ObjectId × VersionId := (e.objectId, e.versionId)

def lookup (es : List AllocationEntry) (k : ObjectId × VersionId) : Option AllocationEntry :=
  es.reverse.find? (·.key = k)

def latestIn (es : List AllocationEntry) (o : ObjectId) : Option VersionId :=
  (es.reverse.find? (·.objectId = o)).map (·.versionId)

theorem lookup_append (es es' k) : lookup (es ++ es') k = (lookup es' k).or (lookup es k) := by
  simp [lookup, find?_append]

theorem mem_of_lookup {es k e} (h : lookup es k = some e) : e ∈ es ∧ e.key = k := by
  refine ⟨mem_reverse.mp (mem_of_find?_eq_some h), ?_⟩
  simpa using find?_some h

theorem lookup_isSome {es k} : (lookup es k).isSome ↔ ∃ e ∈ es, e.key = k := by
  simp [lookup]

structure Superblock.Fits (sb : Superblock) (count : Nat) : Prop where
  magic : sb.magic = superblockMagic
  commitLogStart : sb.commitLogStart = 1
  commitLogBlocks_pos : 0 < sb.commitLogBlocks
  dataStart : 1 + sb.commitLogBlocks ≤ sb.dataStart
  dataStart_lt : sb.dataStart < sb.totalBlocks
  totalBlocks : sb.totalBlocks = count

theorem Superblock.Fits.of_sequence {sb : Superblock} {n q : Nat} (h : sb.Fits n) :
    ({ sb with commitSequence := q } : Superblock).Fits n :=
  { h with }

/-- No block number of the allocation overflows. -/
def AllocationEntry.InRange (e : AllocationEntry) : Prop := ∀ j < blocksFor e.sizeBytes, e.blockIdx + j < 2 ^ 64

theorem AllocationEntry.InRange.of_le {e : AllocationEntry} {n : Nat} (h : e.blockIdx + blocksFor e.sizeBytes ≤ n)
    (hn : n < 2 ^ 64) : e.InRange :=
  fun _ _ => by omega

theorem mapM_checkedAdd {a n bs} :
    (range n).mapM (checkedAdd a) = some bs ↔ (∀ j < n, a + j < 2 ^ 64) ∧ bs = range' a n := by
  induction n generalizing bs with
  | zero => simp [eq_comm]
  | succ n ih =>
    simp only [range_succ, mapM_append, mapM_cons, mapM_nil, range'_concat, Option.bind_eq_bind,
      Option.bind_eq_some_iff, ih, checkedAdd_eq_some, forall_lt_succ_right]
    aesop

theorem foldl_erase (bs : List Nat) (free : Finset Nat) : bs.foldl Finset.erase free = free \ bs.toFinset := by
  induction bs generalizing free with
  | nil => simp
  | cons b bs ih => rw [foldl_cons, ih, toFinset_cons, Finset.sdiff_insert, Finset.erase_sdiff_comm]

namespace BlockStorage

section Index

variable {D : Type} {s s' : BlockStorage D} {es : List AllocationEntry}

structure Indexed (s : BlockStorage D) (es : List AllocationEntry) : Prop where
  allocations : ∀ k, s.allocations[k]? = lookup es k
  latest : ∀ o, s.latestVersions[o]? = latestIn es o

theorem Indexed.empty (ha : s.allocations = ∅) (hl : s.latestVersions = ∅) : s.Indexed [] where
  allocations k := by rw [ha]; exact getElem?_empty
  latest o := by rw [hl]; exact getElem?_empty

theorem Indexed.congr (h : s.Indexed es) (ha : s'.allocations = s.allocations)
    (hl : s'.latestVersions = s.latestVersions) : s'.Indexed es where
  allocations k := by rw [ha]; exact h.allocations k
  latest o := by rw [hl]; exact h.latest o

theorem Indexed.concat {e} (h : s.Indexed es) (ha : s'.allocations = s.allocations.insert e.key e)
    (hl : s'.latestVersions = s.latestVersions.insert e.objectId e.versionId) : s'.Indexed (es ++ [e]) where
  allocations k := by
    rw [ha, BTreeMap.getElem?_insert, h.allocations]
    by_cases hk : e.key = k <;> simp [lookup, hk]
  latest o := by
    rw [hl, BTreeMap.getElem?_insert, h.latest]
    by_cases ho : e.objectId = o <;> simp [latestIn, ho]

theorem Indexed.foldl {f} (ha : ∀ s e, (f s e).allocations = s.allocations.insert e.key e)
    (hl : ∀ s e, (f s e).latestVersions = s.latestVersions.insert e.objectId e.versionId)
    (h : s.Indexed es) (es' : List AllocationEntry) : (es'.foldl f s).Indexed (es ++ es') := by
  induction es' generalizing s es with
  | nil => simpa using h
  | cons e es' ih => simpa using ih (h.concat (ha s e) (hl s e))

/-- What an allocation changes that is in range. -/
def occupy (s : BlockStorage D) (e : AllocationEntry) : BlockStorage D :=
  { s with
    allocations := s.allocations.insert e.key e
    latestVersions := s.latestVersions.insert e.objectId e.versionId
    freeBlocks := s.freeBlocks \ e.extent }

theorem applyAllocation_eq_some {e} : s.applyAllocation e = some s' ↔ e.InRange ∧ s.occupy e = s' := by
  have hextent : (range' e.blockIdx (blocksFor e.sizeBytes)).toFinset = e.extent := by
    ext b
    simp [AllocationEntry.extent]
  simp only [applyAllocation, Option.bind_eq_bind, Option.bind_eq_some_iff, mapM_checkedAdd, Option.some.injEq]
  constructor
  · rintro ⟨_, ⟨hrange, rfl⟩, rfl⟩
    rw [foldl_erase, hextent]
    exact ⟨hrange, rfl⟩
  · rintro ⟨hrange, rfl⟩
    refine ⟨_, ⟨hrange, rfl⟩, ?_⟩
    rw [foldl_erase, hextent]
    rfl

theorem foldlM_applyAllocation (es : List AllocationEntry) (s : BlockStorage D) :
    es.foldlM applyAllocation s = some s' ↔ (∀ e ∈ es, e.InRange) ∧ es.foldl occupy s = s' := by
  induction es generalizing s with
  | nil => simp
  | cons e es ih =>
    simp only [foldlM_cons, Option.bind_eq_bind, Option.bind_eq_some_iff, applyAllocation_eq_some, ih, foldl_cons,
      forall_mem_cons]
    aesop

theorem Indexed.foldl_occupy (h : s.Indexed es) (es' : List AllocationEntry) :
    (es'.foldl occupy s).Indexed (es ++ es') :=
  h.foldl (fun _ _ => rfl) (fun _ _ => rfl) es'

@[simp] theorem foldl_recordAllocation_frame (es : List AllocationEntry) (s : BlockStorage D) :
    (es.foldl recordAllocation s).device = s.device ∧ (es.foldl recordAllocation s).superblock = s.superblock ∧
      (es.foldl recordAllocation s).freeBlocks = s.freeBlocks ∧
      (es.foldl recordAllocation s).pending = s.pending := by
  induction es generalizing s with
  | nil => exact ⟨rfl, rfl, rfl, rfl⟩
  | cons e es ih => exact ih (s.recordAllocation e)

theorem foldl_occupy (es : List AllocationEntry) (s : BlockStorage D) : es.foldl occupy s =
      { s with
        allocations := (es.foldl occupy s).allocations
        latestVersions := (es.foldl occupy s).latestVersions
        freeBlocks := (es.foldl occupy s).freeBlocks } := by
  induction es generalizing s with
  | nil => rfl
  | cons e es ih => rw [foldl_cons, ih]; rfl

theorem freeBlocks_foldl_occupy_subset (es : List AllocationEntry) (s : BlockStorage D) :
    (es.foldl occupy s).freeBlocks ⊆ s.freeBlocks := by
  induction es generalizing s with
  | nil => exact Finset.Subset.refl _
  | cons e es ih => exact (ih _).trans Finset.sdiff_subset

theorem extent_disjoint_foldl_occupy {e : AllocationEntry} (he : e ∈ es) :
    Disjoint e.extent (es.foldl occupy s).freeBlocks := by
  induction es generalizing s with
  | nil => simp at he
  | cons e' es ih =>
    rcases mem_cons.mp he with rfl | he
    · exact Finset.disjoint_of_subset_right (freeBlocks_foldl_occupy_subset es _) Finset.disjoint_sdiff
    · exact ih he

end Index

section Reading

variable {D D' : Type} [BlockDevice D] [LawfulBlockDevice D] [BlockDevice D'] [LawfulBlockDevice D']

theorem readData_congr {s : BlockStorage D} {s' : BlockStorage D'} (hn : blockCount s'.device = blockCount s.device)
    (hc : contents s'.device = contents s.device) (blocks remaining) :
    ((readData blocks remaining).exec s').1 = ((readData blocks remaining).exec s).1 := by
  induction blocks generalizing s s' remaining with
  | nil => rfl
  | cons b blocks ih =>
    simp only [readData, exec_bind, exec_onDevice, readBlock_congr hn hc b]
    cases (readBlock s.device b).1 with
    | error e => rfl
    | ok block =>
      simp only [Except.mapError]
      split
      · rfl
      · have hrest := @ih { s with device := (readBlock s.device b).2 }
          { s' with device := (readBlock s'.device b).2 }
          (by simp only [readBlock_blockCount, hn])
          (by simp only [readBlock_contents, hc]) (remaining - min remaining blockSize)
        revert hrest
        simp only [exec_bind]
        rcases (readData blocks _).exec _ with ⟨r, t⟩
        rcases (readData blocks _).exec _ with ⟨r', t'⟩
        rintro rfl
        cases r <;> rfl

theorem readEntry_of_stored {s : BlockStorage D} {e : AllocationEntry} {data : List UInt8}
    (hsize : e.sizeBytes = data.length) (hst : Stored (contents s.device) e.blockIdx data)
    (hle : e.blockIdx + blocksFor e.sizeBytes ≤ blockCount s.device) : s.readEntry e = some data := by
  have hlt := blockCount_lt s.device
  have hblocks : e.blocks = some (range' e.blockIdx (blocksFor data.length)) := by
    rw [AllocationEntry.blocks, checkedAdd, if_pos (by omega), Option.bind_eq_bind, Option.bind_some,
      Nat.add_sub_cancel_left, hsize]
  have hpost := post_readData (s := s) (hsize ▸ hle) (le_blocksFor_mul data.length) hst
  rw [readEntry, hblocks, hsize, Option.bind_eq_bind, Option.bind_some, hpost.1]
  rfl

end Reading

section ViewOf

variable {D D' : Type} [BlockDevice D] [BlockDevice D']

theorem Indexed.view_eq {s : BlockStorage D} {es} (h : s.Indexed es) :
    s.view = ⟨latestIn es, fun k => (lookup es k).bind s.readEntry⟩ := by
  simp only [view, h.allocations, h.latest]

variable [LawfulBlockDevice D] [LawfulBlockDevice D']

theorem Indexed.view_congr {s : BlockStorage D} {s' : BlockStorage D'} {es} (h : s.Indexed es) (h' : s'.Indexed es)
    (hn : blockCount s'.device = blockCount s.device) (hc : contents s'.device = contents s.device) :
    s'.view = s.view := by
  have hread : s'.readEntry = s.readEntry := by
    funext e
    simp only [readEntry, readData_congr hn hc]
  rw [h.view_eq, h'.view_eq, hread]

end ViewOf

/-! ## The commit log -/

section Log

variable [DiskFormat]

def decodeRecord (b : Block) : Option CommitRecord :=
  if b.untilNull.length > 0 then (fromSlice b.untilNull : Option CommitRecord).filter (·.isValid) else none

def slots (n : Nat) (c : Nat → Block) : List (Option CommitRecord) :=
  (range n).map fun i => decodeRecord (c (1 + i))

theorem isValid_new (t q es) : (new t q es).isValid = true := by
  rw [isValid, beq_iff_eq]
  rfl

theorem decodeRecord_wrote [LawfulDiskFormat] {r i c c'} (h : Wrote r i c c') (hr : r.isValid) :
    decodeRecord (c' i) = some r := by
  have hjson := h.untilNull
  have hpos : (c' i).untilNull.length > 0 := length_pos_iff.mpr (toVec_ne_nil hjson)
  rw [decodeRecord, if_pos hpos, fromSlice_toVec hjson, Option.filter, if_pos hr]

theorem slots_congr {n c c'} (h : ∀ i < n, c' (1 + i) = c (1 + i)) : slots n c' = slots n c := by
  refine map_congr_left fun i hi => ?_
  rw [h i (mem_range.mp hi)]

theorem getElem?_slots {n j c} (hj : j < n) : (slots n c)[j]? = some (decodeRecord (c (1 + j))) := by
  simp [slots, hj]

theorem slots_update {n j c c' o} (hj : decodeRecord (c' (1 + j)) = o) (h : ∀ i < n, i ≠ j → c' (1 + i) = c (1 + i)) :
    slots n c' = (slots n c).set j o := by
  refine List.ext_getElem? fun i => ?_
  rw [List.getElem?_set]
  simp only [slots, List.getElem?_map, List.length_map, List.length_range]
  by_cases hij : j = i
  · subst hij
    rcases lt_or_ge j n with hn | hn
    · simp [hn, hj]
    · simp [hn]
  · rw [if_neg hij]
    cases hi : (List.range n)[i]? with
    | none => rfl
    | some k =>
      obtain ⟨hlt, rfl⟩ := List.getElem?_eq_some_iff.mp hi
      simp only [List.length_range] at hlt
      simp [h i hlt (Ne.symm hij)]

theorem not_mem_slots_new {n count} (h : count < 2 ^ 64) (r) : some r ∉ slots n (contents (RamDisk.new count h)) := by
  intro hr
  obtain ⟨i, _, hi⟩ := mem_map.mp hr
  have hempty : (Block.ofBytes []).untilNull = [] := Block.untilNull_ofBytes (by simp) (by simp)
  rw [RamDisk.contents_new, decodeRecord, hempty] at hi
  cases hi

def accepted (n : Nat) (c : Nat → Block) : List CommitRecord := SeqLog.scan CommitRecord.sequence 0 (slots n c)

def entriesOf (rs : List CommitRecord) : List AllocationEntry := rs.flatMap CommitRecord.allocations

variable {D : Type} [BlockDevice D]

omit [DiskFormat] in
theorem entriesOf_append (rs rs') : entriesOf (rs ++ rs') = entriesOf rs ++ entriesOf rs' :=
  flatMap_append

omit [DiskFormat] [BlockDevice D] in
theorem foldl_occupy_device (es : List AllocationEntry) (s : BlockStorage D) (d : D) :
    es.foldl occupy { s with device := d } = { es.foldl occupy s with device := d } := by
  induction es generalizing s with
  | nil => rfl
  | cons e es ih => exact ih (s.occupy e)

/-- A turn of the loop is the scan of one slot, unless the slot holds an allocation that is out of range. -/
theorem scanSlot_eq_some [LawfulBlockDevice D] {s : BlockStorage D} {i : Nat} (report)
    (hstart : s.superblock.commitLogStart = 1) (hi : 1 + i < blockCount s.device) :
    let slot := [decodeRecord (contents s.device (1 + i))]
    let es := entriesOf (scan sequence report.lastSequence slot)
    ∃ d report', blockCount d = blockCount s.device ∧ contents d = contents s.device ∧
      report'.lastSequence = lastSeq sequence report.lastSequence slot ∧ ∀ st, scanSlot (s, report) i = some st ↔
        (∀ e ∈ es, e.InRange) ∧ (es.foldl occupy { s with device := d }, report') = st := by
  have hlt := blockCount_lt s.device
  have hread := readBlock_ok s.device hi
  have hidx : checkedAdd s.superblock.commitLogStart i = some (1 + i) := by rw [hstart, checkedAdd, if_pos (by omega)]
  have heq : readBlock s.device (1 + i) = (.ok (contents s.device (1 + i)), (readBlock s.device (1 + i)).2) := by
    rw [← hread]
  have hcount := readBlock_blockCount s.device (1 + i)
  have hcont := readBlock_contents s.device (1 + i)
  generalize (readBlock s.device (1 + i)).2 = d at heq hcount hcont
  generalize contents s.device (1 + i) = b at heq
  simp only [scanSlot, hidx, Option.bind_eq_bind, Option.bind_some, heq, decodeRecord]
  split
  · cases hrec : (fromSlice b.untilNull : Option CommitRecord) with
    | none => exact ⟨d, report, hcount, hcont, rfl, fun st => by simp [scan, entriesOf]⟩
    | some r =>
      let discarded := { report with discardedTransactions := report.discardedTransactions + 1 }
      cases hv : r.isValid with
      | false =>
        refine ⟨d, discarded, hcount, hcont, ?_, fun st => ?_⟩ <;>
          simp [Option.filter, hv, scan, lastSeq, entriesOf, discarded]
      | true =>
        by_cases hseq : report.lastSequence < r.sequence
        · refine ⟨d, { report with recoveredCommits := report.recoveredCommits + 1, lastSequence := r.sequence },
            hcount,
            hcont, ?_, fun st => ?_⟩
          · simp [Option.filter, hv, lastSeq, hseq]
          · simp [Option.filter, hv, scan, entriesOf, hseq, Option.bind_eq_some_iff, foldlM_applyAllocation, and_assoc]
        · refine ⟨d, discarded, hcount, hcont, ?_, fun st => ?_⟩ <;>
            simp [Option.filter, hv, scan, lastSeq, entriesOf, hseq, discarded]
  · exact ⟨d, report, hcount, hcont, rfl, fun st => by simp [scan, entriesOf]⟩

theorem foldlM_scanSlot [LawfulBlockDevice D] (is : List Nat) {s : BlockStorage D} (report : StorageRecoveryReport)
    (hstart : s.superblock.commitLogStart = 1) (his : ∀ i ∈ is, 1 + i < blockCount s.device) :
    let es := entriesOf (scan sequence report.lastSequence (is.map fun i => decodeRecord (contents s.device (1 + i))))
    ∃ d report', blockCount d = blockCount s.device ∧ contents d = contents s.device ∧
      ∀ st, is.foldlM scanSlot (s, report) = some st ↔
        (∀ e ∈ es, e.InRange) ∧ (es.foldl occupy { s with device := d }, report') = st := by
  induction is generalizing s report with
  | nil => exact ⟨s.device, report, rfl, rfl, fun st => by simp [scan, entriesOf]⟩
  | cons i is ih =>
    obtain ⟨d, report', hd, hc, hlast, hslot⟩ := scanSlot_eq_some report hstart (his i (by simp))
    rw [map_cons, ← singleton_append, scan_append, entriesOf_append, ← hlast]
    generalize entriesOf (scan sequence report.lastSequence [decodeRecord (contents s.device (1 + i))]) = es at hslot ⊢
    have hframe := foldl_occupy es { s with device := d }
    obtain ⟨d', report'', hd', hc', hrest⟩ := @ih (es.foldl occupy { s with device := d }) report'
      (by rw [hframe]; exact hstart) (fun j hj => by rw [hframe]; exact hd ▸ his j (by simp [hj]))
    have hdev : (es.foldl occupy { s with device := d }).device = d := by rw [hframe]
    rw [hdev] at hd' hc' hrest
    refine ⟨d', report'', hd'.trans hd, hc'.trans hc, fun st => ?_⟩
    rw [foldlM_cons, Option.bind_eq_bind, Option.bind_eq_some_iff, foldl_append, forall_mem_append, and_assoc]
    rw [hc, ← foldl_occupy_device] at hrest
    constructor
    · rintro ⟨_, hfirst, hst⟩
      obtain ⟨hes, rfl⟩ := (hslot _).mp hfirst
      exact ⟨hes, (hrest st).mp hst⟩
    · rintro ⟨hes, hst⟩
      exact ⟨_, (hslot _).mpr ⟨hes, rfl⟩, (hrest st).mpr hst⟩

/-! ## Opening a device -/

structure Reopened (d : D) (sb : Superblock) (s : BlockStorage D) : Prop where
  count : blockCount s.device = blockCount d
  held : contents s.device = contents d
  superblock : s.superblock = sb
  pending : s.pending = ∅
  indexed : s.Indexed (entriesOf (accepted sb.commitLogBlocks (contents d)))
  free : s.freeBlocks ⊆ Finset.Ico sb.dataStart sb.totalBlocks
  disjoint : ∀ e ∈ entriesOf (accepted sb.commitLogBlocks (contents d)), Disjoint e.extent s.freeBlocks

def unrecovered (d : D) (sb : Superblock) : BlockStorage D :=
  { device := d, superblock := sb, allocations := ∅, latestVersions := ∅
    freeBlocks := Finset.Ico sb.dataStart sb.totalBlocks, pending := ∅, recoveryReport := none }

/-- `open` finds what the scan accepts; it panics just when an accepted allocation is out of range. -/
theorem openDevice_reopened [LawfulBlockDevice D] [LawfulDiskFormat] {d : D}
    {sb : Superblock} (hsb : toVec sb = some (contents d 0).untilNull) (hfits : sb.Fits (blockCount d)) :
    ∃ s, Reopened d sb s ∧ ∀ s', openDevice d = .ok s' ↔
      (∀ e ∈ entriesOf (accepted sb.commitLogBlocks (contents d)), e.InRange) ∧ s = s' := by
  obtain ⟨hmagic, hstart, _, hdata, hlt, htotal⟩ := hfits
  have hread := readBlock_ok d (i := 0) (by omega)
  have heq : readBlock d 0 = (.ok (contents d 0), (readBlock d 0).2) := by rw [← hread]
  have hd1 := readBlock_blockCount d 0
  have hc1 := readBlock_contents d 0
  generalize (readBlock d 0).2 = d1 at heq hd1 hc1
  obtain ⟨d2, report, hd2, hc2, hscan⟩ := @foldlM_scanSlot _ D _ _ (range sb.commitLogBlocks)
    (unrecovered d1 sb) ⟨0, 0, 0, true, none⟩ hstart (fun i hi => by
      have := mem_range.mp hi
      show 1 + i < blockCount d1
      omega)
  have hd : blockCount d2 = blockCount d := hd2.trans hd1
  have hc : contents d2 = contents d := hc2.trans hc1
  have hscan : ∀ st, (unrecovered d1 sb).performRecovery = some st ↔
      (∀ e ∈ entriesOf (accepted sb.commitLogBlocks (contents d)), e.InRange) ∧
        ((entriesOf (accepted sb.commitLogBlocks (contents d))).foldl occupy (unrecovered d2 sb), report) = st := by
    rw [← hc1]; exact hscan
  generalize hes : entriesOf (accepted sb.commitLogBlocks (contents d)) = es at hscan ⊢
  have hindexed : (es.foldl occupy (unrecovered d2 sb)).Indexed es := (Indexed.empty rfl rfl).foldl_occupy es
  have hframe := foldl_occupy es (unrecovered d2 sb)
  refine ⟨{ es.foldl occupy (unrecovered d2 sb) with recoveryReport := some report }, ?_, fun s' => ?_⟩
  · exact
      { count := by rw [← hd]; exact congrArg (fun t : BlockStorage D => blockCount t.device) hframe
        held := by rw [← hc]; exact congrArg (fun t : BlockStorage D => contents t.device) hframe
        superblock := congrArg superblock hframe
        pending := congrArg pending hframe
        indexed := by rw [hes]; exact hindexed.congr rfl rfl
        free := freeBlocks_foldl_occupy_subset es (unrecovered d2 sb)
        disjoint := fun e he => extent_disjoint_foldl_occupy (hes ▸ he) }
  · simp only [openDevice, heq, fromSlice_toVec hsb, hmagic, ne_eq, not_true_eq_false, if_false]
    cases hrec : (unrecovered d1 sb).performRecovery with
    | none =>
      have hnot : ¬ ∀ e ∈ es, e.InRange := fun hall => by cases hrec.symm.trans ((hscan _).mpr ⟨hall, rfl⟩)
      rw [unrecovered] at hrec
      simp [hrec, hnot]
    | some st =>
      obtain ⟨hall, rfl⟩ := (hscan st).mp hrec
      rw [and_iff_right hall]
      unfold unrecovered at hrec ⊢
      simp only [hrec, Except.ok.injEq]

end Log

end BlockStorage

end PandaGen.Storage
