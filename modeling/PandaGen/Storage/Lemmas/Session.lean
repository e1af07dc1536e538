import PandaGen.Storage.Lemmas.Recovery

/-!
# What a call of a session can do

`format` lays out the device, no call changes the layout, and `Session.step_effect` is the inversion of a step.
-/

namespace PandaGen.Storage

open Hal Lib Proc LawfulBlockDevice BlockStorage

variable {D : Type} [BlockDevice D]

namespace BlockStorage

section

variable [DiskFormat]

structure Formatted (d : D) (s : BlockStorage D) : Prop where
  fits : s.superblock.Fits (blockCount s.device)
  commitSequence : s.superblock.commitSequence = 0
  count : blockCount s.device = blockCount d
  wrote : Wrote s.superblock 0 (contents d) (contents s.device)
  allocations : s.allocations = ∅
  latestVersions : s.latestVersions = ∅
  freeBlocks : s.freeBlocks = Finset.Ico s.superblock.dataStart s.superblock.totalBlocks
  pending : s.pending = ∅

theorem format_formatted [LawfulBlockDevice D] {d : D} {s : BlockStorage D} (h : format d = .ok s) : Formatted d s := by
  simp only [format] at h
  split at h
  · cases h
  split at h
  · cases h
  split at h
  · cases h
  split at h
  · cases h
  rename_i json hjson
  split at h
  · cases h
  split at h
  · cases h
  rename_i d1 hwrite
  split at h
  · cases h
  rename_i d2 hflush
  cases h
  have hw := writeBlock_ok d (by rw [hwrite])
  have hwc := writeBlock_blockCount d 0 (Block.ofBytes json)
  have hf := flush_blockCount d1
  have hfc := flush_contents d1
  rw [hwrite] at hw hwc
  rw [hflush] at hf hfc
  have hcount : blockCount d2 = blockCount d := hf.trans hwc
  exact
    { fits :=
        { magic := rfl
          commitLogStart := rfl
          commitLogBlocks_pos := by simp only; omega
          dataStart := by simp only; omega
          dataStart_lt := by simp only; omega
          totalBlocks := hcount.symm }
      commitSequence := rfl
      count := hcount
      wrote := ⟨json, hjson, by omega, hfc.trans hw.2⟩
      allocations := rfl
      latestVersions := rfl
      freeBlocks := rfl
      pending := rfl }

end

/-! ## The layout -/

section

variable [DiskFormat] {s : BlockStorage D}

/-- The layout of the device: the free blocks lie in the data area, and block 0 holds the superblock,
though maybe with another sequence number. -/
structure Geometry (s : BlockStorage D) : Prop where
  fits : s.superblock.Fits (blockCount s.device)
  free : s.freeBlocks ⊆ Finset.Ico s.superblock.dataStart s.superblock.totalBlocks
  disk : ∃ q, toVec { s.superblock with commitSequence := q } = some (contents s.device 0).untilNull

theorem Formatted.slots_eq {d} (h : Formatted d s) :
    slots s.superblock.commitLogBlocks (contents s.device) = slots s.superblock.commitLogBlocks (contents d) :=
  slots_congr fun _ _ => h.wrote.of_ne (by omega)

theorem Formatted.geometry [LawfulDiskFormat] {d} (h : Formatted d s) : s.Geometry where
  fits := h.fits
  free := by rw [h.freeBlocks]
  disk := ⟨s.superblock.commitSequence, h.wrote.untilNull⟩

theorem Reopened.geometry {d sb} (h : Reopened d sb s)
    (hsb : toVec sb = some (contents d 0).untilNull) (hfits : sb.Fits (blockCount d)) : s.Geometry where
  fits := by rw [h.superblock, h.count]; exact hfits
  free := by rw [h.superblock]; exact h.free
  disk := ⟨sb.commitSequence, by rw [h.superblock, h.held]; exact hsb⟩

theorem Geometry.not_free (h : s.Geometry) {i} (hi : i < s.superblock.dataStart) : i ∉ s.freeBlocks :=
  fun hmem => absurd (Finset.mem_Ico.mp (h.free hmem)).1 (by omega)

theorem Geometry.nextSlot_eq [LawfulBlockDevice D] (h : s.Geometry) :
    s.nextSlot = 1 + s.nextSuperblock.commitSequence % s.superblock.commitLogBlocks ∧
      s.nextSlot < s.superblock.dataStart := by
  have hmod := Nat.mod_lt s.nextSuperblock.commitSequence h.fits.commitLogBlocks_pos
  have := h.fits.dataStart
  have heq : s.nextSlot = 1 + s.nextSuperblock.commitSequence % s.superblock.commitLogBlocks := by
    rw [nextSlot, h.fits.commitLogStart]
  exact ⟨heq, by omega⟩

end

/-! ## The log after a commit -/

section

variable [DiskFormat] {s s' : BlockStorage D}

structure Appended (s : BlockStorage D) (t : TransactionId) (es : List AllocationEntry) (c₁ c : Nat → Block) :
    Prop where
  data : ∀ i, s.superblock.dataStart ≤ i → c i = c₁ i
  log : slots s.superblock.commitLogBlocks c = SeqLog.store CommitRecord.sequence s.superblock.commitLogBlocks
    (slots s.superblock.commitLogBlocks (contents s.device)) (s.nextRecord t es)

structure Aborted (s : BlockStorage D) (tx : Transaction) (s' : BlockStorage D) : Prop where
  count : blockCount s'.device = blockCount s.device
  free : UpperPart s'.freeBlocks s.freeBlocks
  frame : ∀ i, i ∉ s.freeBlocks ∨ i ∈ s'.freeBlocks → contents s'.device i = contents s.device i
  superblock : s'.superblock = s.superblock ∨ s'.superblock = s.nextSuperblock
  pending : s'.pending = s.pending.erase tx.id
  allocations : s'.allocations = s.allocations
  latestVersions : s'.latestVersions = s.latestVersions

structure Storing (s : BlockStorage D) (tx : Transaction) (ws : List PendingWrite) (es : List AllocationEntry)
    (c₁ : Nat → Block) (s' : BlockStorage D) : Prop where
  count : blockCount s'.device = blockCount s.device
  data : DataWritten s ws es s'.freeBlocks c₁
  appended : Appended s tx.id es c₁ (contents s'.device)
  superblock : s'.superblock = s.nextSuperblock
  pending : s'.pending = s.pending.erase tx.id

inductive CommitEffect (s : BlockStorage D) (tx : Transaction) :
    Except (Fault TransactionError) Transaction → BlockStorage D → Prop
  | refused : tx.state ≠ .active → CommitEffect s tx (.error (.err .alreadyFinalized)) s
  | empty : tx.state = .active → s.pending[tx.id]? = none →
      CommitEffect s tx (.ok { tx with state := .committed }) s
  | aborted {ws : List PendingWrite} {r} {s' : BlockStorage D} :
      tx.state = .active → s.pending[tx.id]? = some ws → (∀ t, r ≠ .ok t) →
      Aborted s tx s' → CommitEffect s tx r s'
  | recorded {ws : List PendingWrite} {es : List AllocationEntry} {c₁ : Nat → Block} {r} {s' : BlockStorage D} :
      tx.state = .active → s.pending[tx.id]? = some ws → (∀ t, r ≠ .ok t) →
      Storing s tx ws es c₁ s' →
      s'.allocations = s.allocations → s'.latestVersions = s.latestVersions →
      (contents s'.device 0 = contents s.device 0 ∨
        toVec s.nextSuperblock = some (contents s'.device 0).untilNull) →
      CommitEffect s tx r s'
  | committed {ws : List PendingWrite} {es : List AllocationEntry} {c₁ : Nat → Block} {s' : BlockStorage D} :
      tx.state = .active → s.pending[tx.id]? = some ws →
      Storing s tx ws es c₁ s' → (∀ es₀, s.Indexed es₀ → s'.Indexed (es₀ ++ es)) →
      toVec s.nextSuperblock = some (contents s'.device 0).untilNull →
      CommitEffect s tx (.ok { tx with state := .committed }) s'

variable {tx : Transaction} {r : Except (Fault TransactionError) Transaction}

theorem CommitEffect.geometry (he : CommitEffect s tx r s') (h : s.Geometry) :
    s'.Geometry ∧ ∃ q, s'.superblock = { s.superblock with commitSequence := q } := by
  have hkeep : ∀ {q}, blockCount s'.device = blockCount s.device → s'.freeBlocks ⊆ s.freeBlocks →
      s'.superblock = { s.superblock with commitSequence := q } →
      (contents s'.device 0 = contents s.device 0 ∨ toVec s.nextSuperblock = some (contents s'.device 0).untilNull) →
      s'.Geometry ∧ ∃ q, s'.superblock = { s.superblock with commitSequence := q } := by
    intro q hn hfree hsup h0
    refine ⟨⟨?_, ?_, ?_⟩, q, hsup⟩
    · rw [hn, hsup]; exact h.fits.of_sequence
    · rw [hsup]; exact hfree.trans h.free
    · rcases h0 with h0 | h0
      · rw [h0, hsup]; exact h.disk
      · rw [hsup]; exact ⟨_, h0⟩
  cases he with
  | refused | empty => exact ⟨h, s.superblock.commitSequence, rfl⟩
  | aborted _ _ _ ha =>
    have h0 := ha.frame 0 (.inl (h.not_free (by have := h.fits.dataStart; omega)))
    rcases ha.superblock with hsup | hsup
    · exact hkeep ha.count ha.free.subset (q := s.superblock.commitSequence) hsup (.inl h0)
    · exact hkeep ha.count ha.free.subset hsup (.inl h0)
  | recorded _ _ _ hs _ _ h0 => exact hkeep hs.count hs.data.free.subset hs.superblock h0
  | committed _ _ hs _ h0 => exact hkeep hs.count hs.data.free.subset hs.superblock (.inr h0)

theorem Aborted.slots_eq (ha : Aborted s tx s') (hg : s.Geometry) :
    slots s.superblock.commitLogBlocks (contents s'.device) =
      slots s.superblock.commitLogBlocks (contents s.device) := by
  have hdata := hg.fits.dataStart
  exact slots_congr fun i hi => ha.frame (1 + i) (.inl (hg.not_free (by omega)))

variable [LawfulBlockDevice D] [LawfulDiskFormat] {ws : List PendingWrite} {t : TransactionId}
  {es : List AllocationEntry} {F : Finset Nat} {c c₁ c2 : Nat → Block}

theorem DataWritten.appended (hd : DataWritten s ws es F c₁) (h : s.Geometry)
    (hrec : Wrote (s.nextRecord t es) s.nextSlot c₁ c2)
    (hsb : c = c2 ∨ Wrote s.nextSuperblock 0 c2 c) : Appended s t es c₁ c := by
  obtain ⟨hslot, hlt⟩ := h.nextSlot_eq
  have hne0 : ∀ i, i ≠ 0 → c i = c2 i := by
    intro i hi
    rcases hsb with rfl | hsb
    · rfl
    · exact hsb.of_ne hi
  have hdata := h.fits.dataStart
  constructor
  · intro i hi
    rw [hne0 i (by omega), hrec.of_ne (by omega)]
  · refine slots_update ?_ ?_
    · rw [hne0 _ (by omega)]
      have := decodeRecord_wrote hrec (isValid_new _ _ _)
      rwa [hslot] at this
    · intro i hi hne
      have hne : i ≠ s.nextSuperblock.commitSequence % s.superblock.commitLogBlocks := hne
      rw [hne0 _ (by omega), hrec.of_ne (by omega), hd.frame _ (.inl (h.not_free (by omega)))]

theorem CommitOutcome.effect (ho : CommitOutcome s tx r s') (h : s.Geometry) : CommitEffect s tx r s' := by
  cases ho with
  | finalized hfin => exact .refused hfin
  | empty hactive hp => exact .empty hactive hp
  | @aborted ws r d F q hactive hp hr hd hF hframe hq =>
    refine .aborted hactive hp hr ⟨hd, hF, hframe, ?_, rfl, rfl, rfl⟩
    rcases hq with ⟨rfl, -⟩ | ⟨rfl, -⟩
    · exact .inl rfl
    · exact .inr rfl
  | recorded hactive hp hr hd hdata hrec hsb =>
    refine .recorded hactive hp hr ⟨hd, hdata, hdata.appended h hrec hsb, rfl, rfl⟩ rfl rfl ?_
    obtain ⟨hslot, _⟩ := h.nextSlot_eq
    rcases hsb with hsb | hsb
    · left
      rw [hsb, hrec.of_ne (by omega), hdata.frame 0 (.inl (h.not_free (by omega)))]
    · exact .inr hsb.untilNull
  | @committed ws es d F c₁ c2 hactive hp hd hdata hrec hsb =>
    obtain ⟨hdev, hsup, hfree, hpend⟩ := foldl_recordAllocation_frame es
      { s with device := d, freeBlocks := F, pending := s.pending.erase tx.id, superblock := s.nextSuperblock }
    have happ := hdata.appended h hrec (.inr hsb)
    refine @CommitEffect.committed D _ _ s tx ws es c₁ _ hactive hp ⟨?_, ?_, ?_, hsup, hpend⟩ ?_ ?_
    · rw [hdev]; exact hd
    · rw [hfree]; exact hdata
    · rw [hdev]; exact happ
    · intro es0 h₀
      refine Indexed.foldl (fun _ _ => rfl) (fun _ _ => rfl) ?_ es
      exact h₀.congr rfl rfl
    · rw [hdev]; exact hsb.untilNull

end

end BlockStorage

variable {D : Type} [BlockDevice D]

def BlockStorage.addPending (s : BlockStorage D) (t : TransactionId) (w : PendingWrite) : BlockStorage D :=
  { s with pending := s.pending.insert t (s.pending[t]?.getD [] ++ [w]) }

def BlockStorage.dropPending (s : BlockStorage D) (t : TransactionId) : BlockStorage D :=
  { s with pending := s.pending.erase t }

namespace Session

variable [DiskFormat]

inductive Effect (w : Session (BlockStorage D)) : Op → Response → Session (BlockStorage D) → Prop
  | began {id} : Effect w (.begin id) (.ok none) ⟨w.storage, w.txs ++ [Transaction.new id]⟩
  | wrote {i tx o v data} : w.txs[i]? = some tx → tx.state = .active →
      Effect w (.write i o v data) (.ok (some v)) ⟨w.storage.addPending tx.id ⟨o, v, data⟩, w.txs⟩
  | writeRefused {i tx o v data} : w.txs[i]? = some tx → tx.state ≠ .active →
      Effect w (.write i o v data) (.error .alreadyFinalized) w
  | committed {i tx s'} : w.txs[i]? = some tx →
      w.storage.CommitEffect tx (.ok { tx with state := .committed }) s' →
      Effect w (.commit i) (.ok none) ⟨s', w.txs.set i { tx with state := .committed }⟩
  | commitFailed {i tx e s'} : w.txs[i]? = some tx → w.storage.CommitEffect tx (.error (.err e)) s' →
      Effect w (.commit i) (.error e) ⟨s', w.txs⟩
  | rolledBack {i tx} : w.txs[i]? = some tx → tx.state = .active →
      Effect w (.rollback i) (.ok none)
        ⟨w.storage.dropPending tx.id, w.txs.set i { tx with state := .rolledBack, modified := [] }⟩
  | rollbackRefused {i tx} : w.txs[i]? = some tx → tx.state ≠ .active →
      Effect w (.rollback i) (.error .alreadyFinalized) w
  | reopened {q s'} :
      toVec { w.storage.superblock with commitSequence := q } =
        some (contents w.storage.device 0).untilNull →
      BlockStorage.Reopened w.storage.device { w.storage.superblock with commitSequence := q } s' →
      Effect w .recover (.ok none) ⟨s', w.txs⟩

end Session

namespace BlockStorage

omit [BlockDevice D]
variable {s : BlockStorage D}

end BlockStorage

namespace Session

variable {w w' : Session (BlockStorage D)} {op : Op} {o : Response}

variable [DiskFormat] [LawfulBlockDevice D] [LawfulDiskFormat]

theorem step_effect (h : w.step op = some (o, w')) (hg : w.storage.Geometry) : Effect w op o w' := by
  cases op with
  | begin id =>
    cases h
    exact .began
  | write i objectId versionId data =>
    obtain ⟨tx, htx, ⟨hfin, rfl, rfl⟩ | ⟨hactive, rfl, rfl⟩⟩ := call_active h fun _ _ => rfl
    · exact .writeRefused htx hfin
    · have hset : w.txs.set i tx = w.txs := by
        obtain ⟨_, rfl⟩ := List.getElem?_eq_some_iff.mp htx
        exact List.set_getElem_self _
      rw [hset]
      exact .wrote htx hactive
  | commit i =>
    obtain ⟨tx, htx, hcall⟩ := call_post (Q := fun tx r s' =>
      w.storage.CommitEffect tx (r.map Prod.snd) s' ∧ ∀ p, r = .ok p → p.1 = none) (fun tx => by
      rw [post_bind]
      refine (commit_outcome tx).mono ?_
      intro r s' ho
      cases r with
      | error f => exact ⟨ho.effect hg, fun _ h => by cases h⟩
      | ok tx => exact ⟨ho.effect hg, fun _ h => by cases h; rfl⟩) h
    rcases hcall with ⟨v, tx', s', ⟨hq, hv⟩, rfl, rfl⟩ | ⟨e, s', ⟨hq, _⟩, rfl, rfl⟩
    · obtain rfl : v = none := hv _ rfl
      have htx' : tx' = { tx with state := .committed } := by
        cases hq with
        | empty => rfl
        | aborted _ _ hr _ | recorded _ _ hr => exact absurd rfl (hr tx')
        | committed => rfl
      rw [htx'] at hq ⊢
      exact .committed htx hq
    · exact .commitFailed htx hq
  | rollback i =>
    obtain ⟨tx, htx, ⟨hfin, rfl, rfl⟩ | ⟨hactive, rfl, rfl⟩⟩ := call_active h fun tx hactive => by
      rw [Transaction.rollback_active hactive]; rfl
    · exact .rollbackRefused htx hfin
    · exact .rolledBack htx hactive
  | recover =>
    obtain ⟨q, hq⟩ := hg.disk
    obtain ⟨s', hre, hopen⟩ := openDevice_reopened hq hg.fits.of_sequence
    rw [step] at h
    split at h
    · rename_i hs
      cases h
      exact .reopened hq (((hopen _).mp hs).2 ▸ hre)
    · cases h

end Session

/-! ## Computed runs -/

theorem exists_ok_of_any {ε α : Type} {x : Except ε α} {p} (h : x.toOption.any p = true) :
    ∃ a, x = .ok a ∧ p a = true := by
  cases x with
  | error e => cases h
  | ok a => exact ⟨a, rfl, h⟩

instance decidableExistsOk {ε α : Type} {x : Except ε α} {p : α → Prop} [DecidablePred p] :
    Decidable (∃ a, x = .ok a ∧ p a) :=
  decidable_of_iff (x.toOption.any fun a => decide (p a)) (by cases x <;> simp [Except.toOption])

namespace Session

variable [DiskFormat]

theorem exists_run (d ops) (G : Session (BlockStorage D) → Op → Response → Prop) [∀ w op o, Decidable (G w op o)]
    (p : BlockStorage D → Trace → Session (BlockStorage D) → Prop) [∀ s tr w, Decidable (p s tr w)]
    (h : ∃ s, format d = .ok s ∧
      ((machine D).exec (fun w op o => decide (G w op o)) (start s) ops).any fun r => decide (p s r.1 r.2)) :
    ∃ s, format d = .ok s ∧ ∃ tr w, (machine D).Run G (start s) tr w ∧ p s tr w := by
  obtain ⟨s, hf, h⟩ := h
  exact ⟨s, hf, Machine.exists_run ops h⟩

end Session

end PandaGen.Storage
