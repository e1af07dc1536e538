import PandaGen.Storage.BlockStorage

/-!
# Blocks: what the device calls of the storage do

Postconditions of the calls that read and write blocks, on a device that obeys `LawfulBlockDevice`.
-/

namespace PandaGen.Storage

open Hal Lib Proc LawfulBlockDevice List Function Nat Block

/-! ## The bytes of a block -/

theorem Block.toList_ofBytes {bytes} (h : bytes.length ≤ blockSize) :
    (ofBytes bytes).toList = bytes ++ replicate (blockSize - bytes.length) 0 := by
  show (bytes ++ replicate blockSize 0).take blockSize = _
  rw [take_append, take_of_length_le h, take_replicate, min_eq_left (sub_le _ _)]

theorem Block.untilNull_ofBytes {bytes} (h0 : (0 : UInt8) ∉ bytes) (h : bytes.length ≤ blockSize) :
    (ofBytes bytes).untilNull = bytes := by
  have hne : ∀ b ∈ bytes, (b != 0) = true := by
    intro b hb
    simp only [bne_iff_ne, ne_eq]
    rintro rfl
    exact h0 hb
  rw [untilNull, toList_ofBytes h, takeWhile_append_of_pos hne]
  cases blockSize - bytes.length <;> simp [replicate_succ]

def chunk (data : List UInt8) (j : Nat) : Block := Block.ofBytes ((data.drop (j * blockSize)).take blockSize)

variable (data : List UInt8)

theorem chunk_zero : chunk data 0 = ofBytes (data.take blockSize) := by
  simp [chunk]

theorem chunk_succ (j) : chunk data (j + 1) = chunk (data.drop blockSize) j := by
  rw [chunk, chunk, drop_drop, add_mul, one_mul, add_comm]

theorem chunk_zero_take : (chunk data 0).toList.take (min data.length blockSize) = data.take blockSize := by
  rw [chunk_zero, Block.toList_ofBytes (by simp), take_append_of_le_length (by simp [min_comm])]
  rw [take_take, min_eq_left (min_le_right _ _), take_eq_take_iff]
  omega

def Stored (c : Nat → Block) (b : Nat) (data : List UInt8) : Prop :=
  ∀ j < blocksFor data.length, c (b + j) = chunk data j

theorem blocksFor_pos {n} (h : 0 < n) : 0 < blocksFor n := by
  unfold blocksFor blockSize; omega

theorem le_blocksFor_mul (n) : n ≤ blocksFor n * blockSize := by
  unfold blocksFor blockSize; omega

theorem Stored.congr {c c' b data} (h : Stored c b data)
    (hc : ∀ i ∈ Finset.Ico b (b + blocksFor data.length), c' i = c i) : Stored c' b data := by
  intro j hj
  rw [hc _ (Finset.mem_Ico.mpr ⟨by omega, by omega⟩)]
  exact h j hj

namespace BlockStorage

variable {D : Type} {s : BlockStorage D}

/-! ## Device calls -/

theorem exec_onDevice {α : Type} (f : D → Except BlockError α × D) :
    (onDevice f).exec s = ((f s.device).1.mapError (.err ∘ .blockError), { s with device := (f s.device).2 }) := by
  simp only [onDevice, exec_bind, exec_get]
  cases (f s.device).1 <;> rfl

theorem post_onDevice {α : Type} {f} {Q : Except (Fault BlockStorageError) α → BlockStorage D → Prop} :
    (onDevice f).Post s Q ↔ match (f s.device).1 with
      | .ok a => Q (.ok a) { s with device := (f s.device).2 }
      | .error e => Q (.error (.err (.blockError e))) { s with device := (f s.device).2 } := by
  rw [Post, exec_onDevice]
  cases (f s.device).1 <;> exact Iff.rfl

variable [BlockDevice D] [LawfulBlockDevice D] {Q : Except (Fault BlockStorageError) Unit → BlockStorage D → Prop}

theorem post_writeBlock {i b} (hok : ∀ d, blockCount d = blockCount s.device → i < blockCount s.device →
      contents d = update (contents s.device) i b → Q (.ok ()) { s with device := d })
    (herr : ∀ d e, blockCount d = blockCount s.device → contents d = contents s.device →
      Q (.error (.err (.blockError e))) { s with device := d }) :
    (onDevice fun d => writeBlock d i b).Post s Q := by
  have hc := writeBlock_blockCount s.device i b
  rw [post_onDevice]
  split
  · rename_i h
    obtain ⟨hi, hu⟩ := writeBlock_ok s.device h
    exact hok _ hc hi hu
  · rename_i e h
    exact herr _ _ hc (writeBlock_error s.device h)

theorem post_flush (hok : ∀ d, blockCount d = blockCount s.device → contents d = contents s.device →
      Q (.ok ()) { s with device := d })
    (herr : ∀ d e, blockCount d = blockCount s.device → contents d = contents s.device →
      Q (.error (.err (.blockError e))) { s with device := d }) :
    (onDevice flush : Proc (BlockStorage D) _ _).Post s Q := by
  have hc := flush_blockCount s.device
  have hu := flush_contents s.device
  rw [post_onDevice]
  split
  · exact hok _ hc hu
  · exact herr _ _ hc hu

theorem post_writeData (blocks data) : (writeData blocks data).Post s fun r s' => ∃ d, s' = { s with device := d } ∧
      blockCount d = blockCount s.device ∧ (∀ i ∉ blocks, contents d i = contents s.device i) ∧
      (r = .ok () → blocks.Nodup → ∀ j (h : j < blocks.length), contents d blocks[j] = chunk data j) ∧
      r ≠ .error .panic := by
  induction blocks generalizing s data with
  | nil =>
    refine post_flush ?_ ?_
    · exact fun d hd hc => ⟨d, rfl, hd, fun i _ => by rw [hc], fun _ _ j hj => absurd hj (by simp), by simp⟩
    · exact fun d e hd hc => ⟨d, rfl, hd, fun i _ => by rw [hc], by simp, by simp⟩
  | cons b blocks ih =>
    rw [writeData, post_bind]
    refine post_writeBlock ?_ ?_
    · intro d hd _ hc
      refine (ih (s := { s with device := d }) (data.drop blockSize)).mono ?_
      rintro r _ ⟨d', rfl, hd', hother, hdata, hpanic⟩
      refine ⟨d', rfl, hd'.trans hd, ?_, ?_, hpanic⟩
      · intro i hi
        simp only [mem_cons, not_or] at hi
        rw [hother i hi.2, hc, update_of_ne hi.1]
      · intro hr hn j hj
        obtain ⟨hb, hn⟩ := nodup_cons.mp hn
        cases j with
        | zero => rw [getElem_cons_zero, hother b hb, hc, update_self, chunk_zero]
        | succ j => rw [getElem_cons_succ, hdata hr hn j (by simpa using hj), chunk_succ]
    · intro d e hd hc
      exact ⟨d, rfl, hd, fun i _ => by rw [hc], by simp, by simp⟩

theorem post_readData {b k data} (hk : b + k ≤ blockCount s.device) (hlen : data.length ≤ k * blockSize)
    (h : ∀ j < k, contents s.device (b + j) = chunk data j) :
    (readData (range' b k) data.length).Post s fun r s' => r = .ok data ∧
      ∃ d, s' = { s with device := d } ∧ blockCount d = blockCount s.device ∧ contents d = contents s.device := by
  induction k generalizing s b data with
  | zero =>
    have : data = [] := eq_nil_of_length_eq_zero (by simpa using hlen)
    subst this
    exact ⟨rfl, _, rfl, rfl, rfl⟩
  | succ k ih =>
    rw [range'_succ, readData, post_bind, post_onDevice, readBlock_ok s.device (by omega)]
    have hd := readBlock_blockCount s.device b
    have hc := readBlock_contents s.device b
    generalize (readBlock s.device b).2 = d at hd hc ⊢
    have hchunk := h 0 (by omega)
    rw [add_zero] at hchunk
    simp only [hchunk, chunk_zero_take]
    split
    · rename_i hrem
      have : data.take blockSize = data := take_of_length_le (by omega)
      exact ⟨by rw [this]; rfl, d, rfl, hd, hc⟩
    · rename_i hrem
      have hle : data.length - min data.length blockSize = (data.drop blockSize).length := by
        rw [length_drop]; omega
      rw [hle, post_bind]
      refine (@ih { s with device := d } (b + 1) (data.drop blockSize) ?_ ?_ ?_).mono ?_
      · show b + 1 + k ≤ blockCount d; omega
      · rw [length_drop]; rw [add_mul] at hlen; omega
      · intro j hj
        rw [hc, ← chunk_succ, ← h (j + 1) (by omega)]
        congr 1; omega
      · rintro _ _ ⟨rfl, d', rfl, hd', hc'⟩
        exact ⟨by rw [take_append_drop]; rfl, d', rfl, hd'.trans hd, hc'.trans hc⟩

/-! ## Allocating -/

theorem takeLowest_spec (n free) : (takeLowest n free).1.Nodup ∧ (∀ b ∈ (takeLowest n free).1, b ∈ free) ∧
      (takeLowest n free).2 = free \ (takeLowest n free).1.toFinset ∧
      (n ≤ free.card → (takeLowest n free).1.length = n) := by
  induction n generalizing free with
  | zero => simp [takeLowest]
  | succ n ih =>
    rw [takeLowest]
    split
    · rename_i b hb
      have hmem : b ∈ free := Finset.mem_of_min hb
      obtain ⟨hn, hsub, hrest, hlen⟩ := ih (free.erase b)
      simp only [nodup_cons, mem_cons, toFinset_cons, length_cons]
      refine ⟨⟨fun h => absurd (hsub b h) (by simp), hn⟩, ?_, ?_, ?_⟩
      · rintro c (rfl | hc)
        · exact hmem
        · exact Finset.mem_of_mem_erase (hsub c hc)
      · rw [hrest]
        ext c
        simp only [Finset.mem_sdiff, Finset.mem_erase, Finset.mem_insert]
        tauto
      · intro hcard
        rw [hlen (by rw [Finset.card_erase_of_mem hmem]; omega)]
    · rename_i hnone
      have : free = ∅ := Finset.min_eq_top.mp hnone
      subst this
      obtain ⟨hn, hsub, hrest, _⟩ := ih ∅
      exact ⟨hn, hsub, hrest, fun h => by simp at h⟩

structure UpperPart (F G : Finset Nat) : Prop where
  subset : F ⊆ G
  upper : ∀ i ∈ F, ∀ j ∈ G, i ≤ j → j ∈ F

theorem UpperPart.refl (F) : UpperPart F F := ⟨Finset.Subset.refl F, fun _ _ _ hj _ => hj⟩

theorem UpperPart.trans {F G H} (h : UpperPart F G) (h' : UpperPart G H) : UpperPart F H :=
  ⟨h.subset.trans h'.subset, fun i hi j hj hij => h.upper i hi j (h'.upper i (h.subset hi) j hj hij) hij⟩

theorem UpperPart.eq_Ico {F m t} (h : UpperPart F (Finset.Ico m t)) : ∃ m', m ≤ m' ∧ F = Finset.Ico m' t := by
  rcases F.eq_empty_or_nonempty with rfl | hne
  · exact ⟨max m t, le_max_left m t, (Finset.Ico_eq_empty (by omega)).symm⟩
  · refine ⟨F.min' hne, (Finset.mem_Ico.mp (h.subset (F.min'_mem hne))).1, ?_⟩
    ext i
    rw [Finset.mem_Ico]
    constructor
    · exact fun hi => ⟨F.min'_le i hi, (Finset.mem_Ico.mp (h.subset hi)).2⟩
    · rintro ⟨hle, hlt⟩
      have hmin := Finset.mem_Ico.mp (h.subset (F.min'_mem hne))
      exact h.upper _ (F.min'_mem hne) i (Finset.mem_Ico.mpr ⟨by omega, hlt⟩) hle

theorem takeLowest_upper (n free) : UpperPart (takeLowest n free).2 free := by
  induction n generalizing free with
  | zero => exact UpperPart.refl free
  | succ n ih =>
    rw [takeLowest]
    split
    · rename_i b hb
      refine (ih (free.erase b)).trans ⟨Finset.erase_subset b free, ?_⟩
      intro i hi j hj hij
      obtain ⟨hne, hi⟩ := Finset.mem_erase.mp hi
      have hbi : b ≤ i := Finset.min_le_of_eq hi hb
      exact Finset.mem_erase.mpr ⟨by omega, hj⟩
    · exact ih free

theorem takeLowest_Ico {n m t} (h : m + n ≤ t) :
    takeLowest n (Finset.Ico m t) = (range' m n, Finset.Ico (m + n) t) := by
  induction n generalizing m with
  | zero => rfl
  | succ n ih =>
    have hmin : (Finset.Ico m t).min = (m : WithTop Nat) := by
      have hm : m ∈ Finset.Ico m t := Finset.mem_Ico.mpr ⟨le_refl m, by omega⟩
      refine le_antisymm (Finset.min_le hm) (Finset.le_min ?_)
      intro c hc
      exact WithTop.coe_le_coe.mpr (Finset.mem_Ico.mp hc).1
    have herase : (Finset.Ico m t).erase m = Finset.Ico (m + 1) t := by
      ext c
      simp only [Finset.mem_erase, Finset.mem_Ico]
      omega
    have hsome : ((Finset.Ico m t).min : Option Nat) = some m := hmin
    rw [takeLowest, hsome]
    simp only [herase, ih (show m + 1 + n ≤ t by omega), range'_succ]
    rw [add_right_comm, add_assoc]

omit [BlockDevice D] [LawfulBlockDevice D] in
theorem post_allocateBlocks {sizeBytes Q} (hok : blocksFor sizeBytes ≤ s.freeBlocks.card →
      Q (.ok (takeLowest (blocksFor sizeBytes) s.freeBlocks).1)
        { s with freeBlocks := (takeLowest (blocksFor sizeBytes) s.freeBlocks).2 })
    (herr : s.freeBlocks.card < blocksFor sizeBytes → Q (.error (.err .noFreeSpace)) s) :
    (allocateBlocks sizeBytes).Post s Q := by
  simp only [allocateBlocks, post_bind, post_get, post_failIf, post_pure, post_set]
  split
  · rename_i hcard
    exact herr hcard
  · exact hok (by omega)

end BlockStorage

end PandaGen.Storage
