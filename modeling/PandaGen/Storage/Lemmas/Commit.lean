import PandaGen.Storage.Lemmas.Blocks

/-!
# What a commit can do

`commit_outcome` lists every way a call of `commit` can end on a device whose writes and flushes may
fail: the invariants of the storage are derived from it, and no later proof unfolds `commit`.
-/

namespace PandaGen.Storage

open Hal Lib Proc BlockStorage Function Finset UpperPart

variable {α β : Type} {e : AllocationEntry} {w : PendingWrite} {R : α → β → Prop}

/-! ## Related lists -/

theorem exists_of_forall₂_right {as bs} (h : List.Forall₂ R as bs) {b} (hb : b ∈ bs) : ∃ a ∈ as, R a b := by
  induction h with
  | nil => simp at hb
  | @cons a b' as bs hab _ ih =>
    rcases List.mem_cons.mp hb with rfl | hb
    · exact ⟨a, by simp, hab⟩
    · obtain ⟨a', ha', h'⟩ := ih hb
      exact ⟨a', by simp [ha'], h'⟩

theorem exists_of_forall₂_left {as bs} (h : List.Forall₂ R as bs) {a} (ha : a ∈ as) : ∃ b ∈ bs, R a b :=
  exists_of_forall₂_right (R := fun b a => R a b) h.flip ha

theorem forall₂_imp_of_mem {S as bs} (h : List.Forall₂ R as bs)
    (hS : ∀ a ∈ as, ∀ b ∈ bs, R a b → S a b) : List.Forall₂ S as bs := by
  induction h with
  | nil => exact .nil
  | @cons a b _ _ hab _ ih =>
    refine .cons (hS a (by simp) b (by simp) hab) (ih ?_)
    exact fun a' ha' b' hb' => hS a' (by simp [ha']) b' (by simp [hb'])

/-! ## Allocations and the data they hold -/

def AllocationEntry.extent (e : AllocationEntry) : Finset Nat :=
  Finset.Ico e.blockIdx (e.blockIdx + blocksFor e.sizeBytes)

theorem AllocationEntry.le_of_extent_subset {a t} (hpos : 0 < blocksFor e.sizeBytes) (h : e.extent ⊆ Finset.Ico a t) :
    e.blockIdx + blocksFor e.sizeBytes ≤ t := by
  have hlast : e.blockIdx + blocksFor e.sizeBytes - 1 ∈ e.extent := mem_Ico.mpr ⟨by omega, by omega⟩
  have := (mem_Ico.mp (h hlast)).2
  omega

def EntryFor (w : PendingWrite) (e : AllocationEntry) : Prop :=
  e.objectId = w.objectId ∧ e.versionId = w.versionId ∧ e.sizeBytes = w.data.length

def Holds (c : Nat → Block) (w : PendingWrite) (e : AllocationEntry) : Prop :=
  EntryFor w e ∧ Stored c e.blockIdx w.data

theorem Holds.congr {c c'} (h : Holds c w e) (hc : ∀ i ∈ e.extent, c' i = c i) : Holds c' w e :=
  ⟨h.1, h.2.congr (by rw [← h.1.2.2]; exact hc)⟩

/-- The blocks that `allocate_blocks` finds for the writes, one write after the other, are consecutive
as long as there are enough of them. -/
def Consecutive : Finset Nat → List PendingWrite → Prop
  | _, [] => True
  | free, w :: ws =>
    blocksFor w.data.length ≤ free.card →
      (∃ b, (takeLowest (blocksFor w.data.length) free).1 =
        List.range' b (blocksFor w.data.length)) ∧
      Consecutive (takeLowest (blocksFor w.data.length) free).2 ws

theorem Consecutive.of_Ico (m t ws) : Consecutive (Finset.Ico m t) ws := by
  induction ws generalizing m with
  | nil => trivial
  | cons w ws ih =>
    intro hcard
    rcases Nat.eq_zero_or_pos (blocksFor w.data.length) with h0 | hpos
    · rw [h0]
      exact ⟨⟨m, rfl⟩, ih m⟩
    · rw [Nat.card_Ico] at hcard
      rw [takeLowest_Ico (by omega)]
      exact ⟨⟨m, rfl⟩, ih _⟩

/-- The data of the writes lies in the allocations, whose blocks are taken from the free set `F` and
leave `F'`. -/
inductive Laid (c : Nat → Block) : Finset Nat → List PendingWrite → List AllocationEntry → Finset Nat → Prop
  | nil {F} : Laid c F [] [] F
  | cons {F w e ws es F'} : EntryFor w e → e.extent ⊆ F → Stored c e.blockIdx w.data →
      Laid c (F \ e.extent) ws es F' → Laid c F (w :: ws) (e :: es) F'

namespace Laid

variable {c c' : Nat → Block} {F F' : Finset Nat} {ws : List PendingWrite} {es : List AllocationEntry}

section

variable (h : Laid c F ws es F')
include h

theorem subset : F' ⊆ F := by
  induction h with
  | nil => exact Finset.Subset.refl _
  | cons _ _ _ _ ih => exact ih.trans sdiff_subset

theorem extent_subset : ∀ e ∈ es, e.extent ⊆ F := by
  induction h with
  | nil => simp
  | cons _ hsub _ _ ih =>
    intro e he
    rcases List.mem_cons.mp he with rfl | he
    · exact hsub
    · exact (ih e he).trans sdiff_subset

theorem extent_disjoint : ∀ e ∈ es, Disjoint e.extent F' := by
  induction h with
  | nil => simp
  | cons _ _ _ hrest ih =>
    intro e he
    rcases List.mem_cons.mp he with rfl | he
    · exact disjoint_of_subset_right hrest.subset disjoint_sdiff
    · exact ih e he

theorem pairwise : es.Pairwise fun e e' => Disjoint e.extent e'.extent := by
  induction h with
  | nil => exact .nil
  | cons _ _ _ hrest ih =>
    refine .cons ?_ ih
    intro e he
    exact disjoint_of_subset_right (hrest.extent_subset e he) disjoint_sdiff

theorem congr (hc : ∀ i ∈ F, c' i = c i) : Laid c' F ws es F' := by
  induction h with
  | nil => exact .nil
  | cons hw hsub hst _ ih =>
    refine .cons hw hsub (hst.congr ?_) (ih fun i hi => hc i (mem_sdiff.mp hi).1)
    rw [← hw.2.2]
    exact fun i hi => hc i (hsub hi)

theorem holds : List.Forall₂ (Holds c) ws es := by
  induction h with
  | nil => exact .nil
  | cons hw _ hst _ ih => exact .cons ⟨hw, hst⟩ ih

end

theorem cons_range' {b G} (hsub : ∀ i ∈ List.range' b (blocksFor w.data.length), i ∈ F)
    (hG : G = F \ (List.range' b (blocksFor w.data.length)).toFinset) (hst : Stored c b w.data)
    (h : Laid c G ws es F') : Laid c F (w :: ws) (⟨w.objectId, w.versionId, b, w.data.length⟩ :: es) F' := by
  have hext : (List.range' b (blocksFor w.data.length)).toFinset =
      (⟨w.objectId, w.versionId, b, w.data.length⟩ : AllocationEntry).extent := by
    ext i
    simp [AllocationEntry.extent, List.mem_range'_1]
  refine .cons ⟨rfl, rfl, rfl⟩ ?_ hst ?_
  · rw [← hext]
    exact fun i hi => hsub i (List.mem_toFinset.mp hi)
  · rwa [← hext, ← hG]

end Laid

/-! ## Documents in blocks -/

def Wrote {α : Type} [SerdeJson α] (a : α) (i : Nat) (c c' : Nat → Block) : Prop :=
  ∃ json, toVec a = some json ∧ json.length ≤ blockSize ∧ c' = update c i (Block.ofBytes json)

namespace Wrote

variable {α : Type} [SerdeJson α] {a : α} {i : Nat} {c c' : Nat → Block}

theorem of_ne (h : Wrote a i c c') {j} (hj : j ≠ i) : c' j = c j := by
  obtain ⟨_, _, _, rfl⟩ := h
  exact update_of_ne hj _ _

theorem untilNull [LawfulSerdeJson α] (h : Wrote a i c c') : toVec a = some (c' i).untilNull := by
  obtain ⟨json, hj, hlen, rfl⟩ := h
  rw [update_self, Block.untilNull_ofBytes (LawfulSerdeJson.null_not_mem hj) hlen, hj]

end Wrote

namespace BlockStorage

variable {D : Type} [BlockDevice D] {s : BlockStorage D}

/-! ## The data blocks -/

structure EntryWritten (s : BlockStorage D) (w : PendingWrite) (e : AllocationEntry) (F : Finset Nat)
    (c : Nat → Block) : Prop where
  entry : EntryFor w e
  nonempty : w.data ≠ []
  enough : blocksFor w.data.length ≤ s.freeBlocks.card
  free : F = (takeLowest (blocksFor w.data.length) s.freeBlocks).2
  stored : ∀ b, (takeLowest (blocksFor w.data.length) s.freeBlocks).1 = List.range' b (blocksFor w.data.length) →
    e.blockIdx = b ∧ Stored c b w.data

structure DataWritten (s : BlockStorage D) (ws : List PendingWrite) (es : List AllocationEntry)
    (F : Finset Nat) (c : Nat → Block) : Prop where
  free : UpperPart F s.freeBlocks
  frame : ∀ i, i ∉ s.freeBlocks ∨ i ∈ F → c i = contents s.device i
  entries : List.Forall₂ EntryFor ws es
  nonempty : ∀ w ∈ ws, w.data ≠ []
  taken : ws ≠ [] → F.card < s.freeBlocks.card
  laid : Consecutive s.freeBlocks ws → Laid c s.freeBlocks ws es F

def TakesFree (s s' : BlockStorage D) (F : Finset Nat) (d : D) : Prop :=
  s' = { s with device := d, freeBlocks := F } ∧ blockCount d = blockCount s.device ∧
    UpperPart F s.freeBlocks ∧ ∀ i, i ∉ s.freeBlocks ∨ i ∈ F → contents d i = contents s.device i

variable [LawfulBlockDevice D]

theorem post_writeEntry (w) : (writeEntry w).Post s fun r s' => ∃ d F, TakesFree s s' F d ∧
      (F = s.freeBlocks → r = .error .panic ∨ s.freeBlocks.card < blocksFor w.data.length) ∧
      ∀ e, r = .ok e → EntryWritten s w e F (contents d) := by
  rw [writeEntry, post_bind, post_mapErr]
  refine post_allocateBlocks ?_ ?_
  · intro hcard
    obtain ⟨hnodup, hsub, hrest, hlen⟩ := takeLowest_spec (blocksFor w.data.length) s.freeBlocks
    have hupper := takeLowest_upper (blocksFor w.data.length) s.freeBlocks
    have hlen := hlen hcard
    generalize hbs : (takeLowest (blocksFor w.data.length) s.freeBlocks).1 = bs at *
    generalize hF : (takeLowest (blocksFor w.data.length) s.freeBlocks).2 = F at *
    cases bs with
    | nil => exact ⟨s.device, F, ⟨rfl, rfl, hupper, fun _ _ => rfl⟩, fun _ => .inl rfl, fun e h => by cases h⟩
    | cons b bs =>
      simp only [post_bind, post_mapErr]
      refine (post_writeData (s := { s with freeBlocks := F }) (b :: bs) w.data).mono ?_
      rintro r _ ⟨d, rfl, hd, hother, hdata, _⟩
      have hframe : ∀ i, i ∉ s.freeBlocks ∨ i ∈ F → contents d i = contents s.device i := by
        intro i hi
        refine hother i fun hmem => ?_
        rcases hi with hi | hi
        · exact hi (hsub i hmem)
        · rw [hrest] at hi
          exact (mem_sdiff.mp hi).2 (List.mem_toFinset.mpr hmem)
      have htaken : F ≠ s.freeBlocks := by
        intro heq
        rw [hrest] at heq
        exact (mem_sdiff.mp (heq ▸ hsub b (by simp))).2 (by simp)
      rcases r with (_ | _) | _
      · exact ⟨d, F, ⟨rfl, hd, hupper, hframe⟩, fun h => absurd h htaken, fun e h => by cases h⟩
      · exact ⟨d, F, ⟨rfl, hd, hupper, hframe⟩, fun h => absurd h htaken, fun e h => by cases h⟩
      · refine ⟨d, F, ⟨rfl, hd, hupper, hframe⟩, fun h => absurd h htaken, ?_⟩
        rintro _ ⟨⟩
        refine ⟨⟨rfl, rfl, rfl⟩, ?_, hcard, hF.symm, ?_⟩
        · rintro hnil
          rw [hnil] at hlen
          cases hlen
        · rw [hbs]
          intro b' hb'
          obtain rfl : b = b' := by
            rw [← hlen, List.length_cons, List.range'_succ] at hb'
            exact (List.cons.inj hb').1
          refine ⟨rfl, fun j hj => ?_⟩
          have hjb : j < (b :: bs).length := by rw [hlen]; exact hj
          have hget : (b :: bs)[j] = b + j := by simp [hb']
          rw [← hdata rfl hnodup j hjb, hget]
  · exact fun hcard =>
      ⟨s.device, s.freeBlocks, ⟨rfl, rfl, refl _, fun _ _ => rfl⟩, fun _ => .inr hcard, fun e h => by cases h⟩

omit [BlockDevice D] [LawfulBlockDevice D] in
theorem EntryWritten.laid {F F' c c' ws es} (h : EntryWritten s w e F c) (hframe : ∀ i, i ∉ F → c' i = c i)
    (hcons : Consecutive s.freeBlocks (w :: ws)) (hlaid : Consecutive F ws → Laid c' F ws es F') :
    Laid c' s.freeBlocks (w :: ws) (e :: es) F' := by
  obtain ⟨⟨b, hb⟩, hcons⟩ := hcons h.enough
  obtain ⟨_, hsub, hrest, _⟩ := takeLowest_spec (blocksFor w.data.length) s.freeBlocks
  rw [← h.free] at hcons hrest
  rw [hb] at hsub hrest
  obtain ⟨hbe, hst⟩ := h.stored b hb
  have he : e = ⟨w.objectId, w.versionId, b, w.data.length⟩ := by
    obtain ⟨h1, h2, h3⟩ := h.entry
    cases e
    simp_all
  rw [he]
  refine Laid.cons_range' hsub hrest (hst.congr fun i hi => hframe i ?_) (hlaid hcons)
  rw [hrest]
  have hmem : i ∈ List.range' b (blocksFor w.data.length) := List.mem_range'_1.mpr (mem_Ico.mp hi)
  exact fun hnot => (mem_sdiff.mp hnot).2 (List.mem_toFinset.mpr hmem)

theorem post_writePending (ws) : (writePending ws).Post s fun r s' => ∃ d F, TakesFree s s' F d ∧
      (∀ f, r = .error f → F = s.freeBlocks →
        f = .panic ∨ ∃ w ∈ ws.head?, s.freeBlocks.card < blocksFor w.data.length) ∧
      ∀ es, r = .ok es → DataWritten s ws es F (contents d) := by
  induction ws generalizing s with
  | nil =>
    refine ⟨s.device, s.freeBlocks, ⟨rfl, rfl, refl _, fun _ _ => rfl⟩, (fun _ h => by cases h), ?_⟩
    rintro es ⟨⟩
    exact ⟨refl _, fun _ _ => rfl, .nil, by simp, fun h => absurd rfl h, fun _ => .nil⟩
  | cons w ws ih =>
    rw [writePending, post_bind]
    refine (post_writeEntry w).mono ?_
    rintro r _ ⟨d, F, ⟨rfl, hd, hF, hframe⟩, htaken, he⟩
    cases r with
    | error f =>
      refine ⟨d, F, ⟨rfl, hd, hF, hframe⟩, ?_, fun es h => by cases h⟩
      rintro _ ⟨⟩ heq
      exact (htaken heq).imp Except.error.inj fun hcard => ⟨w, rfl, hcard⟩
    | ok e =>
      have he := he e rfl
      have hlt : F ⊂ s.freeBlocks := by
        refine hF.subset.ssubset_of_ne fun heq => ?_
        obtain h | h := htaken heq
        · cases h
        · exact absurd he.enough (by omega)
      simp only [post_bind]
      refine (@ih { s with device := d, freeBlocks := F }).mono ?_
      rintro r _ ⟨d', F', ⟨rfl, hd', hF', hframe'⟩, -, hes⟩
      have hall : ∀ i, i ∉ s.freeBlocks ∨ i ∈ F' → contents d' i = contents s.device i := by
        intro i hi
        rw [hframe' i (hi.imp_left fun h h' => h (hF.subset h')), hframe i (hi.imp_right fun h => hF'.subset h)]
      cases r with
      | error f =>
        refine ⟨d', F', ⟨rfl, hd'.trans hd, hF'.trans hF, hall⟩, fun _ _ heq => ?_, fun es h => by cases h⟩
        exact absurd (heq ▸ hF'.subset) hlt.not_subset
      | ok es =>
        refine ⟨d', F', ⟨rfl, hd'.trans hd, hF'.trans hF, hall⟩, (fun _ h => by cases h), ?_⟩
        rintro _ ⟨⟩
        have hes := hes es rfl
        refine ⟨hF'.trans hF, hall, .cons he.entry hes.entries, ?_, ?_, ?_⟩
        · exact List.forall_mem_cons.mpr ⟨he.nonempty, hes.nonempty⟩
        · exact fun _ => card_lt_card (hF'.subset.trans_ssubset hlt)
        · exact fun hcons => he.laid (fun i hi => hframe' i (.inl hi)) hcons hes.laid

/-! ## The commit record and the superblock -/

def nextSuperblock (s : BlockStorage D) : Superblock :=
  { s.superblock with commitSequence := s.superblock.commitSequence + 1 }

section Documents

variable [DiskFormat]

theorem post_writeSuperblock :
    (writeSuperblock : Proc (BlockStorage D) _ _).Post s fun r s' => ∃ d, s' = { s with device := d } ∧
      blockCount d = blockCount s.device ∧
      ((contents d = contents s.device ∧ r ≠ .ok ()) ∨ Wrote s.superblock 0 (contents s.device) (contents d)) := by
  simp only [writeSuperblock, post_bind, post_get, post_okOr]
  cases hjson : toVec s.superblock with
  | none => exact ⟨s.device, rfl, rfl, .inl ⟨rfl, by simp⟩⟩
  | some json =>
    simp only [post_failIf]
    split
    · exact ⟨s.device, rfl, rfl, .inl ⟨rfl, by simp⟩⟩
    · rename_i hlen
      refine post_writeBlock ?_ ?_
      · intro d hd _ hc
        have hw : Wrote s.superblock 0 (contents s.device) (contents d) := ⟨json, hjson, by omega, hc⟩
        refine post_flush ?_ ?_
        · exact fun d' hd' hc' => ⟨d', rfl, hd'.trans hd, .inr (by rw [hc']; exact hw)⟩
        · exact fun d' e hd' hc' => ⟨d', rfl, hd'.trans hd, .inr (by rw [hc']; exact hw)⟩
      · exact fun d e hd hc => ⟨d, rfl, hd, .inl ⟨hc, by simp⟩⟩

def nextRecord (s : BlockStorage D) (transactionId : TransactionId) (es : List AllocationEntry) : CommitRecord :=
  CommitRecord.new transactionId s.nextSuperblock.commitSequence es

def nextSlot (s : BlockStorage D) : Nat :=
  s.superblock.commitLogStart + s.nextSuperblock.commitSequence % s.superblock.commitLogBlocks

/-- The ways `write_commit_record` can end: the sequence overflows, nothing is stored, the record is stored and a later
step fails, or the record and the superblock are stored. -/
inductive RecordOutcome (s : BlockStorage D) (t : TransactionId) (es : List AllocationEntry) :
    Except (Fault BlockStorageError) Unit → BlockStorage D → Prop
  | overflowed : RecordOutcome s t es (.error .panic) s
  | refused {r d} : r ≠ .ok () → blockCount d = blockCount s.device → contents d = contents s.device →
      RecordOutcome s t es r { s with device := d, superblock := s.nextSuperblock }
  | recorded {r d c} : r ≠ .ok () → blockCount d = blockCount s.device →
      Wrote (s.nextRecord t es) s.nextSlot (contents s.device) c →
      (contents d = c ∨ Wrote s.nextSuperblock 0 c (contents d)) →
      RecordOutcome s t es r { s with device := d, superblock := s.nextSuperblock }
  | written {d c} : blockCount d = blockCount s.device →
      Wrote (s.nextRecord t es) s.nextSlot (contents s.device) c →
      Wrote s.nextSuperblock 0 c (contents d) →
      RecordOutcome s t es (.ok ()) { s with device := d, superblock := s.nextSuperblock }

theorem post_writeCommitRecord (t es) : (writeCommitRecord t es).Post s (RecordOutcome s t es) := by
  have hrec : CommitRecord.new t (s.superblock.commitSequence + 1) es = s.nextRecord t es := rfl
  rw [writeCommitRecord, post_get_bind, post_okOrPanic_bind, checkedAdd]
  split_ifs
  case neg => exact .overflowed
  simp only [post_bind, post_modify, post_get, post_okOr, hrec]
  cases hjson : toVec (s.nextRecord t es) with
  | none => exact .refused (by simp) rfl rfl
  | some json =>
    simp only [post_failIf]
    split
    · exact .refused (by simp) rfl rfl
    split
    · exact .refused (by simp) rfl rfl
    simp only [post_okOrPanic, checkedAdd]
    split_ifs
    case neg => exact .refused (by simp) rfl rfl
    refine post_writeBlock ?_ ?_
    · intro d hd _ hc
      have hw : Wrote (s.nextRecord t es) s.nextSlot (contents s.device) (contents d) :=
        ⟨json, hjson, by omega, hc⟩
      refine post_flush ?_ ?_
      · intro d' hd' hc'
        have hw : Wrote (s.nextRecord t es) s.nextSlot (contents s.device) (contents d') := by
          rw [hc']; exact hw
        refine (post_writeSuperblock (s := { s with device := d', superblock := s.nextSuperblock })).mono ?_
        rintro r _ ⟨d'', rfl, hd'', hsb⟩
        have hcount : blockCount d'' = blockCount s.device := hd''.trans (hd'.trans hd)
        rcases hsb with ⟨hsame, hr⟩ | hsb
        · exact .recorded hr hcount hw (.inl hsame)
        · by_cases hr : r = .ok ()
          · subst hr; exact .written hcount hw hsb
          · exact .recorded hr hcount hw (.inr hsb)
      · intro d' e hd' hc'
        exact .recorded (by simp) (hd'.trans hd) hw (.inl hc')
    · exact fun d e hd hc => .refused (by simp) hd hc

inductive CommitOutcome (s : BlockStorage D) (tx : Transaction) :
    Except (Fault TransactionError) Transaction → BlockStorage D → Prop
  | finalized : tx.state ≠ .active → CommitOutcome s tx (.error (.err .alreadyFinalized)) s
  | empty : tx.state = .active → s.pending[tx.id]? = none →
      CommitOutcome s tx (.ok { tx with state := .committed }) s
  | aborted {ws r d F q} : tx.state = .active → s.pending[tx.id]? = some ws → (∀ t, r ≠ .ok t) →
      blockCount d = blockCount s.device → UpperPart F s.freeBlocks →
      (∀ i, i ∉ s.freeBlocks ∨ i ∈ F → contents d i = contents s.device i) →
      (q = s.superblock.commitSequence ∧ (F = s.freeBlocks →
          r = .error .panic ∨ ∃ w ∈ ws.head?, s.freeBlocks.card < blocksFor w.data.length) ∨
        q = s.nextSuperblock.commitSequence ∧ (ws ≠ [] → F.card < s.freeBlocks.card)) →
      CommitOutcome s tx r
        { s with
          device := d, freeBlocks := F, pending := s.pending.erase tx.id
          superblock := { s.superblock with commitSequence := q } }
  | recorded {ws es r d F c₁ c₂} : tx.state = .active → s.pending[tx.id]? = some ws → (∀ t, r ≠ .ok t) →
      blockCount d = blockCount s.device → DataWritten s ws es F c₁ →
      Wrote (s.nextRecord tx.id es) s.nextSlot c₁ c₂ →
      (contents d = c₂ ∨ Wrote s.nextSuperblock 0 c₂ (contents d)) →
      CommitOutcome s tx r
        { s with
          device := d, freeBlocks := F, pending := s.pending.erase tx.id
          superblock := s.nextSuperblock }
  | committed {ws es d F c₁ c₂} : tx.state = .active → s.pending[tx.id]? = some ws →
      blockCount d = blockCount s.device → DataWritten s ws es F c₁ →
      Wrote (s.nextRecord tx.id es) s.nextSlot c₁ c₂ → Wrote s.nextSuperblock 0 c₂ (contents d) →
      CommitOutcome s tx (.ok { tx with state := .committed })
        (es.foldl recordAllocation
          { s with
            device := d, freeBlocks := F, pending := s.pending.erase tx.id
            superblock := s.nextSuperblock })

theorem commit_outcome (tx) : (commit tx).Post s (CommitOutcome s tx) := by
  simp only [commit, post_bind, post_failIf]
  split
  · rename_i h; exact .finalized h
  rename_i hactive
  have hactive : tx.state = .active := not_not.mp hactive
  have hcommit : tx.commit = .ok { tx with state := .committed } := by simp [Transaction.commit, hactive]
  simp only [post_get, hcommit]
  cases hp : s.pending[tx.id]? with
  | none =>
    exact .empty hactive hp
  | some ws =>
    simp only [post_bind, post_set]
    refine (post_writePending (s := { s with pending := s.pending.erase tx.id }) ws).mono ?_
    rintro r _ ⟨d, F, ⟨rfl, hd, hF, hframe⟩, htaken, hes⟩
    cases r with
    | error e =>
      exact .aborted hactive hp (by simp) hd hF hframe
        (.inl ⟨rfl, fun heq => (htaken e rfl heq).imp_left (congrArg Except.error)⟩)
    | ok es =>
      have hes : DataWritten s ws es F (contents d) := by
        obtain ⟨h₁, h₂, h₃, h4, h5, h6⟩ := hes es rfl
        exact ⟨h₁, h₂, h₃, h4, h5, h6⟩
      simp only [post_mapErr]
      refine (post_writeCommitRecord tx.id es).mono ?_
      intro r s' h
      cases h with
      | overflowed => exact .aborted hactive hp (by simp) hd hF hframe (.inl ⟨rfl, fun _ => .inl rfl⟩)
      | @refused r d' hr hd' hc =>
        have hframe : ∀ i, i ∉ s.freeBlocks ∨ i ∈ F → contents d' i = contents s.device i := by
          intro i hi; rw [hc]; exact hframe i hi
        rcases r with (_ | _) | _
        · exact .aborted hactive hp (by simp) (hd'.trans hd) hF hframe (.inr ⟨rfl, hes.taken⟩)
        · exact .aborted hactive hp (by simp) (hd'.trans hd) hF hframe (.inr ⟨rfl, hes.taken⟩)
        · exact absurd rfl hr
      | @recorded r d' c hr hd' hrec hsb =>
        rcases r with (_ | _) | _
        · exact .recorded hactive hp (by simp) (hd'.trans hd) hes hrec hsb
        · exact .recorded hactive hp (by simp) (hd'.trans hd) hes hrec hsb
        · exact absurd rfl hr
      | written hd' hrec hsb =>
        exact .committed hactive hp (hd'.trans hd) hes hrec hsb

end Documents

end BlockStorage

end PandaGen.Storage
