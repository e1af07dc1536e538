import PandaGen.Storage.Lemmas.Refinement

/-!
# Sessions that open their device again

`open` rebuilds the free set from the records it accepts, so blocks that earlier sessions lost are free again and may
lie apart.
-/

namespace PandaGen.Storage

open Hal Lib BlockStorage

theorem exists_eq_range'_iff {l n} : (∃ b, l = List.range' b n) ↔ l = List.range' (l.headD 0) n := by
  constructor
  · rintro ⟨b, rfl⟩
    cases n <;> rfl
  · exact fun h => ⟨_, h⟩

instance decidableConsecutive : (free : Finset Nat) → (ws : List PendingWrite) → Decidable (Consecutive free ws)
  | _, [] => .isTrue trivial
  | free, w :: ws =>
    have := decidableConsecutive (takeLowest (blocksFor w.data.length) free).2 ws
    have : Decidable (∃ b, (takeLowest (blocksFor w.data.length) free).1 =
        List.range' b (blocksFor w.data.length)) := decidable_of_iff _ exists_eq_range'_iff.symm
    inferInstanceAs (Decidable (_ → _ ∧ _))

namespace BlockStorage

variable {D : Type} [BlockDevice D] [DiskFormat]

def NextSlotOlder (s : BlockStorage D) : Prop :=
  ∀ r ∈ decodeRecord (contents s.device s.nextSlot), r.sequence ≤ s.nextSuperblock.commitSequence

instance (s : BlockStorage D) : Decidable s.NextSlotOlder :=
  inferInstanceAs (Decidable (∀ r ∈ decodeRecord (contents s.device s.nextSlot), _))

structure Intact (s : BlockStorage D) (tr : Trace) (e : AllocationEntry) : Prop where
  holds : ∃ x, Written tr x ∧ x.data ≠ [] ∧ Holds (contents s.device) x e
  inside : e.extent ⊆ Finset.Ico s.superblock.dataStart s.superblock.totalBlocks
  taken : Disjoint e.extent s.freeBlocks

/-- What is in the index is intact, and so is what recovery would find. -/
structure Recoverable (s : BlockStorage D) (tr : Trace) : Prop where
  index : ∃ es, s.Indexed es ∧ ∀ e ∈ es, s.Intact tr e
  log : ∀ e ∈ entriesOf (accepted s.superblock.commitLogBlocks (contents s.device)), s.Intact tr e

variable {s s' : BlockStorage D} {tr : Trace} {e : AllocationEntry}

omit [DiskFormat] in
theorem Intact.mono (h : s.Intact tr e) (tr') : s.Intact (tr ++ tr') e := by
  obtain ⟨x, hx, hne, hold⟩ := h.holds
  exact ⟨⟨x, hx.mono, hne, hold⟩, h.inside, h.taken⟩

theorem Recoverable.mono (h : s.Recoverable tr) (tr') : s.Recoverable (tr ++ tr') := by
  obtain ⟨es, hi, hes⟩ := h.index
  exact ⟨⟨es, hi, fun e he => (hes e he).mono tr'⟩, fun e he => (h.log e he).mono tr'⟩

theorem Recoverable.withPending (h : s.Recoverable tr) (p) :
    ({ s with pending := p } : BlockStorage D).Recoverable tr := by
  obtain ⟨es, hi, hes⟩ := h.index
  exact ⟨⟨es, hi.congr rfl rfl, fun e he => ⟨(hes e he).holds, (hes e he).inside, (hes e he).taken⟩⟩,
    fun e he => ⟨(h.log e he).holds, (h.log e he).inside, (h.log e he).taken⟩⟩

omit [DiskFormat] in
theorem Intact.frame (h : s.Intact tr e) (hsb : ∃ q, s'.superblock = { s.superblock with commitSequence := q })
    (hfree : s'.freeBlocks ⊆ s.freeBlocks)
    (hc : ∀ i, s.superblock.dataStart ≤ i → i ∉ s.freeBlocks → contents s'.device i = contents s.device i) :
    s'.Intact tr e := by
  obtain ⟨q, hsb⟩ := hsb
  obtain ⟨x, hx, hne, hold⟩ := h.holds
  refine ⟨⟨x, hx, hne, hold.congr fun i hi => ?_⟩, by rw [hsb]; exact h.inside,
    Finset.disjoint_of_subset_right hfree h.taken⟩
  exact hc i (Finset.mem_Ico.mp (h.inside hi)).1 (Finset.disjoint_left.mp h.taken hi)

theorem Intact.reads [LawfulBlockDevice D] (h : s.Intact tr e) (hg : s.Geometry) :
    e.blockIdx + blocksFor e.sizeBytes ≤ s.superblock.totalBlocks ∧
      ∃ x, Written tr x ∧ EntryFor x e ∧ s.readEntry e = some x.data := by
  obtain ⟨x, hx, hne, hfor, hold⟩ := h.holds
  have hle : e.blockIdx + blocksFor e.sizeBytes ≤ s.superblock.totalBlocks := by
    refine AllocationEntry.le_of_extent_subset ?_ h.inside
    rw [hfor.2.2]
    exact blocksFor_pos (List.length_pos_iff.mpr hne)
  exact ⟨hle, x, hx, hfor, readEntry_of_stored hfor.2.2 hold (hg.fits.totalBlocks ▸ hle)⟩

theorem Fresh.intact {ws es} (h : Fresh s s' ws es) (hg : s.Geometry)
    (hsb : ∃ q, s'.superblock = { s.superblock with commitSequence := q }) (hws : ∀ x ∈ ws, Written tr x) :
    ∀ e ∈ es, s'.Intact tr e := by
  obtain ⟨q, hsb⟩ := hsb
  intro e he
  obtain ⟨x, hx, hold⟩ := exists_of_forall₂_right h.holds he
  exact ⟨⟨x, hws x hx, h.nonempty x hx, hold⟩, by rw [hsb]; exact (h.inside e he).trans hg.free, h.taken e he⟩

variable [LawfulBlockDevice D] {tx : Transaction} {r : Except (Fault TransactionError) Transaction}
  {ws : List PendingWrite} {es : List AllocationEntry} {c1 : Nat → Block}

theorem Storing.mem_accepted (hs : Storing s tx ws es c1 s') (hg : s.Geometry) (hold : s.NextSlotOlder)
    (he : e ∈ entriesOf (accepted s.superblock.commitLogBlocks (contents s'.device))) :
    e ∈ es ∨ e ∈ entriesOf (accepted s.superblock.commitLogBlocks (contents s.device)) := by
  obtain ⟨r, hr, he⟩ := List.mem_flatMap.mp he
  rw [accepted, hs.appended.log] at hr
  have hlt := Nat.mod_lt s.nextSuperblock.commitSequence hg.fits.commitLogBlocks_pos
  have hslot : ∀ r0, (slots s.superblock.commitLogBlocks (contents s.device))[
      s.nextSuperblock.commitSequence % s.superblock.commitLogBlocks]? = some (some r0) →
      r0.sequence ≤ s.nextSuperblock.commitSequence := by
    intro r0 hr0
    rw [getElem?_slots hlt, ← hg.nextSlot_eq.1] at hr0
    exact hold r0 (Option.some.inj hr0)
  rcases SeqLog.mem_scan_store hslot hr with rfl | hr
  · exact .inl he
  · exact .inr (List.mem_flatMap.mpr ⟨r, hr, he⟩)

theorem CommitEffect.recoverable (he : CommitEffect s tx r s') (hg : s.Geometry) (h : s.Recoverable tr)
    (hpend : ∀ ws, tx.state = .active → s.pending[tx.id]? = some ws →
      (∀ x ∈ ws, Written tr x) ∧ Consecutive s.freeBlocks ws ∧ s.NextSlotOlder) : s'.Recoverable tr := by
  obtain ⟨es, hi, hes⟩ := h.index
  have hgeo := he.geometry hg
  obtain ⟨q, hq⟩ := hgeo.2
  have hn : s'.superblock.commitLogBlocks = s.superblock.commitLogBlocks := by rw [hq]
  have hstored : ∀ {ws' es' c1}, Storing s tx ws' es' c1 s' → tx.state = .active → s.pending[tx.id]? = some ws' →
      (∀ e, s.Intact tr e → s'.Intact tr e) ∧ (∀ e ∈ es', s'.Intact tr e) ∧
        ∀ e ∈ entriesOf (accepted s'.superblock.commitLogBlocks (contents s'.device)), s'.Intact tr e := by
    intro ws' es' c1 hs hactive hp
    obtain ⟨hw, hcons, hold⟩ := hpend ws' hactive hp
    have hkeep : ∀ e, s.Intact tr e → s'.Intact tr e := fun e he =>
      he.frame hgeo.2 hs.data.free.subset fun i hi hfree => hs.frame hi hfree
    have hnew := (hs.fresh hg hcons).intact hg hgeo.2 hw
    refine ⟨hkeep, hnew, fun e he => ?_⟩
    rw [hn] at he
    rcases hs.mem_accepted hg hold he with he | he
    · exact hnew e he
    · exact hkeep e (h.log e he)
  cases he with
  | refused => exact h
  | empty => exact h
  | aborted _ _ _ ha =>
    have hkeep : ∀ e, s.Intact tr e → s'.Intact tr e := fun e he =>
      he.frame hgeo.2 ha.free.subset fun i _ hi => ha.frame i (.inl hi)
    refine ⟨⟨es, hi.congr ha.allocations ha.latestVersions, fun e he => hkeep e (hes e he)⟩, fun e he => ?_⟩
    rw [accepted, hn, ha.slots_eq hg] at he
    exact hkeep e (h.log e he)
  | recorded hactive hp _ hs ha hl _ =>
    obtain ⟨hkeep, _, hlog⟩ := hstored hs hactive hp
    exact ⟨⟨es, hi.congr ha hl, fun e he => hkeep e (hes e he)⟩, hlog⟩
  | @committed _ es' _ _ hactive hp hs hidx _ =>
    obtain ⟨hkeep, hnew, hlog⟩ := hstored hs hactive hp
    refine ⟨⟨es ++ es', hidx es hi, fun e he => ?_⟩, hlog⟩
    rcases List.mem_append.mp he with he | he
    · exact hkeep e (hes e he)
    · exact hnew e he

omit [LawfulBlockDevice D] in
theorem Reopened.recoverable {q} (hre : Reopened s.device { s.superblock with commitSequence := q } s')
    (h : s.Recoverable tr) : s'.Recoverable tr := by
  have hintact : ∀ e ∈ entriesOf (accepted s.superblock.commitLogBlocks (contents s.device)), s'.Intact tr e := by
    intro e he
    refine ⟨?_, ?_, hre.disjoint e he⟩
    · rw [hre.held]
      exact (h.log e he).holds
    · rw [hre.superblock]
      exact (h.log e he).inside
  refine ⟨⟨_, hre.indexed, hintact⟩, ?_⟩
  rw [hre.held, hre.superblock]
  exact hintact

end BlockStorage

/-- A commit that finds consecutive blocks for each of its pending writes, and in the slot of its record
none with a greater number; any other call. -/
def Orderly {D : Type} [BlockDevice D] [DiskFormat] (w : Session (BlockStorage D)) :
    Op → Response → Prop
  | .commit i, _ => ∀ tx ∈ w.txs[i]?, tx.state = .active → ∀ ws ∈ w.storage.pending[tx.id]?,
      Consecutive w.storage.freeBlocks ws ∧ w.storage.NextSlotOlder
  | _, _ => True

instance {D : Type} [BlockDevice D] [DiskFormat] (w : Session (BlockStorage D)) :
    (op : Op) → (o : Response) → Decidable (Orderly w op o)
  | .commit i, _ => inferInstanceAs (Decidable (∀ tx ∈ w.txs[i]?, tx.state = .active →
      ∀ ws ∈ w.storage.pending[tx.id]?, Consecutive w.storage.freeBlocks ws ∧ w.storage.NextSlotOlder))
  | .begin _, _ => .isTrue trivial
  | .write .., _ => .isTrue trivial
  | .rollback _, _ => .isTrue trivial
  | .recover, _ => .isTrue trivial

namespace Session

variable {D : Type} [BlockDevice D] [DiskFormat] [LawfulBlockDevice D]
  {w w' : Session (BlockStorage D)} {op : Op} {o : Response} {tr : Trace} {s0 : BlockStorage D}

theorem Effect.recoverable (he : Effect w op o w') (hG : Orderly w op o) (ht : Tracks s0 w tr)
    (h : w.storage.Recoverable tr) : w'.storage.Recoverable tr := by
  have hpend : ∀ {i tx}, w.txs[i]? = some tx → Orderly w (.commit i) o → ∀ ws, tx.state = .active →
      w.storage.pending[tx.id]? = some ws →
      (∀ x ∈ ws, Written tr x) ∧ Consecutive w.storage.freeBlocks ws ∧ w.storage.NextSlotOlder := by
    intro i tx htx hG ws hactive hp
    refine ⟨fun x hx => ht.acknowledged.pending tx.id x ?_, hG tx htx hactive ws hp⟩
    rw [← ht.refines.pending, hp]
    exact hx
  cases he with
  | began | writeRefused | rollbackRefused => exact h
  | wrote | rolledBack => exact h.withPending _
  | committed htx hc | commitFailed htx hc => exact hc.recoverable ht.geometry h (hpend htx hG)
  | reopened _ hre => exact hre.recoverable h

variable [LawfulDiskFormat]

theorem run_recoverable {d} (hf : format d = .ok s0)
    (hlog : entriesOf (accepted s0.superblock.commitLogBlocks (contents d)) = [])
    (hrun : (machine D).Run Orderly (Session.start s0) tr w) : Tracks s0 w tr ∧ w.storage.Recoverable tr := by
  have hfmt := format_formatted hf
  have hlog0 : entriesOf
      (accepted s0.superblock.commitLogBlocks (contents s0.device)) = [] := by
    rw [accepted, hfmt.slots_eq]
    exact hlog
  have hP := hrun.invariantTrace (P := fun tr w => Tracks s0 w tr ∧ w.storage.Recoverable tr)
    (fun tr w op o w' h hs hG => ⟨h.1.step hs, ((step_effect hs h.1.geometry).recoverable hG h.1 h.2).mono _⟩) []
    ⟨Tracks.start hfmt.geometry hfmt.pending,
      ⟨[], .empty hfmt.allocations hfmt.latestVersions, by simp⟩, fun e he => by
        have he : e ∈ entriesOf
          (accepted s0.superblock.commitLogBlocks (contents s0.device)) := he
        rw [hlog0] at he
        cases he⟩
  simpa using hP

end Session

end PandaGen.Storage
