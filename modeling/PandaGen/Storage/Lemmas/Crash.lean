import PandaGen.Storage.Lemmas.Durability

/-!
# A commit that is cut off

A commit is cut off by a device that refuses its block writes from some point on.
-/

namespace PandaGen.Storage

open Hal Lib BlockStorage Ledger Session LawfulBlockDevice List Nat SeqLog

namespace BlockStorage

def cutAfter {D : Type} (s : BlockStorage (FailingBlockDevice D)) (k : Nat) : BlockStorage (FailingBlockDevice D) :=
  { s with device := s.device.setPolicy (.afterWrites k) }

variable {D : Type} [BlockDevice D] [DiskFormat]

omit [BlockDevice D] in
def RecordStored (s : BlockStorage D) (t : TransactionId) (ws : List PendingWrite) (c : Nat → Block) : Prop :=
  ∃ es, Forall₂ EntryFor ws es ∧ decodeRecord (c s.nextSlot) = some (s.nextRecord t es)

variable {s s' : BlockStorage D} {tx : Transaction} {r : Except (Fault TransactionError) Transaction}
  {ws : List PendingWrite} {es : List AllocationEntry} {c1 : Nat → Block}

/-- A commit leaves the log and what was committed as they are, or its record is stored. -/
theorem CommitEffect.stored_or (he : CommitEffect s tx r s') (h : s.Sound ws es) :
    (slots s.superblock.commitLogBlocks (contents s'.device) =
        slots s.superblock.commitLogBlocks (contents s.device) ∧ s'.Sound ws es) ∨
      ∃ ws' es' c1, tx.state = .active ∧ s.pending[tx.id]? = some ws' ∧ Storing s tx ws' es' c1 s' := by
  have hgeo := he.geometry h.geometry
  cases he with
  | refused | empty => exact .inl ⟨rfl, h⟩
  | aborted _ _ _ ha => exact .inl ⟨ha.slots_eq h.geometry, ha.sound h hgeo⟩
  | recorded hactive hp _ hs | committed hactive hp hs => exact .inr ⟨_, _, _, hactive, hp, hs⟩

variable [LawfulBlockDevice D]

theorem Storing.recordStored (hs : Storing s tx ws es c1 s') (hg : s.Geometry) :
    RecordStored s tx.id ws (contents s'.device) := by
  refine ⟨es, hs.data.entries, ?_⟩
  have hlt := mod_lt s.nextSuperblock.commitSequence hg.fits.commitLogBlocks_pos
  have hget := getElem?_slots (c := contents s'.device) hlt
  have hslot : (s.nextRecord tx.id es).sequence % s.superblock.commitLogBlocks =
      s.nextSuperblock.commitSequence % s.superblock.commitLogBlocks := rfl
  rw [hs.appended.log, store, hslot, getElem?_set_self (by rw [length_slots]; exact hlt)] at hget
  rw [hg.nextSlot_eq.1]
  exact (Option.some.inj hget).symm

variable {c0 : Nat → Block} {wss : List (List PendingWrite)} {rs : List CommitRecord} {n : Nat} {c : Nat → Block}

section

variable (h : s.Logged c0 0 wss rs) (hg : s.Geometry)
  (hlog : slots s.superblock.commitLogBlocks c = slots s.superblock.commitLogBlocks (contents s.device))
  (hlt : rs.length + 1 < s.superblock.commitLogBlocks)
include h hg hlog hlt

/-- A record that is found although the log did not change was in the old log. -/
theorem Logged.old_of_recordStored {t} (hrec : RecordStored s t ws c) :
    ∃ es, Forall₂ EntryFor ws es ∧ (s.nextRecord t es).sequence = rs.length + 1 ∧
      (slots s.superblock.commitLogBlocks c0)[rs.length + 1]? = some (some (s.nextRecord t es)) := by
  obtain ⟨es, hes, hrec⟩ := hrec
  have hseq : s.nextSuperblock.commitSequence = rs.length + 1 := by rw [h.nextSequence, zero_add]
  have hget := getElem?_slots (c := c) hlt
  rw [hg.nextSlot_eq.1, hseq, mod_eq_of_lt hlt] at hrec
  rw [hrec, hlog, h.log] at hget
  refine ⟨es, hes, hseq, ?_⟩
  rcases mem_foldl_store hget with hold | ⟨r, hr, _, hslot⟩
  · exact hold
  · have hmem : r.sequence ∈ rs.map (·.sequence) := mem_map_of_mem hr
    rw [h.seqs, mem_range'_1] at hmem
    rw [mod_eq_of_lt (by omega)] at hslot
    omega

theorem Logged.not_recordStored (hclean : CleanLog (slots s.superblock.commitLogBlocks c0) rs.length)
    (hclean' : CleanLog (slots s.superblock.commitLogBlocks c0) (rs.length + 1)) {t} (hws : ws ≠ []) :
    ¬ RecordStored s t ws c := by
  intro hrec
  obtain ⟨es, hes, hseq, hold⟩ := h.old_of_recordStored hg hlog hlt hrec
  have hnil : es = [] := hclean.later _ (SeqLog.Revealed.of_next hold hseq (hclean'.first (by omega)))
  subst hnil
  exact hws (forall₂_nil_right_iff.mp hes)

theorem Logged.not_recordStored_of_fresh {vs}
    (hfresh : FreshVersions (slots s.superblock.commitLogBlocks c0) vs) (hvs : ∀ x ∈ ws, x.versionId ∈ vs) {t}
    (hws : ws ≠ []) : ¬ RecordStored s t ws c := by
  intro hrec
  obtain ⟨es, hes, _, hold⟩ := h.old_of_recordStored hg hlog hlt hrec
  obtain ⟨x, hx⟩ := exists_mem_of_ne_nil _ hws
  obtain ⟨e, he, _, hxv, _⟩ := exists_of_forall₂_left hes hx
  exact hfresh _ (mem_of_getElem? hold) e he (hxv ▸ hvs x hx)

end

theorem LogOf.overwrites {c' q0 r} (h : LogOf n c c' q0 wss rs) (hrs : rs ≠ [])
    (hc' : slots n c' = store CommitRecord.sequence n (slots n c0) r) (hr : r.sequence = q0 + 1) :
    LogOf n c c0 q0 wss rs := by
  refine ⟨?_, h.seqs, h.entries, h.nonempty⟩
  cases rs with
  | nil => exact absurd rfl hrs
  | cons r1 rs =>
    have hseq : r1.sequence = q0 + 1 := by
      simpa [range'_succ] using congrArg head? h.seqs
    rw [h.log, hc', foldl_cons, foldl_cons, store_store (hr.trans hseq.symm)]

omit [LawfulBlockDevice D] in
theorem Storing.overwritten (hst : Storing s tx ws es c1 s') {wss' rs'}
    (h' : LogOf s.superblock.commitLogBlocks c (contents s'.device) s.superblock.commitSequence wss' rs')
    (hrs' : rs' ≠ []) :
    LogOf s.superblock.commitLogBlocks c (contents s.device) s.superblock.commitSequence wss' rs' :=
  h'.overwrites hrs' hst.appended.log rfl

omit [LawfulBlockDevice D] in
theorem Indexed.bytes_eq_none (h : s.Indexed (entriesOf (accepted n c))) {vs} (hfresh : FreshVersions (slots n c) vs)
    {o v} (hv : v ∈ vs) : s.view.bytes (o, v) = none := by
  have hnone : lookup (entriesOf (accepted n c)) (o, v) = none := by
    rw [← Option.not_isSome_iff_eq_none, lookup_isSome]
    rintro ⟨e, he, hkey⟩
    obtain ⟨r, hr, he⟩ := mem_flatMap.mp he
    obtain rfl : e.versionId = v := (Prod.mk.inj hkey).2
    exact hfresh r (mem_of_mem_scan hr).1 e he hv
  simp [view, h.allocations, hnone]

variable [LawfulDiskFormat] {D' : Type} [BlockDevice D'] [LawfulBlockDevice D'] {d' : D'}

/-- After a commit that was cut off, `open` finds all of it or nothing of it. -/
theorem CommitEffect.crash_view (he : CommitEffect s tx r s') (h : s.Logged c0 0 wss rs)
    (hs : s.Sound wss.flatten (entriesOf rs)) (hne : ∀ xs, s.pending[tx.id]? = some xs → xs ≠ [])
    (hlt : rs.length + 1 < s.superblock.commitLogBlocks)
    (hclean : CleanLog (slots s.superblock.commitLogBlocks c0) rs.length)
    (hclean' : CleanLog (slots s.superblock.commitLogBlocks c0) (rs.length + 1))
    (hws : ws = if tx.state = .active then s.pending[tx.id]?.getD [] else [])
    (hn : blockCount d' = blockCount s'.device) (hc : contents d' = contents s'.device) : ∃ s1, openDevice d' = .ok s1 ∧
      (RecordStored s tx.id ws (contents d') → s1.view = (View.empty.commit wss.flatten).commit ws) ∧
      (¬ RecordStored s tx.id ws (contents d') → s1.view = View.empty.commit wss.flatten) := by
  obtain ⟨hg, q', hsb⟩ := he.geometry hs.geometry
  obtain ⟨q, hq⟩ := hg.disk
  obtain ⟨s1, hre, hopen⟩ := openDevice_reopened (d := d') (hc ▸ hq) (hn ▸ hg.fits.of_sequence)
  have hidx := hre.indexed
  rw [hsb, hc] at hidx hopen
  change s1.Indexed (entriesOf (accepted s.superblock.commitLogBlocks (contents s'.device))) at hidx
  change ∀ s₂, _ ↔ (∀ e ∈ entriesOf (accepted s.superblock.commitLogBlocks (contents s'.device)), _) ∧ _ at hopen
  rcases he.stored_or hs with ⟨hslots, hs'⟩ | ⟨ws', es, c1, hactive, hp, hst⟩
  · -- nothing is found
    have hlog : LogOf s.superblock.commitLogBlocks (contents s'.device) c0 0 wss rs :=
      ⟨hslots.trans h.log, h.seqs, h.entries, h.nonempty⟩
    rw [hlog.entriesOf_accepted (by omega) hclean] at hidx hopen
    refine ⟨s1, (hopen s1).mpr ⟨hs'.inRange, rfl⟩, ?_⟩
    have hview : s1.view = View.empty.commit wss.flatten := by
      rw [← hs'.view_eq]
      exact hs'.indexed.view_congr hidx (hre.count.trans hn) (hre.held.trans hc)
    refine ⟨fun hstored => ?_, fun _ => hview⟩
    by_cases hnil : ws = []
    · rw [hnil]
      exact hview
    · refine absurd hstored (h.not_recordStored hs.geometry ?_ hlt hclean hclean' hnil)
      rw [hc]
      exact hslots
  · -- everything is found
    rw [if_pos hactive, hp, Option.getD_some] at hws
    subst hws
    have hlog := hst.logOf (hne ws hp) h
    rw [hlog.entriesOf_accepted (by rw [length_append]; exact hlt)
      (by rw [length_append]; exact hclean'), entriesOf_concat_nextRecord] at hidx hopen
    have hghost := @Storing.sound D _ _ s
      { s' with allocations := s1.allocations, latestVersions := s1.latestVersions } _ _ tx ws es c1
      { hst with } hs
      ⟨{ hg with }, q', hsb⟩ ⟨hidx.allocations, hidx.latest⟩
    refine ⟨s1, (hopen s1).mpr ⟨hghost.inRange, rfl⟩, ?_⟩
    have hview : s1.view = (View.empty.commit wss.flatten).commit ws := by
      rw [hghost.indexed.view_congr hidx (hre.count.trans hn) (hre.held.trans hc), hghost.view_eq, View.commit,
        foldl_append]
      rfl
    refine ⟨fun _ => hview, fun hno => absurd ?_ hno⟩
    rw [hc]
    exact hst.recordStored hs.geometry

end BlockStorage

namespace Session

variable {D : Type} [BlockDevice D] [DiskFormat] [LawfulBlockDevice D] [LawfulDiskFormat]
  {d : FailingBlockDevice D} {s0 s' : BlockStorage (FailingBlockDevice D)} {tr : Trace}
  {w : Session (BlockStorage (FailingBlockDevice D))} {k : Nat} {tx : Transaction}
  {r : Except (Fault TransactionError) Transaction}

theorem run_cut (hf : format d = .ok s0) (hrun : (machine _).Run Successful (start s0) tr w)
    (hcut : (commit tx).exec (w.storage.cutAfter k) = (r, s')) :
    w.storage.superblock.commitLogBlocks = s0.superblock.commitLogBlocks ∧ Tracks s0 w tr ∧
      (w.storage.cutAfter k).CommitEffect tx r s' ∧
      ∃ rs, (w.storage.cutAfter k).Logged (contents s0.device) 0 (of tr).commits rs ∧
        (w.storage.cutAfter k).Sound (of tr).commits.flatten (entriesOf rs) ∧
        rs.length = (of tr).commits.length := by
  obtain ⟨ht, rs, hl, hs⟩ := run_logged_of_format hf hrun
  obtain ⟨q, hq⟩ := ht.layout
  have hs' : (w.storage.cutAfter k).Sound (of tr).commits.flatten (entriesOf rs) :=
    hs.withDevice rfl rfl
  have ho := (commit_outcome tx).of_exec hcut
  exact ⟨by rw [hq], ht, ho.effect hs'.geometry, rs, hl.withDevice rfl, hs', hl.entries.length_eq.symm⟩

variable {D' : Type} [BlockDevice D'] [LawfulBlockDevice D'] {d' : D'} {sb : Superblock} {s1 : BlockStorage D'}
  {tr' : Trace} {w' : Session (BlockStorage D')}

omit [BlockDevice D] [LawfulBlockDevice D] in
theorem run_logged_of_open (hre : Reopened d' sb s1)
    (hsb : toVec sb = some (contents d' 0).untilNull) (hfits : sb.Fits (blockCount d'))
    (hrun : (machine D').Run Successful (start s1) tr' w') :
    w'.storage.superblock.commitLogBlocks = sb.commitLogBlocks ∧ Tracks s1 w' tr' ∧
      ∃ rs s2, w'.storage.Logged (contents d') sb.commitSequence (of tr').commits rs ∧
        Reopened w'.storage.device w'.storage.superblock s2 ∧
        ∀ s, openDevice w'.storage.device = .ok s ↔ (∀ e ∈ entriesOf (accepted w'.storage.superblock.commitLogBlocks
          (contents w'.storage.device)), e.InRange) ∧ s2 = s := by
  obtain ⟨ht, rs, hl, _⟩ := run_logged (hre.geometry hsb hfits) hre.pending
    (by rw [hre.superblock, hre.held]; exact hsb) hrun
  rw [hre.held, hre.superblock] at hl
  obtain ⟨q, hq⟩ := ht.layout
  obtain ⟨s2, hre', hopen⟩ := openDevice_reopened hl.disk ht.geometry.fits
  exact ⟨by rw [hq, hre.superblock], ht, rs, s2, hl, hre', hopen⟩

omit [BlockDevice D] [LawfulBlockDevice D] [LawfulDiskFormat] in
/-- After a session without commits, `open` finds what the session started with. -/
theorem Tracks.view_eq_of_quiet (ht : Tracks s1 w' tr') (hre : Reopened d' sb s1)
    (hfits : sb.Fits (blockCount d')) {q rs} (hl : w'.storage.Logged (contents d') q [] rs) {s2}
    (hre' : Reopened w'.storage.device w'.storage.superblock s2) : s2.view = s1.view := by
  have hheld := hl.quiet (forall₂_nil_left_iff.mp hl.entries)
  obtain ⟨q', hq'⟩ := ht.layout
  have hidx := hre'.indexed
  rw [hheld, hq', hre.superblock] at hidx
  have hcount : blockCount s2.device = blockCount s1.device := by
    rw [hre'.count, ← ht.geometry.fits.totalBlocks, hre.count, ← hfits.totalBlocks, hq', hre.superblock]
  exact hre.indexed.view_congr hidx hcount (by rw [hre'.held, hheld, hre.held])

end Session

end PandaGen.Storage
