import PandaGen.Storage.Lemmas.Session

/-!
# One session

As long as a device is not opened again, the free blocks are a final part of the data area, every
allocation lies before them and holds the data of its write, and no two allocations meet.
-/

namespace PandaGen.Storage

open Hal Lib Option AllocationEntry Finset View

/-! ## The view of committed writes -/

theorem lookup_cons (e es k) : lookup (e :: es) k = (lookup es k).or (if e.key = k then some e else none) := by
  by_cases h : e.key = k <;> simp [lookup, List.find?_append, h]

theorem latestIn_cons (e es o) :
    latestIn (e :: es) o = (latestIn es o).or (if e.objectId = o then some e.versionId else none) := by
  by_cases h : e.objectId = o <;> cases hf : es.reverse.find? (·.objectId = o) <;>
    simp [latestIn, List.find?_append, h, hf]

theorem View.commit_eq {f ws es} (h : List.Forall₂ (fun w e => EntryFor w e ∧ f e = some w.data) ws es) (v : View) :
    v.commit ws = ⟨fun o => (latestIn es o).or (v.latest o), fun k => ((lookup es k).bind f).or (v.bytes k)⟩ := by
  induction h generalizing v with
  | nil => rfl
  | @cons w e ws es hw hrest ih =>
    obtain ⟨⟨ho, hv, _⟩, hf⟩ := hw
    have hkey : (w.objectId, w.versionId) = e.key := by rw [key, ho, hv]
    show (v.write w).commit ws = _
    rw [ih]
    simp only [write, latestIn_cons, lookup_cons, mk.injEq]
    constructor
    · funext o
      rw [Option.or_assoc, Function.update_apply]
      by_cases h : e.objectId = o
      · rw [if_pos h, if_pos (h.symm.trans ho), hv, Option.some_or]
      · rw [if_neg h, if_neg (fun h' => h (ho.trans h'.symm)), Option.none_or]
    · funext k
      rw [Function.update_apply, hkey]
      cases hl : lookup es k with
      | some e' =>
        -- the later entry wins, and it can be read
        obtain ⟨w', _, _, hread⟩ := exists_of_forall₂_right hrest (mem_of_lookup hl).1
        simp [hread]
      | none =>
        by_cases h : e.key = k
        · simp [h, hf]
        · simp [h, Ne.symm h]

namespace BlockStorage

variable {D : Type} [BlockDevice D]

/-! ## The invariant -/

section

variable [DiskFormat]

structure Sound (s : BlockStorage D) (ws : List PendingWrite) (es : List AllocationEntry) : Prop where
  geometry : s.Geometry
  final : ∃ m, s.superblock.dataStart ≤ m ∧ s.freeBlocks = Finset.Ico m s.superblock.totalBlocks
  indexed : s.Indexed es
  inside : ∀ e ∈ es, e.extent ⊆ Finset.Ico s.superblock.dataStart s.superblock.totalBlocks
  taken : ∀ e ∈ es, Disjoint e.extent s.freeBlocks
  disjoint : es.Pairwise fun e e' => Disjoint e.extent e'.extent
  holds : List.Forall₂ (Holds (contents s.device)) ws es
  nonempty : ∀ w ∈ ws, w.data ≠ []

variable {s s' : BlockStorage D} {ws : List PendingWrite} {es : List AllocationEntry}

theorem Formatted.sound [LawfulDiskFormat] {d} (h : Formatted d s) : s.Sound [] [] where
  geometry := h.geometry
  final := ⟨_, Nat.le_refl _, h.freeBlocks⟩
  indexed := .empty h.allocations h.latestVersions
  inside := by simp
  taken := by simp
  disjoint := .nil
  holds := .nil
  nonempty := by simp

section

variable (h : s.Sound ws es)
include h

theorem Sound.consecutive (ws') : Consecutive s.freeBlocks ws' := by
  obtain ⟨m, _, hm⟩ := h.final
  rw [hm]
  exact Consecutive.of_Ico _ _ _

theorem Sound.le_blockCount {e} (he : e ∈ es) : e.blockIdx + blocksFor e.sizeBytes ≤ blockCount s.device := by
  obtain ⟨w, hmem, hw⟩ := exists_of_forall₂_right h.holds he
  rw [← h.geometry.fits.totalBlocks]
  refine le_of_extent_subset ?_ (h.inside e he)
  rw [hw.1.2.2]
  exact blocksFor_pos (List.length_pos_iff.mpr (h.nonempty w hmem))

theorem Sound.inRange [LawfulBlockDevice D] : ∀ e ∈ es, e.InRange :=
  fun _ he => .of_le (h.le_blockCount he) (LawfulBlockDevice.blockCount_lt s.device)

theorem Sound.reads [LawfulBlockDevice D] :
    List.Forall₂ (fun w e => EntryFor w e ∧ s.readEntry e = some w.data) ws es :=
  forall₂_imp_of_mem h.holds fun _ _ _ he hw => ⟨hw.1, readEntry_of_stored hw.1.2.2 hw.2 (h.le_blockCount he)⟩

theorem Sound.exists_of_allocation [LawfulBlockDevice D] {o v e} (he : s.allocations[(o, v)]? = some e) :
    ∃ x ∈ ws, x.objectId = o ∧ x.versionId = v ∧ s.readEntry e = some x.data := by
  rw [h.indexed.allocations] at he
  obtain ⟨hes, hk⟩ := mem_of_lookup he
  obtain ⟨rfl, rfl⟩ := Prod.mk.inj hk
  obtain ⟨x, hx, ⟨hxo, hxv, _⟩, hread⟩ := exists_of_forall₂_right h.reads hes
  exact ⟨x, hx, hxo.symm, hxv.symm, hread⟩

theorem Sound.exists_allocation {x} (hx : x ∈ ws) : ∃ e, s.allocations[(x.objectId, x.versionId)]? = some e := by
  obtain ⟨e, hes, ⟨hxo, hxv, _⟩, _⟩ := exists_of_forall₂_left h.holds hx
  rw [h.indexed.allocations, ← hxo, ← hxv]
  exact isSome_iff_exists.mp (lookup_isSome.mpr ⟨e, hes, rfl⟩)

theorem Sound.view_eq [LawfulBlockDevice D] : s.view = empty.commit ws := by
  rw [h.indexed.view_eq, commit_eq h.reads]
  simp [empty]

end

/-- New allocations `es'` that hold the writes `ws'`, in blocks that were free in `s` and are not in `s'`. -/
structure Fresh (s s' : BlockStorage D) (ws' : List PendingWrite) (es' : List AllocationEntry) : Prop where
  inside : ∀ e ∈ es', e.extent ⊆ s.freeBlocks
  taken : ∀ e ∈ es', Disjoint e.extent s'.freeBlocks
  disjoint : es'.Pairwise fun e e' => Disjoint e.extent e'.extent
  holds : List.Forall₂ (Holds (contents s'.device)) ws' es'
  nonempty : ∀ w ∈ ws', w.data ≠ []

omit [DiskFormat] in
theorem Fresh.nil : Fresh s s' [] [] := ⟨by simp, by simp, .nil, .nil, by simp⟩

theorem Sound.extend {ws' es'} (h : s.Sound ws es) (hg : s'.Geometry)
    (hsb : ∃ q, s'.superblock = { s.superblock with commitSequence := q })
    (hfree : UpperPart s'.freeBlocks s.freeBlocks)
    (hc : ∀ i, s.superblock.dataStart ≤ i → i ∉ s.freeBlocks → contents s'.device i = contents s.device i)
    (hi : s'.Indexed (es ++ es')) (hnew : Fresh s s' ws' es') : s'.Sound (ws ++ ws') (es ++ es') := by
  obtain ⟨q, hsb⟩ := hsb
  obtain ⟨m, hm, hIco⟩ := h.final
  obtain ⟨m', hm', hIco'⟩ := UpperPart.eq_Ico (hIco ▸ hfree)
  have hkept : List.Forall₂ (Holds (contents s'.device)) ws es :=
    forall₂_imp_of_mem h.holds fun w _ e he hw => hw.congr fun i hi =>
      hc i (mem_Ico.mp (h.inside e he hi)).1 (disjoint_left.mp (h.taken e he) hi)
  exact
    { geometry := hg
      final := ⟨m', by rw [hsb]; exact Nat.le_trans hm hm', by rw [hsb]; exact hIco'⟩
      indexed := hi
      inside := by
        intro e he
        rw [hsb]
        rcases List.mem_append.mp he with he | he
        · exact h.inside e he
        · exact (hnew.inside e he).trans h.geometry.free
      taken := by
        intro e he
        rcases List.mem_append.mp he with he | he
        · exact disjoint_of_subset_right hfree.subset (h.taken e he)
        · exact hnew.taken e he
      disjoint := List.pairwise_append.mpr ⟨h.disjoint, hnew.disjoint, fun e he e' he' =>
        disjoint_of_subset_right (hnew.inside e' he') (h.taken e he)⟩
      holds := List.rel_append hkept hnew.holds
      nonempty := List.forall_mem_append.mpr ⟨h.nonempty, hnew.nonempty⟩ }

variable {tx : Transaction} {r : Except (Fault TransactionError) Transaction}
  {ws' : List PendingWrite} {es' : List AllocationEntry} {c1 : Nat → Block}

theorem Storing.frame (h : Storing s tx ws' es' c1 s') {i} (hi : s.superblock.dataStart ≤ i)
    (hfree : i ∉ s.freeBlocks) : contents s'.device i = contents s.device i := by
  rw [h.appended.data i hi, h.data.frame i (.inl hfree)]

theorem Storing.exists_entry (h : Storing s tx ws' es' c1 s') (hi : s'.Indexed (es ++ es')) {x} (hx : x ∈ ws') :
    ∃ e ∈ es', e.versionId = x.versionId ∧ s'.allocations[(x.objectId, x.versionId)]? = some e := by
  obtain ⟨e1, he1, ho, hv, _⟩ := exists_of_forall₂_left h.data.entries hx
  obtain ⟨e, he⟩ : ∃ e, lookup es' (x.objectId, x.versionId) = some e :=
    isSome_iff_exists.mp (lookup_isSome.mpr ⟨e1, he1, by rw [key, ho, hv]⟩)
  obtain ⟨hmem, hkey⟩ := mem_of_lookup he
  refine ⟨e, hmem, (Prod.mk.inj hkey).2, ?_⟩
  rw [hi.allocations, lookup_append, he, some_or]

theorem Storing.fresh (h : Storing s tx ws' es' c1 s') (hg : s.Geometry) (hcons : Consecutive s.freeBlocks ws') :
    Fresh s s' ws' es' := by
  have hlaid : Laid (contents s'.device) s.freeBlocks ws' es' s'.freeBlocks :=
    (h.data.laid hcons).congr fun i hi => h.appended.data i (mem_Ico.mp (hg.free hi)).1
  exact ⟨hlaid.extent_subset, hlaid.extent_disjoint, hlaid.pairwise, hlaid.holds, h.data.nonempty⟩

theorem Storing.sound (hs : Storing s tx ws' es' c1 s') (h : s.Sound ws es)
    (hgeo : s'.Geometry ∧ ∃ q, s'.superblock = { s.superblock with commitSequence := q })
    (hi : s'.Indexed (es ++ es')) : s'.Sound (ws ++ ws') (es ++ es') :=
  h.extend hgeo.1 hgeo.2 hs.data.free (fun _ hi hfree => hs.frame hi hfree) hi
    (hs.fresh h.geometry (h.consecutive ws'))

theorem Aborted.sound (ha : Aborted s tx s') (h : s.Sound ws es)
    (hgeo : s'.Geometry ∧ ∃ q, s'.superblock = { s.superblock with commitSequence := q }) : s'.Sound ws es := by
  have hk := h.extend hgeo.1 hgeo.2 ha.free (fun i _ hi => ha.frame i (.inl hi))
    (by simpa using h.indexed.congr ha.allocations ha.latestVersions) Fresh.nil
  simpa using hk

theorem Sound.commit (h : s.Sound ws es) (he : CommitEffect s tx r s') :
    ∃ es', s'.Sound (match r with | .ok _ => ws ++ s.pending[tx.id]?.getD [] | .error _ => ws) es' := by
  obtain ⟨hg, hsb⟩ := he.geometry h.geometry
  cases he with
  | refused _ => exact ⟨es, h⟩
  | empty _ hp => exact ⟨es, by simpa [hp] using h⟩
  | aborted _ _ hr ha =>
    cases r with
    | ok t => exact absurd rfl (hr t)
    | error e => exact ⟨es, ha.sound h ⟨hg, hsb⟩⟩
  | recorded _ _ hr hs ha hl _ =>
    have hk := h.extend hg hsb hs.data.free (fun i hi hfree => hs.frame hi hfree)
      (by simpa using h.indexed.congr ha hl) Fresh.nil
    cases r with
    | ok t => exact absurd rfl (hr t)
    | error e => exact ⟨es, by simpa using hk⟩
  | @committed ws' es' c1 _ _ hp hs hi _ =>
    refine ⟨es ++ es', ?_⟩
    rw [hp]
    exact hs.sound h ⟨hg, hsb⟩ (hi es h.indexed)

end

/-! ## Other parts of the state -/

variable [DiskFormat] {s : BlockStorage D}

theorem Geometry.withPending (h : s.Geometry) (p) : ({ s with pending := p } : BlockStorage D).Geometry :=
  { h with }

theorem Sound.withPending {ws es} (h : s.Sound ws es) (p) : ({ s with pending := p } : BlockStorage D).Sound ws es :=
  ⟨h.geometry.withPending p, h.final, h.indexed.congr rfl rfl, h.inside, h.taken, h.disjoint, h.holds, h.nonempty⟩

theorem Geometry.withDevice (h : s.Geometry) {d} (hn : blockCount d = blockCount s.device)
    (hc : contents d = contents s.device) : ({ s with device := d } : BlockStorage D).Geometry :=
  ⟨hn ▸ h.fits, h.free, hc ▸ h.disk⟩

theorem Sound.withDevice {ws es} (h : s.Sound ws es) {d} (hn : blockCount d = blockCount s.device)
    (hc : contents d = contents s.device) : ({ s with device := d } : BlockStorage D).Sound ws es :=
  ⟨h.geometry.withDevice hn hc, h.final, h.indexed.congr rfl rfl, h.inside, h.taken, h.disjoint, hc ▸ h.holds,
    h.nonempty⟩

end BlockStorage

end PandaGen.Storage
