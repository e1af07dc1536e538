import PandaGen.Storage.Lemmas.Log

/-!
# What a session leaves for the next one

The records of a session among those that were in the log before it.
-/

namespace PandaGen.Storage

open Hal Lib BlockStorage Ledger Option List Function PendingWrite SeqLog

/-! ## Versions drawn once -/

structure Ledger.Distinct (l : Ledger) : Prop where
  commits : (l.commits.flatten.map PendingWrite.versionId).Nodup
  pending : ∀ t, ((l.pending t).map PendingWrite.versionId).Nodup
  apart : ∀ t, ∀ x ∈ l.pending t, ∀ y ∈ l.commits.flatten, x.versionId ≠ y.versionId
  others : ∀ t t', t ≠ t' → ∀ x ∈ l.pending t, ∀ y ∈ l.pending t', x.versionId ≠ y.versionId

namespace Ledger.Distinct

variable {l : Ledger} {id : TransactionId}

theorem empty : Ledger.empty.Distinct :=
  ⟨.nil, fun _ => .nil, fun _ _ hx => absurd hx not_mem_nil, fun _ _ _ _ hx => absurd hx not_mem_nil⟩

theorem mem_drop {t x} (hx : x ∈ (l.drop id).pending t) : x ∈ l.pending t ∧ t ≠ id := by
  simp only [Ledger.drop, update_apply] at hx
  split at hx
  · exact absurd hx not_mem_nil
  · rename_i hne
    exact ⟨hx, hne⟩

theorem drop (h : l.Distinct) : (l.drop id).Distinct where
  commits := h.commits
  pending t := by
    simp only [Ledger.drop, update_apply]
    split
    · exact .nil
    · exact h.pending t
  apart t x hx := h.apart t x (mem_drop hx).1
  others t t' hne x hx y hy := h.others t t' hne x (mem_drop hx).1 y (mem_drop hy).1

theorem write (h : l.Distinct) {x} (hc : ∀ y ∈ l.commits.flatten, x.versionId ≠ y.versionId)
    (hp : ∀ t, ∀ y ∈ l.pending t, x.versionId ≠ y.versionId) :
    ({ l with pending := update l.pending id (l.pending id ++ [x]) } : Ledger).Distinct := by
  have hmem : ∀ t, ∀ y ∈ update l.pending id (l.pending id ++ [x]) t, y ∈ l.pending t ∨ (y = x ∧ t = id) := by
    intro t y hy
    rw [update_apply] at hy
    split at hy
    · rename_i heq
      subst heq
      rcases mem_append.mp hy with hy | hy
      · exact .inl hy
      · exact .inr ⟨mem_singleton.mp hy, rfl⟩
    · exact .inl hy
  refine ⟨h.commits, fun t => ?_, fun t y hy z hz => ?_, fun t t' hne y hy z hz => ?_⟩
  · simp only [update_apply]
    split
    · rw [map_append]
      refine nodup_append.mpr ⟨h.pending id, by simp, ?_⟩
      intro a ha b hb
      obtain ⟨y, hy, rfl⟩ := mem_map.mp ha
      simp only [map_cons, map_nil, mem_singleton] at hb
      rw [hb]
      exact (hp id y hy).symm
    · exact h.pending t
  · rcases hmem t y hy with hy | ⟨rfl, _⟩
    · exact h.apart t y hy z hz
    · exact hc z hz
  · rcases hmem t y hy with hy | ⟨hyx, ht⟩
    · rcases hmem t' z hz with hz | ⟨hzx, _⟩
      · exact h.others t t' hne y hy z hz
      · rw [hzx]
        exact (hp t y hy).symm
    · rcases hmem t' z hz with hz | ⟨_, ht'⟩
      · rw [hyx]
        exact hp t' z hz
      · exact absurd (ht.trans ht'.symm) hne

theorem record_drop (h : l.Distinct) : ((l.record id).drop id).Distinct := by
  refine ⟨?_, h.drop.pending, fun t x hx y hy => ?_, h.drop.others⟩
  · show ((l.record id).commits.flatten.map _).Nodup
    rw [Ledger.flatten_record, map_append]
    refine nodup_append.mpr ⟨h.commits, h.pending id, ?_⟩
    intro a ha b hb
    obtain ⟨y, hy, rfl⟩ := mem_map.mp ha
    obtain ⟨x, hx, rfl⟩ := mem_map.mp hb
    exact (h.apart id x hx y hy).symm
  · have hy : y ∈ (l.record id).commits.flatten := hy
    rw [Ledger.flatten_record] at hy
    rcases mem_append.mp hy with hy | hy
    · exact h.apart t x (mem_drop hx).1 y hy
    · exact h.others t id (mem_drop hx).2 x (mem_drop hx).1 y hy

end Ledger.Distinct

namespace Session

variable {D : Type} [BlockDevice D] [DiskFormat]
  {w w' : Session (BlockStorage D)} {op : Op} {o : Response} {l : Ledger} {tr : Trace}

theorem Effect.distinct (he : Effect w op o w') (hr : w.Refines l) (hack : Acknowledged l tr)
    (hn : (drawn (tr ++ [(op, o)])).Nodup) (h : l.Distinct) : (l.apply (op, o)).Distinct := by
  cases he with
  | began => exact { h with }
  | @wrote i tx objectId v data htx hactive =>
    rw [hr.apply_eq htx (.inl ⟨_, _, _, rfl⟩), if_pos hactive]
    have hv : v ∉ drawn tr := by
      have hdrawn : drawn (tr ++ [(.write i objectId v data, .ok (some v))]) = drawn tr ++ [v] := by
        simp [drawn, drawnBy]
      rw [hdrawn] at hn
      exact fun hmem => (nodup_append.mp hn).2.2 v hmem v (by simp) rfl
    refine h.write (fun y hy heq => hv ?_) (fun t y hy heq => hv ?_)
    · rw [show v = y.versionId from heq]
      exact (hack.commits y hy).mem_drawn
    · rw [show v = y.versionId from heq]
      exact (hack.pending t y hy).mem_drawn
  | writeRefused htx hfin => rwa [hr.apply_eq htx (.inl ⟨_, _, _, rfl⟩), if_neg hfin]
  | @committed i tx s' htx hc =>
    rw [hr.apply_eq htx (.inr (.inl rfl)), if_pos hc.active]
    have := @Ledger.Distinct.record_drop l tx.id h
    exact ⟨this.commits, this.pending, this.apart, this.others⟩
  | commitFailed htx hc =>
    rw [hr.apply_eq htx (.inr (.inl rfl))]
    split
    · exact h.drop
    · exact h
  | @rolledBack i tx htx hactive =>
    rw [hr.apply_eq htx (.inr (.inr rfl)), if_pos hactive]
    have := @Ledger.Distinct.drop l tx.id h
    exact ⟨this.commits, this.pending, this.apart, this.others⟩
  | rollbackRefused htx hfin => rwa [hr.apply_eq htx (.inr (.inr rfl)), if_neg hfin]
  | reopened =>
    exact ⟨h.commits, fun _ => .nil, fun _ _ hx => absurd hx not_mem_nil, fun _ _ _ _ hx => absurd hx not_mem_nil⟩

variable [LawfulBlockDevice D] [LawfulDiskFormat]
  {s0 : BlockStorage D} {G : Session (BlockStorage D) → Op → Response → Prop}

theorem run_distinct (hg : s0.Geometry) (hp : s0.pending = ∅) (hrun : (machine D).Run G (Session.start s0) tr w)
    (hn : (drawn tr).Nodup) : (Ledger.of tr).Distinct := by
  refine hrun.invariantReached (P := fun tr _ => (drawn tr).Nodup → (Ledger.of tr).Distinct)
    (fun tr w op o w' hrun hd hs _ hn => ?_) (fun _ => .empty) hn
  have ht := run_tracks hg hp hrun
  have hsub : (drawn tr).Nodup := by
    rw [drawn_append] at hn
    exact (nodup_append.mp hn).1
  rw [Ledger.of_concat]
  exact (step_effect hs ht.geometry).distinct ht.refines ht.acknowledged hn (hd hsub)

end Session

variable {es : List AllocationEntry} {e : AllocationEntry} {old : List (Option CommitRecord)}

/-! ## The index of several records -/

theorem latestIn_append (es es' o) : latestIn (es ++ es') o = (latestIn es' o).or (latestIn es o) := by
  induction es with
  | nil => simp [latestIn]
  | cons e es ih => rw [cons_append, latestIn_cons, ih, latestIn_cons, Option.or_assoc]

theorem exists_of_latestIn {o v} (h : latestIn es o = some v) : ∃ e ∈ es, e.objectId = o ∧ e.versionId = v := by
  obtain ⟨e, he, rfl⟩ := map_eq_some_iff.mp h
  refine ⟨e, mem_reverse.mp (mem_of_find?_eq_some he), ?_, rfl⟩
  simpa using find?_some he

theorem latestIn_isSome (h : e ∈ es) : (latestIn es e.objectId).isSome := by
  rw [latestIn, isSome_map, find?_isSome]
  exact ⟨e, mem_reverse.mpr h, by simp⟩

/-- A log whose old records do no harm after `k` commits: slot 0 holds none that hides the first commit,
and the ones that are accepted after the `k` new records allocate nothing. -/
structure CleanLog (old : List (Option CommitRecord)) (k : Nat) : Prop where
  first : 0 < k → ∀ r, old.head? = some (some r) → r.sequence = 0
  later : ∀ r, SeqLog.Revealed CommitRecord.sequence old k r → r.allocations = []

def FreshVersions (old : List (Option CommitRecord)) (vs : List VersionId) : Prop :=
  ∀ r, some r ∈ old → ∀ e ∈ r.allocations, e.versionId ∉ vs

theorem CleanLog.of_blank (h : ∀ r, some r ∉ old) (k) : CleanLog old k where
  first _ r hr := absurd (mem_of_mem_head? hr) (h r)
  later r hr := absurd hr.mem (h r)

theorem FreshVersions.of_blank (h : ∀ r, some r ∉ old) (vs) : FreshVersions old vs := fun r hr => absurd hr (h r)

namespace BlockStorage

variable {r : CommitRecord}

variable [DiskFormat] {n : Nat} {c c0 : Nat → Block} {q0 : Nat}
  {wss : List (List PendingWrite)} {rs : List CommitRecord}

theorem length_slots (n c) : (slots n c).length = n := by
  simp [slots]

section

variable (h : LogOf n c c0 q0 wss rs)
include h

theorem LogOf.mem_slots (hr : some r ∈ slots n c) : some r ∈ slots n c0 ∨ r ∈ rs := by
  rw [h.log] at hr
  obtain ⟨i, hi⟩ := mem_iff_getElem?.mp hr
  rcases mem_foldl_store hi with hi | ⟨r', hr', heq, _⟩
  · exact .inl (mem_of_getElem? hi)
  · obtain rfl := some.inj heq
    exact .inr hr'

omit h in
theorem LogOf.accepted_eq (h : LogOf n c c0 0 wss rs) (hlt : rs.length < n)
    (hfirst : 0 < rs.length → ∀ r, (slots n c0).head? = some (some r) → r.sequence = 0) :
    ∃ rest, accepted n c = rs ++ rest ∧ ∀ r, r ∈ rest ↔
        SeqLog.Revealed CommitRecord.sequence (slots n c0) rs.length r := by
  rw [accepted, h.log]
  exact scan_foldl_store (length_slots _ _) hlt (by simpa using h.seqs) hfirst

omit h in
theorem LogOf.entriesOf_accepted (h : LogOf n c c0 0 wss rs) (hlt : rs.length < n)
    (hclean : CleanLog (slots n c0) rs.length) : entriesOf (accepted n c) = entriesOf rs := by
  obtain ⟨rest, hacc, hrest⟩ := h.accepted_eq hlt hclean.first
  have hnil : entriesOf rest = [] := by
    rw [entriesOf, flatMap_eq_nil_iff]
    exact fun r hr => hclean.later r ((hrest r).mp hr)
  rw [hacc, entriesOf_append, hnil, append_nil]

omit h in
theorem LogOf.accepted_single (h : LogOf n c c0 0 wss rs) (hn : n = 1) (hlen : rs.length = 1) : accepted n c = rs := by
  obtain ⟨r, rfl⟩ := length_eq_one_iff.mp hlen
  have hseq : r.sequence = 1 := by simpa using h.seqs
  rw [accepted, h.log, hn]
  obtain ⟨o, ho⟩ := length_eq_one_iff.mp (length_slots 1 c0)
  rw [ho]
  simp [store, scan, hseq]

/-! ## What is lost -/

theorem LogOf.versions : (entriesOf rs).map AllocationEntry.versionId = wss.flatten.map versionId := by
  rw [← forall₂_eq_eq_eq, forall₂_map_left_iff, forall₂_map_right_iff]
  exact (rel_flatten (forall₂_map_right_iff.mpr h.entries)).flip.imp fun _ _ he => he.2.1

theorem LogOf.exists_write (he : e ∈ entriesOf rs) : ∃ x ∈ wss.flatten, x.versionId = e.versionId := by
  have hmem : e.versionId ∈ (entriesOf rs).map AllocationEntry.versionId := mem_map_of_mem he
  rw [h.versions] at hmem
  exact mem_map.mp hmem

theorem LogOf.freshVersions {vs} (hold : FreshVersions (slots n c0) vs)
    (hnew : ∀ x ∈ wss.flatten, x.versionId ∉ vs) : FreshVersions (slots n c) vs := by
  intro r hr e he
  rcases h.mem_slots hr with hr | hr
  · exact hold r hr e he
  · obtain ⟨x, hx, hxv⟩ := h.exists_write (mem_flatMap.mpr ⟨r, hr, he⟩)
    exact hxv ▸ hnew x hx

theorem LogOf.eq_of_version (hn : (wss.flatten.map versionId).Nodup) {r'}
    (hr : r ∈ rs) (hr' : r' ∈ rs) {e'} (he : e ∈ r.allocations) (he' : e' ∈ r'.allocations)
    (heq : e.versionId = e'.versionId) : r = r' := by
  rw [← h.versions, entriesOf, map_flatMap, nodup_flatMap] at hn
  have hsymm : Std.Symm (Function.onFun Disjoint fun r : CommitRecord =>
      r.allocations.map AllocationEntry.versionId) := ⟨fun _ _ h => h.symm⟩
  by_contra hne
  refine hn.2.forall hr hr' hne (mem_map_of_mem he) ?_
  rw [heq]
  exact mem_map_of_mem he'

end

variable {D : Type} {s s' : BlockStorage D} {vs : List VersionId}

theorem LogOf.lost (h : LogOf n c c0 q0 wss rs) (hn : (wss.flatten.map versionId).Nodup)
    (hvs : ∀ x ∈ wss.flatten, x.versionId ∈ vs) (hfresh : FreshVersions (slots n c0) vs)
    (hi : s'.Indexed (entriesOf (accepted n c))) (hr : r ∈ rs) (hlost : r ∉ accepted n c)
    (he : e ∈ r.allocations) : s'.allocations[e.key]? = none := by
  rw [hi.allocations, ← not_isSome_iff_eq_none, lookup_isSome]
  rintro ⟨e', he', hkey⟩
  obtain ⟨r', hr', he'⟩ := mem_flatMap.mp he'
  have hv : e'.versionId = e.versionId := (Prod.mk.inj hkey).2
  have hdrawn : e.versionId ∈ vs := by
    obtain ⟨x, hx, hxv⟩ := h.exists_write (mem_flatMap.mpr ⟨r, hr, he⟩)
    exact hxv ▸ hvs x hx
  rcases h.mem_slots (mem_of_mem_scan hr').1 with hold | hmem
  · exact hfresh r' hold e' he' (hv ▸ hdrawn)
  · exact hlost (h.eq_of_version hn hr hmem he he' hv.symm ▸ hr')

variable [BlockDevice D] [LawfulBlockDevice D]

theorem Logged.accepted_of_keeps (h : s.Logged c0 q0 wss rs) (hs : s.Sound wss.flatten (entriesOf rs))
    (hn : (wss.flatten.map versionId).Nodup) (hvs : ∀ x ∈ wss.flatten, x.versionId ∈ vs)
    (hfresh : FreshVersions (slots s.superblock.commitLogBlocks c0) vs)
    (hre : Reopened s.device s.superblock s') (hk : s.view.Keeps s'.view) (hr : r ∈ rs) :
    r ∈ accepted s.superblock.commitLogBlocks (contents s.device) := by
  by_contra hlost
  obtain ⟨e, he⟩ := exists_mem_of_ne_nil _ (h.nonempty r hr)
  have hnone := h.lost hn hvs hfresh hre.indexed hr hlost he
  have hsome : (s.view.bytes e.key).isSome := by
    obtain ⟨e1, he1⟩ : ∃ e1, s.allocations[e.key]? = some e1 := by
      rw [hs.indexed.allocations]
      exact isSome_iff_exists.mp (lookup_isSome.mpr ⟨e, mem_flatMap.mpr ⟨r, hr, he⟩, rfl⟩)
    obtain ⟨x, _, _, _, hread⟩ := hs.exists_of_allocation he1
    simp [view, he1, hread]
  have := hk.2 e.key hsome
  rw [← this] at hsome
  simp [view, hnone] at hsome

omit [LawfulBlockDevice D] in
/-- If everything is found again, no record that was accepted after those of the session allocates. -/
theorem Logged.rest_of_keeps (h : s.Logged c0 q0 wss rs) (hs : s.Sound wss.flatten (entriesOf rs))
    (hvs : ∀ x ∈ wss.flatten, x.versionId ∈ vs) (hre : Reopened s.device s.superblock s') (hk : s.view.Keeps s'.view)
    {rest} (hacc : accepted s.superblock.commitLogBlocks (contents s.device) = rs ++ rest)
    (hfresh : ∀ r ∈ rest, ∀ e ∈ r.allocations, e.versionId ∉ vs) : ∀ r ∈ rest, r.allocations = [] := by
  intro r hr
  by_contra hne
  obtain ⟨e, he⟩ := exists_mem_of_ne_nil _ hne
  have hlatest : s'.view.latest e.objectId = s.view.latest e.objectId := by rw [hk.1]
  rw [hre.indexed.view_eq, hs.indexed.view_eq, hacc, entriesOf_append] at hlatest
  simp only [latestIn_append] at hlatest
  have hmem : e ∈ entriesOf rest := mem_flatMap.mpr ⟨r, hr, he⟩
  obtain ⟨v, hv⟩ := isSome_iff_exists.mp (latestIn_isSome hmem)
  rw [hv, some_or] at hlatest
  -- the latest version is one of the rest, and it was drawn in the session
  obtain ⟨e1, he1, _, rfl⟩ := exists_of_latestIn hv
  obtain ⟨r1, hr1, he1⟩ := mem_flatMap.mp he1
  obtain ⟨e2, he2, _, hv2⟩ := exists_of_latestIn hlatest.symm
  obtain ⟨x, hx, hxv⟩ := h.exists_write he2
  exact hfresh r1 hr1 e1 he1 (by rw [← hv2, ← hxv]; exact hvs x hx)

theorem Reopened.view_eq (hre : Reopened s.device s.superblock s') (hi : s.Indexed (entriesOf rs))
    (hacc : entriesOf (accepted s.superblock.commitLogBlocks (contents s.device)) = entriesOf rs) : s'.view = s.view :=
  hi.view_congr (hacc ▸ hre.indexed) hre.count hre.held

omit [LawfulBlockDevice D] in
theorem Logged.entriesOf_accepted_of (h : s.Logged c0 0 wss rs)
    (hcond : (rs.length < s.superblock.commitLogBlocks ∧
        CleanLog (slots s.superblock.commitLogBlocks c0) rs.length) ∨
      (s.superblock.commitLogBlocks = 1 ∧ rs.length = 1)) :
    entriesOf (accepted s.superblock.commitLogBlocks (contents s.device)) = entriesOf rs := by
  rcases hcond with ⟨hlt, hclean⟩ | ⟨hn1, hlen1⟩
  · exact h.entriesOf_accepted hlt hclean
  · rw [h.accepted_single hn1 hlen1]

theorem Logged.keeps_iff (h : s.Logged c0 0 wss rs) (hs : s.Sound wss.flatten (entriesOf rs))
    (hn : (wss.flatten.map versionId).Nodup) (hvs : ∀ x ∈ wss.flatten, x.versionId ∈ vs)
    (hfresh : FreshVersions (slots s.superblock.commitLogBlocks c0) vs)
    (hre : Reopened s.device s.superblock s') : s.view.Keeps s'.view ↔
      (rs.length < s.superblock.commitLogBlocks ∧ CleanLog (slots s.superblock.commitLogBlocks c0) rs.length) ∨
        (s.superblock.commitLogBlocks = 1 ∧ rs.length = 1) := by
  have hseqs : rs.map CommitRecord.sequence = range' 1 rs.length := by simpa using h.seqs
  have hlen := length_slots s.superblock.commitLogBlocks c0
  have hpos := hs.geometry.fits.commitLogBlocks_pos
  constructor
  · intro hk
    have haccepted := fun r hr => h.accepted_of_keeps hs hn hvs hfresh hre hk (r := r) hr
    rcases Nat.lt_or_ge rs.length s.superblock.commitLogBlocks with hlt | hge
    · -- no wrap: the old log has to be clean
      have hfirst : 0 < rs.length → ∀ r, (slots s.superblock.commitLogBlocks c0).head? = some (some r) →
          r.sequence = 0 := by
        intro hrs r0 hhead
        by_contra hseq
        cases rs with
        | nil => cases hrs
        | cons r1 rs =>
          have hr1 := haccepted r1 (by simp)
          rw [accepted, h.log] at hr1
          obtain rfl := eq_of_mem_scan_of_head hlen hlt hseqs hhead (Nat.pos_of_ne_zero hseq) hr1
          obtain ⟨e, he⟩ := exists_mem_of_ne_nil _ (h.nonempty r1 (by simp))
          obtain ⟨x, hx, hxv⟩ := h.exists_write (mem_flatMap.mpr ⟨r1, by simp, he⟩)
          exact hfresh r1 (mem_of_mem_head? hhead) e he (hxv ▸ hvs x hx)
      obtain ⟨rest, hacc, hrest⟩ := h.accepted_eq hlt hfirst
      refine .inl ⟨hlt, hfirst, fun r hr => ?_⟩
      exact h.rest_of_keeps hs hvs hre hk hacc (fun r hr => hfresh r ((hrest r).mp hr).mem) r ((hrest r).mpr hr)
    · -- after a wrap the first record is lost
      by_contra hne
      have h2 : 2 ≤ rs.length := by omega
      cases rs with
      | nil => simp at h2
      | cons r1 rs =>
        have hr1 := haccepted r1 (by simp)
        rw [accepted, h.log] at hr1
        have hseq : r1.sequence = 1 := by simpa [range'_succ] using congrArg head? hseqs
        exact not_mem_scan_of_wrap hpos hlen hseqs hge h2 hseq hr1
  · intro hcond
    rw [hre.view_eq hs.indexed (h.entriesOf_accepted_of hcond)]
    exact ⟨rfl, fun _ _ => rfl⟩

end BlockStorage

namespace Session

variable {D : Type} [BlockDevice D] [DiskFormat] [LawfulBlockDevice D] [LawfulDiskFormat]
  {d : D} {s0 : BlockStorage D} {tr : Trace} {w : Session (BlockStorage D)}

theorem run_reopened (hf : format d = .ok s0) (hrun : (machine D).Run Successful (Session.start s0) tr w) :
    w.storage.superblock.commitLogBlocks = s0.superblock.commitLogBlocks ∧ w.storage.view = (of tr).view ∧
      ∃ s rs, Reopened w.storage.device w.storage.superblock s ∧
        (∀ s', openDevice w.storage.device = .ok s' ↔ (∀ e ∈ entriesOf (accepted w.storage.superblock.commitLogBlocks
          (contents w.storage.device)), e.InRange) ∧ s = s') ∧
        w.storage.Logged (contents s0.device) 0 (of tr).commits rs ∧
        w.storage.Sound (of tr).commits.flatten (entriesOf rs) ∧
        rs.length = (of tr).commits.length := by
  obtain ⟨ht, rs, hl, hsound⟩ := run_logged_of_format hf hrun
  obtain ⟨q, hq⟩ := ht.layout
  obtain ⟨s, hre, hopen⟩ := openDevice_reopened hl.disk ht.geometry.fits
  exact ⟨by rw [hq], hsound.view_eq, s, rs, hre, hopen, hl, hsound, hl.entries.length_eq.symm⟩

end Session

end PandaGen.Storage
