import PandaGen.Storage.Json
import PandaGen.Storage.Lemmas.Reopen

/-!
# Reading back what was written
-/

namespace PandaGen.Storage

open Hal Lib BlockStorage Session Ledger Option List Nat

/-! ## Writes that wait for their commit -/

/-- No commit of the transaction `i` failed after a write to it, nor was the device opened again. -/
def Unbroken (tr : Trace) (i : Nat) : Prop :=
  ∀ pre post (x : PendingWrite),
    tr = pre ++ (Op.write i x.objectId x.versionId x.data, .ok (some x.versionId)) :: post →
    ∀ ev ∈ post, ev.1 ≠ .recover ∧ ∀ e, ev ≠ (.commit i, .error e)

section

variable {tr : Trace} {i : Nat} {x : PendingWrite} {ev : Op × Response}

theorem Unbroken.of_concat (h : Unbroken (tr ++ [ev]) i) : Unbroken tr i := by
  rintro pre post x rfl ev' hev'
  exact h pre (post ++ [ev]) x (by simp) ev' (mem_append_left _ hev')

theorem Unbroken.last (h : Unbroken (tr ++ [ev]) i) (hx : WrittenBy tr i x) :
    ev.1 ≠ .recover ∧ ∀ e, ev ≠ (.commit i, .error e) := by
  obtain ⟨pre, post, rfl⟩ := append_of_mem hx
  exact h pre (post ++ [ev]) x (by simp) ev (mem_append_right _ (mem_singleton.mpr rfl))

end

namespace Ledger

variable {l : Ledger} {i j : Nat} {id id' : TransactionId}

def ids (l : Ledger) : List TransactionId := l.txs.map Prod.fst

theorem getElem?_of_active (h : l.active i = some id) : l.txs[i]? = some (id, true) := by
  rw [active, bind_eq_some_iff] at h
  obtain ⟨⟨id', a⟩, htx, ha⟩ := h
  cases a with
  | false => cases ha
  | true =>
    obtain rfl := some.inj ha
    exact htx

theorem eq_of_active (hids : l.ids.Nodup) (hi : l.active i = some id) (hj : l.active j = some id) : i = j := by
  have hi := getElem?_of_active hi
  have hj := getElem?_of_active hj
  have hlt : i < l.ids.length := by
    rw [ids, List.length_map]
    exact (List.getElem?_eq_some_iff.mp hi).1
  refine (List.getElem?_inj hlt hids).mp ?_
  rw [ids, List.getElem?_map, List.getElem?_map, hi, hj]

theorem ids_apply (l : Ledger) (ev) : (l.apply ev).ids = l.ids ++ (begunBy ev).toList := by
  have hactive : ∀ {i id}, l.active i = some id → (l.finish i id).ids = l.ids := by
    intro i id h
    have htx := getElem?_of_active h
    have hid : l.ids[i]? = some id := by rw [ids, List.getElem?_map, htx]; rfl
    obtain ⟨_, hget⟩ := List.getElem?_eq_some_iff.mp hid
    show (l.txs.set i (id, false)).map Prod.fst = l.ids
    rw [List.map_set]
    rw [← hget]
    exact List.set_getElem_self _
  rcases ev with ⟨op, o⟩
  cases op with
  | begin id => simp [apply, ids, begunBy]
  | write i a v data =>
    cases h : l.active i with
    | none => simp [apply, h, begunBy]
    | some id => simp [apply, h, begunBy, applyActive, ids]
  | commit i =>
    cases h : l.active i with
    | none => simp [apply, h, begunBy]
    | some id =>
      cases o with
      | error e => simp [apply, h, begunBy, applyActive, drop, ids]
      | ok v =>
        simp only [apply, h, begunBy, elim_some, applyActive, toList_none, List.append_nil]
        exact hactive h
  | rollback i =>
    cases h : l.active i with
    | none => simp [apply, h, begunBy]
    | some id => simpa [apply, h, begunBy, applyActive] using hactive h
  | recover => simp [apply, begunBy, ids]

theorem ids_of (tr) : (of tr).ids = begun tr := by
  induction tr using reverseRecOn with
  | nil => rfl
  | append_singleton tr ev ih =>
    rw [of_concat, ids_apply, ih, begun, begun, filterMap_append]
    cases h : begunBy ev <;> simp [h]

/-- The writes acknowledged to a transaction that was not broken are pending while it is active. -/
structure Holding (l : Ledger) (tr : Trace) : Prop where
  begun : ∀ i x, WrittenBy tr i x → i < l.txs.length
  pending : ∀ i x id, WrittenBy tr i x → Unbroken tr i → l.active i = some id → x ∈ l.pending id

theorem active_finish_of_ne (hij : i ≠ j) : (l.finish j id').active i = l.active i := by
  rw [active, finish, getElem?_set_ne (Ne.symm hij)]
  rfl

theorem active_finish_self : (l.finish i id').active i = none := by
  simp only [active, finish, getElem?_set_self']
  cases l.txs[i]? <;> rfl

theorem pending_drop_of_ne (hne : id ≠ id') : (l.drop id').pending id = l.pending id :=
  Function.update_of_ne hne _ _

theorem Holding.other {l' : Ledger} {tr ev} (h : l.Holding tr)
    (hev : ∀ i o v data v', ev ≠ (.write i o v data, .ok v')) (hlen : l.txs.length ≤ l'.txs.length)
    (hpend : ∀ i x id, WrittenBy tr i x → Unbroken (tr ++ [ev]) i → l'.active i = some id →
      l.active i = some id ∧ l'.pending id = l.pending id) : l'.Holding (tr ++ [ev]) := by
  have hold : ∀ {i x}, WrittenBy (tr ++ [ev]) i x → WrittenBy tr i x := by
    intro i x hx
    rcases writtenBy_concat.mp hx with hx | hx
    · exact hx
    · exact absurd hx (hev _ _ _ _ _)
  refine ⟨fun i x hx => lt_of_lt_of_le (h.begun i x (hold hx)) hlen, fun i x id hx hu ha => ?_⟩
  obtain ⟨ha', hp⟩ := hpend i x id (hold hx) hu ha
  rw [hp]
  exact h.pending i x id (hold hx) hu.of_concat ha'

theorem Holding.finish {tr ev} (h : l.Holding tr) (hids : l.ids.Nodup)
    (hev : ∀ i o v data v', ev ≠ (.write i o v data, .ok v')) (hj : l.active j = some id') :
    (l.finish j id').Holding (tr ++ [ev]) := by
  refine h.other hev (by simp [Ledger.finish]) fun i x id _ _ ha => ?_
  by_cases hij : i = j
  · subst hij
    rw [active_finish_self] at ha
    cases ha
  · rw [active_finish_of_ne hij] at ha
    refine ⟨ha, pending_drop_of_ne ?_⟩
    rintro rfl
    exact hij (eq_of_active hids ha hj)

end Ledger

namespace Session

variable {D : Type} [BlockDevice D] [DiskFormat]
  {w w' : Session (BlockStorage D)} {op : Op} {o : Response} {l : Ledger} {tr : Trace}

theorem Effect.holding (he : Effect w op o w') (hr : w.Refines l) (hids : l.ids.Nodup) (h : l.Holding tr) :
    (l.apply (op, o)).Holding (tr ++ [(op, o)]) := by
  cases he with
  | began =>
    refine h.other (by simp) (by simp [apply]) fun i x id hx _ ha => ⟨?_, rfl⟩
    rw [active, apply, List.getElem?_append_left (h.begun i x hx)] at ha
    exact ha
  | @wrote i tx a v data htx hactive =>
    have ha := hr.active_of htx hactive
    rw [hr.apply_eq htx (.inl ⟨_, _, _, rfl⟩), if_pos hactive]
    have hlt : i < l.txs.length := (List.getElem?_eq_some_iff.mp (getElem?_of_active ha)).1
    refine ⟨fun j x hx => ?_, fun j x id hx hu hj => ?_⟩
    · rcases writtenBy_concat.mp hx with hx | hx
      · exact h.begun j x hx
      · cases hx
        exact hlt
    · have hj : l.active j = some id := hj
      simp only [applyActive, Function.update_apply]
      rcases writtenBy_concat.mp hx with hx | hx
      · have hmem := h.pending j x id hx hu.of_concat hj
        split
        · rename_i heq
          rw [← heq]
          exact List.mem_append_left _ hmem
        · exact hmem
      · cases hx
        obtain rfl := some.inj (hj.symm.trans ha)
        rw [if_pos rfl]
        exact List.mem_append_right _ (List.mem_singleton.mpr rfl)
  | writeRefused htx hfin =>
    rw [hr.apply_eq htx (.inl ⟨_, _, _, rfl⟩), if_neg hfin]
    exact h.other (by simp) (le_refl _) fun i x id _ _ ha => ⟨ha, rfl⟩
  | @committed i tx s' htx hc =>
    have ha := hr.active_of htx hc.active
    rw [hr.apply_eq htx (.inr (.inl rfl)), if_pos hc.active]
    have hrec : (l.record tx.id).Holding tr := ⟨h.begun, h.pending⟩
    exact hrec.finish hids (by simp) ha
  | @commitFailed i tx e s' htx hc =>
    rw [hr.apply_eq htx (.inr (.inl rfl))]
    split
    · rename_i hactive
      have ha := hr.active_of htx hactive
      refine h.other (by simp) (le_refl _) fun j x id hx hu hj => ⟨hj, pending_drop_of_ne ?_⟩
      rintro rfl
      obtain rfl := eq_of_active hids hj ha
      exact (hu.last hx).2 e rfl
    · exact h.other (by simp) (le_refl _) fun j x id _ _ ha => ⟨ha, rfl⟩
  | rolledBack htx hactive =>
    have ha := hr.active_of htx hactive
    rw [hr.apply_eq htx (.inr (.inr rfl)), if_pos hactive]
    exact h.finish hids (by simp) ha
  | rollbackRefused htx hfin =>
    rw [hr.apply_eq htx (.inr (.inr rfl)), if_neg hfin]
    exact h.other (by simp) (le_refl _) fun i x id _ _ ha => ⟨ha, rfl⟩
  | reopened => exact h.other (by simp) (le_refl _) fun i x id hx hu _ => absurd rfl (hu.last hx).1

variable [LawfulBlockDevice D] [LawfulDiskFormat]
  {s₀ : BlockStorage D} {G : Session (BlockStorage D) → Op → Response → Prop}

theorem run_holding (hg : s₀.Geometry) (hp : s₀.pending = ∅) (hrun : (machine D).Run G (Session.start s₀) tr w)
    (hids : (begun tr).Nodup) : (of tr).Holding tr := by
  refine hrun.invariantReached (P := fun tr _ => (begun tr).Nodup → (of tr).Holding tr)
    (fun tr w op o w' hrun hh hs _ hn => ?_)
    (fun _ => ⟨fun i x hx => absurd hx not_mem_nil, fun i x id hx _ _ => absurd hx not_mem_nil⟩) hids
  have ht := run_tracks hg hp hrun
  have hsub : (begun tr).Nodup := by
    rw [begun, filterMap_append] at hn
    exact (nodup_append.mp hn).1
  rw [of_concat]
  exact (step_effect hs ht.geometry).holding ht.refines (by rw [ids_of]; exact hsub) (hh hsub)

end Session

section

variable {D : Type} [BlockDevice D] [DiskFormat] [LawfulBlockDevice D] [LawfulDiskFormat]
  {d : D} {s₀ : BlockStorage D} {tr : Trace} {w : Session (BlockStorage D)}

/-- In a run of orderly calls, with commits that fail and with the device opened any number of times,
every version of the allocation map is read as it was written. -/
theorem reopened_reads_written (hf : format d = .ok s₀)
    (hlog : entriesOf (accepted s₀.superblock.commitLogBlocks (contents d)) = [])
    (hrun : (machine D).Run Orderly (start s₀) tr w) (huniq : (drawn tr).Nodup)
    {o : ObjectId} {v : VersionId} {e : AllocationEntry} (he : w.storage.allocations[(o, v)]? = some e) :
    ∃ data, Written tr ⟨o, v, data⟩ ∧ ((readObjectData o v).exec w.storage).1 = .ok data := by
  obtain ⟨ht, hrec⟩ := run_recoverable hf hlog hrun
  obtain ⟨es, hi, hes⟩ := hrec.index
  rw [hi.allocations] at he
  obtain ⟨hmem, hkey⟩ := mem_of_lookup he
  obtain ⟨_, x, hx, ⟨hxo, hxv, _⟩, hread⟩ := (hes e hmem).reads ht.geometry
  obtain ⟨rfl, rfl⟩ := Prod.mk.inj hkey
  refine ⟨x.data, by rw [hxo, hxv]; exact hx, ?_⟩
  rw [← hi.allocations, hxo, hxv] at he
  rw [hxo, hxv]
  exact ht.read_committed huniq hx he hread

/-- Whatever fails and however often the device is opened, the transactions and the pending writes are those of the
ledger, a pending write can be read, and superblock and free blocks stay in place. -/
theorem session_refines_ledger (hf : format d = .ok s₀)
    (hrun : (machine D).FreeRun (start s₀) tr w) (huniq : (drawn tr).Nodup) :
    w.txs.map (fun tx => (tx.id, decide (tx.state = .active))) = (Ledger.of tr).txs ∧
    (∀ t : TransactionId, w.storage.pending[t]?.getD [] = (Ledger.of tr).pending t) ∧
    (∀ t, ∀ x ∈ (Ledger.of tr).pending t, Written tr x ∧
      ((readObjectData x.objectId x.versionId).exec w.storage).1 = .ok x.data) ∧
    (∃ q, w.storage.superblock = { s₀.superblock with commitSequence := q }) ∧
    w.storage.freeBlocks ⊆ Finset.Ico s₀.superblock.dataStart s₀.superblock.totalBlocks := by
  have hfmt := format_formatted hf
  have ht := run_tracks hfmt.geometry hfmt.pending hrun
  refine ⟨ht.refines.txs, ht.refines.pending, fun t x hx => ?_, ht.layout, ?_⟩
  · exact ⟨ht.acknowledged.pending t x hx, ht.read_pending huniq hx⟩
  · obtain ⟨q, hq⟩ := ht.layout
    simpa [hq] using ht.geometry.free

end

theorem reopened_reads_written_two_sessions : ∃ s₀ tr w, format (RamDisk.new 60 (by decide)) = .ok s₀ ∧
    (machine RamDisk).Run Orderly (start s₀) tr w ∧ drawn tr = [⟨1⟩, ⟨2⟩] ∧
    (∃ data, Written tr ⟨⟨1⟩, ⟨1⟩, data⟩ ∧ ((readObjectData ⟨1⟩ ⟨1⟩).exec w.storage).1 = .ok data) := by
  obtain ⟨s₀, hf, tr, w, hrun, hdrawn, hsome⟩ := exists_run (RamDisk.new 60 (by decide))
    [.begin ⟨1⟩, .write 0 ⟨1⟩ ⟨1⟩ [1], .commit 0, .recover, .begin ⟨2⟩, .write 1 ⟨2⟩ ⟨2⟩ [2], .commit 1] Orderly
    (fun _ tr w => drawn tr = [⟨1⟩, ⟨2⟩] ∧ w.storage.allocations[((⟨1⟩, ⟨1⟩) : ObjectId × VersionId)]?.isSome)
    (by decide +kernel)
  obtain ⟨e, he⟩ := Option.isSome_iff_exists.mp hsome
  refine ⟨s₀, tr, w, hf, hrun, hdrawn, reopened_reads_written hf ?_ hrun (by rw [hdrawn]; decide) he⟩
  rw [accepted, SeqLog.scan_of_le fun r hr => absurd hr (not_mem_slots_new _ r)]
  rfl

set_option maxRecDepth 100000 in
/-- Two commits on a device with one log block: after `open` the block of the first is free again, and a
version of two blocks goes around the block of the second. -/
theorem reopened_reads_other_bytes : ∃ s₀ tr w, format (RamDisk.new 6 (by decide)) = .ok s₀ ∧
    (machine RamDisk).FreeRun (start s₀) tr w ∧ drawn tr = [⟨1⟩, ⟨2⟩, ⟨3⟩] ∧
    Written tr ⟨⟨3⟩, ⟨3⟩, List.replicate 4097 7⟩ ∧
    w.storage.allocations[((⟨3⟩, ⟨3⟩) : ObjectId × VersionId)]? = some ⟨⟨3⟩, ⟨3⟩, 3, 4097⟩ ∧
    ((readObjectData ⟨3⟩ ⟨3⟩).exec w.storage).1.toOption = some (List.replicate 4096 7 ++ [2]) := by
  obtain ⟨s₀, hf, tr, w, hrun, hdrawn, hwritten, hread⟩ := exists_run (RamDisk.new 6 (by decide))
    [.begin ⟨1⟩, .write 0 ⟨1⟩ ⟨1⟩ [1], .commit 0, .begin ⟨2⟩, .write 1 ⟨2⟩ ⟨2⟩ [2], .commit 1, .recover,
      .begin ⟨3⟩, .write 2 ⟨3⟩ ⟨3⟩ (List.replicate 4097 7), .commit 2] (fun _ _ _ => True)
    (fun _ tr w => drawn tr = [⟨1⟩, ⟨2⟩, ⟨3⟩] ∧
      (Op.write 2 ⟨3⟩ ⟨3⟩ (List.replicate 4097 7), Except.ok (some ⟨3⟩)) ∈ tr ∧
      w.storage.allocations[((⟨3⟩, ⟨3⟩) : ObjectId × VersionId)]? = some ⟨⟨3⟩, ⟨3⟩, 3, 4097⟩ ∧
      ((readObjectData ⟨3⟩ ⟨3⟩).exec w.storage).1.toOption = some (List.replicate 4096 7 ++ [2]))
    (by decide +kernel)
  exact ⟨s₀, tr, w, hf, hrun, hdrawn, ⟨2, hwritten⟩, hread⟩

theorem session_refines_ledger_reopened : ∃ s₀ tr w, format (RamDisk.new 40 (by decide)) = .ok s₀ ∧
    (machine RamDisk).FreeRun (start s₀) tr w ∧ (Ledger.of tr).pending ⟨2⟩ = [⟨⟨1⟩, ⟨2⟩, [2]⟩] ∧
    ((readObjectData ⟨1⟩ ⟨2⟩).exec w.storage).1 = .ok [2] := by
  obtain ⟨s₀, hf, tr, w, hrun, hdrawn, hp⟩ := exists_run (RamDisk.new 40 (by decide))
    [.begin ⟨1⟩, .write 0 ⟨1⟩ ⟨1⟩ [1], .recover, .begin ⟨2⟩, .write 1 ⟨1⟩ ⟨2⟩ [2]] (fun _ _ _ => True)
    (fun _ tr _ => drawn tr = [⟨1⟩, ⟨2⟩] ∧ (Ledger.of tr).pending ⟨2⟩ = [⟨⟨1⟩, ⟨2⟩, [2]⟩]) (by decide +kernel)
  obtain ⟨-, -, hread, -⟩ := session_refines_ledger hf hrun (by rw [hdrawn]; decide)
  have hmem : ⟨⟨1⟩, ⟨2⟩, [2]⟩ ∈ (Ledger.of tr).pending ⟨2⟩ := by rw [hp]; exact List.mem_cons_self
  exact ⟨s₀, tr, w, hf, hrun, hp, (hread ⟨2⟩ _ hmem).2⟩

/-! ## Commits that are acknowledged -/

section

variable {D : Type} [BlockDevice D] [DiskFormat] [LawfulBlockDevice D] [LawfulDiskFormat]
  {d : D} {s₀ : BlockStorage D} {tr : Trace} {w w' : Session (BlockStorage D)} {i : Nat}

/-- After a commit that succeeds, every write that was acknowledged to its transaction can be read as a
committed version, if no commit of the transaction failed after a write, the device was not opened after
one, and the commit finds consecutive blocks. -/
theorem commit_keeps_writes (hf : format d = .ok s₀)
    (hrun : (machine D).FreeRun (start s₀) tr w) (hids : (begun tr).Nodup)
    (huniq : (drawn tr).Nodup) (hstep : w.step (.commit i) = some (.ok none, w')) (hunbroken : Unbroken tr i)
    (hcons : Consecutive w.storage.freeBlocks ((Ledger.of tr).pendingOf i)) {x : PendingWrite} (hx : WrittenBy tr i x) :
    (∃ e, w'.storage.allocations[(x.objectId, x.versionId)]? = some e) ∧
      ((readObjectData x.objectId x.versionId).exec w'.storage).1 = .ok x.data := by
  have hfmt := format_formatted hf
  have ht := run_tracks hfmt.geometry hfmt.pending hrun
  have hholding := run_holding hfmt.geometry hfmt.pending hrun hids
  obtain ⟨es₀, hi⟩ := run_indexed hfmt.geometry hfmt.pending
    (.empty hfmt.allocations hfmt.latestVersions) hrun
  have ht' := ht.step hstep
  have huniq' : (drawn (tr ++ [(.commit i, .ok none)])).Nodup := by
    rw [drawn_append, show drawn [(.commit i, .ok none)] = [] from rfl, List.append_nil]
    exact huniq
  have hxw : Written (tr ++ [(.commit i, .ok none)]) x := Written.mono ⟨i, hx⟩
  cases step_effect hstep ht.geometry with
  | @committed _ tx s' htx hc =>
    have ha := ht.refines.active_of htx hc.active
    have hmem := hholding.pending i x tx.id hx hunbroken ha
    rw [← ht.refines.pending] at hmem
    rw [ht.refines.pendingOf htx, if_pos hc.active] at hcons
    have hg' := hc.geometry ht.geometry
    cases hc with
    | empty _ hp => rw [hp] at hmem; cases hmem
    | aborted _ _ hne | recorded _ _ hne => exact absurd rfl (hne _)
    | @committed ws es c₁ _ _ hp hs hidx _ =>
      rw [hp, Option.getD_some] at hmem hcons
      have hfresh := hs.fresh ht.geometry hcons
      have hintact := hfresh.intact ht.geometry hg'.2 fun y hy => ht.written_of_pending hp hy
      obtain ⟨e, hes, hev, halloc⟩ := hs.exists_entry (hidx es₀ hi) hmem
      obtain ⟨_, y, hy, hyfor, hread⟩ := (hintact e hes).reads hg'.1
      -- the entry holds the only write with its version
      obtain rfl := hy.eq huniq ⟨i, hx⟩ (hyfor.2.1.symm.trans hev)
      exact ⟨⟨e, halloc⟩, ht'.read_committed huniq' hxw halloc hread⟩

end

theorem commit_keeps_writes_first_try : ∃ s₀ tr w w', format (RamDisk.new 40 (by decide)) = .ok s₀ ∧
    (machine RamDisk).FreeRun (start s₀) tr w ∧
    w.step (.commit 0) = some (.ok none, w') ∧ WrittenBy tr 0 ⟨⟨1⟩, ⟨1⟩, [1]⟩ ∧
    ((readObjectData ⟨1⟩ ⟨1⟩).exec w'.storage).1 = .ok [1] := by
  obtain ⟨s₀, hf, _, w, hrun, rfl, hcons, w', hstep⟩ := exists_run (RamDisk.new 40 (by decide))
    [.begin ⟨1⟩, .write 0 ⟨1⟩ ⟨1⟩ [1]] (fun _ _ _ => True)
    (fun _ tr w => tr = [(.begin ⟨1⟩, .ok none), (.write 0 ⟨1⟩ ⟨1⟩ [1], .ok (some ⟨1⟩))] ∧
      Consecutive w.storage.freeBlocks [⟨⟨1⟩, ⟨1⟩, [1]⟩] ∧ ∃ w', w.step (.commit 0) = some (.ok none, w'))
    (by decide +kernel)
  have hx : WrittenBy [(.begin ⟨1⟩, .ok none), (.write 0 ⟨1⟩ ⟨1⟩ [1], .ok (some ⟨1⟩))] 0 ⟨⟨1⟩, ⟨1⟩, [1]⟩ := by
    simp [WrittenBy]
  refine ⟨s₀, _, w, w', hf, hrun, hstep, hx, ?_⟩
  refine (commit_keeps_writes hf hrun (by decide) (by decide) hstep ?_ hcons hx).2
  -- the write is the last call before the commit
  rintro (_ | ⟨_, _ | ⟨_, pre⟩⟩) post x htr ev hev
  · simp at htr
  · obtain ⟨_, _, rfl⟩ : _ ∧ _ ∧ post = [] := by simpa using htr
    cases hev
  · simp at htr

set_option synthInstance.maxSize 1000 in
/-- Three writes on a device with two data blocks: the first commit fails for want of space, the second
succeeds and has committed nothing. -/
theorem commit_forgets_after_failure : ∃ s₀ tr w w', format (RamDisk.new 5 (by decide)) = .ok s₀ ∧
    (machine RamDisk).FreeRun (start s₀) tr w ∧
    tr = [(.begin ⟨1⟩, .ok none), (.write 0 ⟨1⟩ ⟨1⟩ [1], .ok (some ⟨1⟩)), (.write 0 ⟨2⟩ ⟨2⟩ [2], .ok (some ⟨2⟩)),
      (.write 0 ⟨3⟩ ⟨3⟩ [3], .ok (some ⟨3⟩)), (.commit 0, .error (.storageError "NoFreeSpace"))] ∧
    w.step (.commit 0) = some (.ok none, w') ∧ WrittenBy tr 0 ⟨⟨1⟩, ⟨1⟩, [1]⟩ ∧
    w'.storage.allocations[((⟨1⟩, ⟨1⟩) : ObjectId × VersionId)]? = none ∧
    ((readObjectData ⟨1⟩ ⟨1⟩).exec w'.storage).1.toOption = none := by
  simp only [exists_and_left, WrittenBy]
  refine exists_run _ [.begin ⟨1⟩, .write 0 ⟨1⟩ ⟨1⟩ [1], .write 0 ⟨2⟩ ⟨2⟩ [2], .write 0 ⟨3⟩ ⟨3⟩ [3], .commit 0]
    _ _ ?_
  decide +kernel

end PandaGen.Storage
