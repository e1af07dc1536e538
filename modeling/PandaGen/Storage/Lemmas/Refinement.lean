import PandaGen.Storage.Lemmas.Soundness

/-!
# Sessions refine ledgers

A session does what the ledger of its run says, and as long as its device is not opened again, it holds
what the ledger has committed.
-/

namespace PandaGen.Storage

open Hal Lib Proc BlockStorage Ledger Session BTreeMap Function

variable {t : TransactionId} {i : Nat} {x : PendingWrite}

namespace BlockStorage

variable {D : Type} [BlockDevice D]

theorem readObjectData_cases (s : BlockStorage D) (o v) :
    (∃ t xs y, s.pending[(t : TransactionId)]? = some xs ∧ y ∈ xs ∧ y.objectId = o ∧ y.versionId = v ∧
      ((readObjectData o v).exec s).1 = .ok y.data) ∨
    ((∀ t xs y, s.pending[(t : TransactionId)]? = some xs → y ∈ xs → ¬ (y.objectId = o ∧ y.versionId = v)) ∧
      ∀ e data, s.allocations[(o, v)]? = some e → s.readEntry e = some data →
        ((readObjectData o v).exec s).1 = .ok data) := by
  simp only [readObjectData, exec_bind, exec_get]
  cases hf : s.pending.toList.findSome? (fun e => e.2.reverse.find? fun p => p.objectId = o ∧ p.versionId = v) with
  | some y =>
    left
    obtain ⟨⟨t, xs⟩, hmem, hy⟩ := List.exists_of_findSome?_eq_some hf
    have hkey := List.find?_some hy
    simp only [decide_eq_true_eq] at hkey
    exact ⟨t, xs, y, Std.ExtTreeMap.mem_toList_iff_getElem?_eq_some.mp hmem,
      List.mem_reverse.mp (List.mem_of_find?_eq_some hy), hkey.1, hkey.2, rfl⟩
  | none =>
    right
    rw [List.findSome?_eq_none_iff] at hf
    constructor
    · intro t xs y hp hy hkey
      have := hf (t, xs) (Std.ExtTreeMap.mem_toList_iff_getElem?_eq_some.mpr hp)
      rw [List.find?_eq_none] at this
      exact this y (List.mem_reverse.mpr hy) (by simpa using hkey)
    · intro e data he hread
      rw [he]
      obtain ⟨blocks, hblocks, hread⟩ := Option.bind_eq_some_iff.mp hread
      show ((okOrPanic e.blocks >>= fun blocks => readData blocks e.sizeBytes).exec s).1 = .ok data
      rw [hblocks]
      show ((readData blocks e.sizeBytes).exec s).1 = .ok data
      cases hr : ((readData blocks e.sizeBytes).exec s).1 with
      | error f => rw [hr] at hread; cases hread
      | ok data' => rw [hr] at hread; rw [Option.some.inj hread]

variable [DiskFormat] {s s' : BlockStorage D} {tx : Transaction}
  {r : Except (Fault TransactionError) Transaction}

theorem CommitEffect.pending_sub (h : CommitEffect s tx r s') {xs} (hx : s'.pending[t]? = some xs) :
    s.pending[t]? = some xs := by
  have herase : s'.pending = s.pending.erase tx.id → s.pending[t]? = some xs := by
    intro he
    rw [he, getElem?_erase] at hx
    split at hx
    · cases hx
    · exact hx
  cases h with
  | refused => exact hx
  | empty => exact hx
  | aborted _ _ _ ha => exact herase ha.pending
  | recorded _ _ _ hs | committed _ _ hs => exact herase hs.pending

theorem CommitEffect.pending_getD (h : CommitEffect s tx r s') (hactive : tx.state = .active) (t) :
    s'.pending[t]?.getD [] = if tx.id = t then [] else s.pending[t]?.getD [] := by
  have herase : s'.pending = s.pending.erase tx.id →
      s'.pending[t]?.getD [] = if tx.id = t then [] else s.pending[t]?.getD [] := by
    intro he
    rw [he, getElem?_erase]
    split <;> rfl
  cases h with
  | refused hfin => exact absurd hactive hfin
  | empty _ hp =>
    split
    · rename_i heq
      rw [← heq, hp]
      rfl
    · rfl
  | aborted _ _ _ ha => exact herase ha.pending
  | recorded _ _ _ hs | committed _ _ hs => exact herase hs.pending

theorem CommitEffect.active {t} (h : CommitEffect s tx (.ok t) s') : tx.state = .active := by
  cases h with
  | empty hactive | aborted hactive | recorded hactive | committed hactive => exact hactive

theorem CommitEffect.eq_of_finalized (h : CommitEffect s tx r s') (hfin : tx.state ≠ .active) : s' = s := by
  cases h with
  | refused => rfl
  | empty hactive | aborted hactive | recorded hactive | committed hactive => exact absurd hactive hfin

end BlockStorage

/-! ## The ledger -/

namespace Ledger

@[simp] theorem flatten_record (l : Ledger) (id) :
    (l.record id).commits.flatten = l.commits.flatten ++ l.pending id := by
  simp only [record]
  split
  · rename_i h; simp [h]
  · simp

theorem of_concat (tr ev) : of (tr ++ [ev]) = (of tr).apply ev := by
  rw [of, List.foldl_append]
  rfl

theorem mem_pendingOf {l : Ledger} (h : x ∈ l.pendingOf i) : ∃ t, x ∈ l.pending t := by
  rw [pendingOf] at h
  cases ha : l.active i with
  | none => rw [ha] at h; cases h
  | some t => rw [ha] at h; exact ⟨t, h⟩

end Ledger

namespace Session

variable {tx : Transaction}

variable {D : Type} {w w' : Session (BlockStorage D)} {op : Op} {o : Response} {l : Ledger}

structure Refines (w : Session (BlockStorage D)) (l : Ledger) : Prop where
  txs : w.txs.map (fun tx => (tx.id, decide (tx.state = .active))) = l.txs
  pending : ∀ t : TransactionId, w.storage.pending[t]?.getD [] = l.pending t
  nonempty : ∀ (t : TransactionId) xs, w.storage.pending[t]? = some xs → xs ≠ []

section

variable (h : w.Refines l) (htx : w.txs[i]? = some tx)
include h htx

theorem Refines.active : l.active i = if tx.state = .active then some tx.id else none := by
  rw [Ledger.active, ← h.txs, List.getElem?_map, htx]
  simp

theorem Refines.active_of
    (hactive : tx.state = .active) : l.active i = some tx.id := (h.active htx).trans (if_pos hactive)

theorem Refines.pendingOf : l.pendingOf i = if tx.state = .active then w.storage.pending[tx.id]?.getD [] else [] := by
  rw [Ledger.pendingOf, h.active htx]
  split
  · exact (h.pending tx.id).symm
  · rfl

omit h htx in
theorem Refines.set (h : w.Refines l) (hfin : tx.state ≠ .active) :
    (w.txs.set i tx).map (fun tx => (tx.id, decide (tx.state = .active))) = l.txs.set i (tx.id, false) := by
  rw [List.map_set, h.txs, decide_eq_false hfin]

theorem Refines.apply_eq {ev} (hev : (∃ a b c, ev.1 = .write i a b c) ∨ ev.1 = .commit i ∨ ev.1 = .rollback i) :
    l.apply ev = if tx.state = .active then l.applyActive tx.id ev else l := by
  have hl := h.active htx
  rcases ev with ⟨op, o⟩
  rcases hev with ⟨a, b, c, rfl⟩ | rfl | rfl <;>
    · simp only [apply, hl]
      split <;> rfl

end

variable [BlockDevice D] [DiskFormat]

section

variable (he : Effect w op o w')
include he

theorem Effect.refines (h : w.Refines l) : w'.Refines (l.apply (op, o)) := by
  cases he with
  | began => exact ⟨by simp [apply, ← h.txs, Transaction.new], h.pending, h.nonempty⟩
  | @wrote i tx objectId v data htx hactive =>
    rw [h.apply_eq htx (.inl ⟨_, _, _, rfl⟩), if_pos hactive]
    refine ⟨h.txs, fun t => ?_, fun t xs hx => ?_⟩
    · simp only [addPending, getElem?_insert, applyActive, update_apply]
      by_cases ht : tx.id = t
      · rw [if_pos ht, if_pos ht.symm, h.pending, Option.getD_some]
      · rw [if_neg ht, if_neg (Ne.symm ht), h.pending]
    · simp only [addPending, getElem?_insert] at hx
      split at hx
      · obtain rfl := Option.some.inj hx
        simp
      · exact h.nonempty t xs hx
  | writeRefused htx hfin => rwa [h.apply_eq htx (.inl ⟨_, _, _, rfl⟩), if_neg hfin]
  | @committed i tx s' htx hc =>
    have hactive : tx.state = .active := hc.active
    rw [h.apply_eq htx (.inr (.inl rfl)), if_pos hactive]
    refine ⟨h.set (by simp), fun t => ?_, fun t xs hx => h.nonempty t xs (hc.pending_sub hx)⟩
    simp only [hc.pending_getD hactive, applyActive, finish, drop, record, update_apply, h.pending, eq_comm (a := t)]
  | @commitFailed i tx e s' htx hc =>
    rw [h.apply_eq htx (.inr (.inl rfl))]
    split
    · rename_i hactive
      refine ⟨h.txs, fun t => ?_, fun t xs hx => h.nonempty t xs (hc.pending_sub hx)⟩
      simp only [hc.pending_getD hactive, applyActive, drop, update_apply, h.pending, eq_comm (a := t)]
    · rename_i hfin
      exact ⟨h.txs, fun t => by rw [hc.eq_of_finalized hfin]; exact h.pending t,
        fun t xs hx => h.nonempty t xs (hc.pending_sub hx)⟩
  | @rolledBack i tx htx hactive =>
    rw [h.apply_eq htx (.inr (.inr rfl)), if_pos hactive]
    refine ⟨h.set (by simp), fun t => ?_, fun t xs hx => ?_⟩
    · simp only [dropPending, getElem?_erase, applyActive, finish, drop, update_apply, eq_comm (a := t)]
      split
      · rfl
      · exact h.pending t
    · simp only [dropPending, getElem?_erase] at hx
      split at hx
      · cases hx
      · exact h.nonempty t xs hx
  | rollbackRefused htx hfin => rwa [h.apply_eq htx (.inr (.inr rfl)), if_neg hfin]
  | reopened _ hr =>
    refine ⟨h.txs, fun t => ?_, fun t xs hx => ?_⟩
    · simp [hr.pending, apply]
    · simp [hr.pending] at hx

structure Acknowledged (l : Ledger) (tr : Trace) : Prop where
  pending : ∀ t, ∀ x ∈ l.pending t, Written tr x
  commits : ∀ x ∈ l.commits.flatten, Written tr x

theorem Effect.acknowledged {tr} (hr : w.Refines l) (h : Acknowledged l tr) :
    Acknowledged (l.apply (op, o)) (tr ++ [(op, o)]) := by
  have hold : Acknowledged l (tr ++ [(op, o)]) :=
    ⟨fun t x hx => (h.pending t x hx).mono, fun x hx => (h.commits x hx).mono⟩
  have hdrop : ∀ id t, ∀ x ∈ (l.drop id).pending t, Written (tr ++ [(op, o)]) x := by
    intro id t x hx
    simp only [drop, update_apply] at hx
    split at hx
    · cases hx
    · exact hold.pending t x hx
  cases he with
  | began => exact ⟨hold.pending, hold.commits⟩
  | @wrote i tx objectId v data htx hactive =>
    rw [hr.apply_eq htx (.inl ⟨_, _, _, rfl⟩), if_pos hactive]
    refine ⟨fun t x hx => ?_, hold.commits⟩
    simp only [applyActive, update_apply] at hx
    split at hx
    · rcases List.mem_append.mp hx with hx | hx
      · exact hold.pending _ x hx
      · obtain rfl := List.mem_singleton.mp hx
        exact ⟨i, List.mem_append_right _ (List.mem_singleton.mpr rfl)⟩
    · exact hold.pending t x hx
  | writeRefused htx hfin => rwa [hr.apply_eq htx (.inl ⟨_, _, _, rfl⟩), if_neg hfin]
  | @committed i tx s' htx hc =>
    rw [hr.apply_eq htx (.inr (.inl rfl)), if_pos hc.active]
    refine ⟨hdrop tx.id, fun x hx => ?_⟩
    have hx : x ∈ (l.record tx.id).commits.flatten := hx
    rw [flatten_record] at hx
    rcases List.mem_append.mp hx with hx | hx
    · exact hold.commits x hx
    · exact hold.pending _ x hx
  | @commitFailed i tx e s' htx hc =>
    rw [hr.apply_eq htx (.inr (.inl rfl))]
    split
    · exact ⟨hdrop tx.id, hold.commits⟩
    · exact hold
  | @rolledBack i tx htx hactive =>
    rw [hr.apply_eq htx (.inr (.inr rfl)), if_pos hactive]
    exact ⟨hdrop tx.id, hold.commits⟩
  | rollbackRefused htx hfin => rwa [hr.apply_eq htx (.inr (.inr rfl)), if_neg hfin]
  | reopened => exact ⟨fun t x hx => absurd hx List.not_mem_nil, hold.commits⟩

theorem Effect.sound {es} (hop : op ≠ .recover) (hr : w.Refines l) (h : w.storage.Sound l.commits.flatten es) :
    ∃ es', w'.storage.Sound (l.apply (op, o)).commits.flatten es' := by
  cases he with
  | began => exact ⟨es, h⟩
  | @wrote i tx objectId v data htx hactive =>
    rw [hr.apply_eq htx (.inl ⟨_, _, _, rfl⟩), if_pos hactive]
    exact ⟨es, h.withPending _⟩
  | writeRefused htx hfin => rw [hr.apply_eq htx (.inl ⟨_, _, _, rfl⟩), if_neg hfin]; exact ⟨es, h⟩
  | @committed i tx s' htx hc =>
    rw [hr.apply_eq htx (.inr (.inl rfl)), if_pos hc.active]
    obtain ⟨es', h'⟩ := h.commit hc
    refine ⟨es', ?_⟩
    show s'.Sound (l.record tx.id).commits.flatten es'
    rw [flatten_record, ← hr.pending]
    exact h'
  | @commitFailed i tx e s' htx hc =>
    obtain ⟨es', h'⟩ := h.commit hc
    refine ⟨es', ?_⟩
    rw [hr.apply_eq htx (.inr (.inl rfl))]
    split <;> exact h'
  | @rolledBack i tx htx hactive =>
    rw [hr.apply_eq htx (.inr (.inr rfl)), if_pos hactive]
    exact ⟨es, h.withPending _⟩
  | rollbackRefused htx hfin => rw [hr.apply_eq htx (.inr (.inr rfl)), if_neg hfin]; exact ⟨es, h⟩
  | reopened => exact absurd rfl hop

/-! ## Runs -/

theorem Effect.geometry (h : w.storage.Geometry) : w'.storage.Geometry ∧
    ∃ q, w'.storage.superblock = { w.storage.superblock with commitSequence := q } := by
  cases he with
  | began | writeRefused | rollbackRefused => exact ⟨h, w.storage.superblock.commitSequence, rfl⟩
  | wrote | rolledBack => exact ⟨h.withPending _, w.storage.superblock.commitSequence, rfl⟩
  | committed _ hc | commitFailed _ hc => exact hc.geometry h
  | @reopened q s' hq hr => exact ⟨hr.geometry hq h.fits.of_sequence, q, hr.superblock⟩

theorem Effect.indexed {es} (h : w.storage.Indexed es) : ∃ es', w'.storage.Indexed es' := by
  have hcommit : ∀ {tx r s'}, w.storage.CommitEffect tx r s' → ∃ es', s'.Indexed es' := by
    intro tx r s' hc
    cases hc with
    | refused | empty => exact ⟨es, h⟩
    | aborted _ _ _ ha => exact ⟨es, h.congr ha.allocations ha.latestVersions⟩
    | recorded _ _ _ _ ha hl => exact ⟨es, h.congr ha hl⟩
    | committed _ _ _ hi => exact ⟨_, hi es h⟩
  cases he with
  | began | writeRefused | rollbackRefused => exact ⟨es, h⟩
  | wrote | rolledBack => exact ⟨es, h.congr rfl rfl⟩
  | committed _ hc | commitFailed _ hc => exact hcommit hc
  | reopened _ hr => exact ⟨_, hr.indexed⟩

end

structure Tracks (s₀ : BlockStorage D) (w : Session (BlockStorage D)) (tr : Trace) : Prop where
  geometry : w.storage.Geometry
  layout : ∃ q, w.storage.superblock = { s₀.superblock with commitSequence := q }
  refines : w.Refines (of tr)
  acknowledged : Acknowledged (of tr) tr

variable {tr : Trace} {s₀ : BlockStorage D} {G : Session (BlockStorage D) → Op → Response → Prop}

theorem Tracks.written_of_pending (h : Tracks s₀ w tr) {xs} (hp : w.storage.pending[t]? = some xs) (hx : x ∈ xs) :
    Written tr x := by
  refine h.acknowledged.pending t x ?_
  rw [← h.refines.pending, hp]
  exact hx

/-- A committed version is read from its allocation, or from a pending write of the same version. -/
theorem Tracks.read_committed (h : Tracks s₀ w tr) (huniq : (drawn tr).Nodup) (hx : Written tr x) {e}
    (he : w.storage.allocations[(x.objectId, x.versionId)]? = some e) (hread : w.storage.readEntry e = some x.data) :
    ((readObjectData x.objectId x.versionId).exec w.storage).1 = .ok x.data := by
  rcases w.storage.readObjectData_cases x.objectId x.versionId with ⟨t, xs, y, hp, hy, _, hyv, hr⟩ | ⟨_, hr⟩
  · rw [hr, (h.written_of_pending hp hy).eq huniq hx hyv]
  · exact hr e x.data he hread

theorem Tracks.read_pending (h : Tracks s₀ w tr) (huniq : (drawn tr).Nodup) (hx : x ∈ (of tr).pending t) :
    ((readObjectData x.objectId x.versionId).exec w.storage).1 = .ok x.data := by
  rcases w.storage.readObjectData_cases x.objectId x.versionId with ⟨t', xs, y, hp, hy, _, hyv, hr⟩ | ⟨hnone, _⟩
  · rw [hr, (h.written_of_pending hp hy).eq huniq (h.acknowledged.pending t x hx) hyv]
  · rw [← h.refines.pending] at hx
    cases hp : w.storage.pending[t]? with
    | none => rw [hp] at hx; cases hx
    | some xs => rw [hp] at hx; exact absurd ⟨rfl, rfl⟩ (hnone t xs x hp hx)

theorem Tracks.start (hg : s₀.Geometry) (hp : s₀.pending = ∅) : Tracks s₀ (start s₀) [] where
  geometry := hg
  layout := ⟨s₀.superblock.commitSequence, rfl⟩
  refines := ⟨rfl, fun t => by simp [Session.start, hp, of, empty], fun t xs hx => by simp [Session.start, hp] at hx⟩
  acknowledged := ⟨fun t x hx => absurd hx List.not_mem_nil, fun x hx => absurd hx List.not_mem_nil⟩

variable [LawfulBlockDevice D] [LawfulDiskFormat]

theorem Tracks.step (h : Tracks s₀ w tr) (hs : w.step op = some (o, w')) : Tracks s₀ w' (tr ++ [(op, o)]) := by
  have he := step_effect hs h.geometry
  obtain ⟨hg, q, hq⟩ := he.geometry h.geometry
  obtain ⟨q0, hq0⟩ := h.layout
  exact
    { geometry := hg
      layout := ⟨q, by rw [hq, hq0]⟩
      refines := by rw [of_concat]; exact he.refines h.refines
      acknowledged := by rw [of_concat]; exact he.acknowledged h.refines h.acknowledged }

theorem run_tracks (hg : s₀.Geometry) (hp : s₀.pending = ∅) (hrun : (machine D).Run G (start s₀) tr w) :
    Tracks s₀ w tr :=
  hrun.invariantReached (P := fun tr w => Tracks s₀ w tr) (fun _ _ _ _ _ _ h hs _ => h.step hs) (.start hg hp)

theorem run_indexed (hg : s₀.Geometry) (hp : s₀.pending = ∅) {es0} (hi : s₀.Indexed es0)
    (hrun : (machine D).Run G (start s₀) tr w) : ∃ es, w.storage.Indexed es := by
  refine hrun.invariantReached (P := fun _ w => ∃ es, w.storage.Indexed es) (fun tr w op o w' hrun h hs _ => ?_)
    ⟨es0, hi⟩
  obtain ⟨es, hi⟩ := h
  exact (step_effect hs (run_tracks hg hp hrun).geometry).indexed hi

theorem run_sound {d} (hf : format d = .ok s₀) (hG : ∀ w op o, G w op o → op ≠ .recover)
    (hrun : (machine D).Run G (start s₀) tr w) : Tracks s₀ w tr ∧ ∃ es, w.storage.Sound (of tr).commits.flatten es := by
  have hfmt := format_formatted hf
  have hP := hrun.invariantTrace
    (P := fun tr w => Tracks s₀ w tr ∧ ∃ es, w.storage.Sound (of tr).commits.flatten es)
    (fun tr w op o w' h hs hg => by
      obtain ⟨ht, es, hsound⟩ := h
      refine ⟨ht.step hs, ?_⟩
      rw [of_concat]
      exact (step_effect hs ht.geometry).sound (hG w op o hg) ht.refines hsound) []
    ⟨Tracks.start hfmt.geometry hfmt.pending, [], hfmt.sound⟩
  simpa using hP

end Session

end PandaGen.Storage
