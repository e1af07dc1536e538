import PandaGen.Storage.Lemmas.Refinement

/-!
# The commit log of a session whose commits all succeed
-/

namespace PandaGen.Storage

open Hal Lib BlockStorage Ledger Session

/-- Calls other than `open`, where a commit has to succeed. -/
def Successful {D : Type} (_ : Session (BlockStorage D)) (op : Op) (o : Response) : Prop :=
  op ≠ .recover ∧ ∀ i, op = .commit i → o = .ok none

instance {D : Type} (w : Session (BlockStorage D)) : (op : Op) → (o : Response) → Decidable (Successful w op o)
  | .recover, _ => .isFalse fun h => h.1 rfl
  | .commit _, o => decidable_of_iff (o = .ok none) ⟨fun h => ⟨by simp, fun _ _ => h⟩, fun h => h.2 _ rfl⟩
  | .begin _, _ => .isTrue ⟨by simp, by simp⟩
  | .write .., _ => .isTrue ⟨by simp, by simp⟩
  | .rollback _, _ => .isTrue ⟨by simp, by simp⟩

variable {D : Type} [BlockDevice D] [DiskFormat]

namespace BlockStorage

/-- The log of `n` slots on a device with the blocks `c` after the transactions with the writes `wss`
were committed, with the records `rs` numbered from `q₀ + 1` on; before that the blocks were `c₀`. -/
structure LogOf (n : Nat) (c c₀ : Nat → Block) (q₀ : Nat) (wss : List (List PendingWrite))
    (rs : List CommitRecord) : Prop where
  log : slots n c = rs.foldl (SeqLog.store CommitRecord.sequence n) (slots n c₀)
  seqs : rs.map CommitRecord.sequence = List.range' (q₀ + 1) rs.length
  entries : List.Forall₂ (fun ws r => List.Forall₂ EntryFor ws r.allocations) wss rs
  nonempty : ∀ r ∈ rs, r.allocations ≠ []

structure Logged (s : BlockStorage D) (c₀ : Nat → Block) (q₀ : Nat) (wss : List (List PendingWrite))
    (rs : List CommitRecord) : Prop
    extends LogOf s.superblock.commitLogBlocks (contents s.device) c₀ q₀ wss rs where
  next : s.superblock.commitSequence = q₀ + rs.length
  disk : toVec s.superblock = some (contents s.device 0).untilNull
  quiet : rs = [] → contents s.device = c₀

variable {s s' : BlockStorage D} {c₀ : Nat → Block} {q₀ : Nat} {wss : List (List PendingWrite)}
  {rs : List CommitRecord} {tx : Transaction}

theorem Logged.withPending (h : s.Logged c₀ q₀ wss rs) (p) :
    ({ s with pending := p } : BlockStorage D).Logged c₀ q₀ wss rs :=
  { h with }

theorem Logged.withDevice (h : s.Logged c₀ q₀ wss rs) {d} (hc : contents d = contents s.device) :
    ({ s with device := d } : BlockStorage D).Logged c₀ q₀ wss rs :=
  ⟨hc ▸ h.toLogOf, h.next, hc ▸ h.disk, fun hrs => hc.trans (h.quiet hrs)⟩

theorem Logged.nextSequence (h : s.Logged c₀ q₀ wss rs) : s.nextSuperblock.commitSequence = q₀ + rs.length + 1 := by
  rw [nextSuperblock, h.next]

variable {ws : List PendingWrite} {es : List AllocationEntry} {c1 : Nat → Block}

theorem Storing.logOf (hs : Storing s tx ws es c1 s') (hws : ws ≠ []) (h : s.Logged c₀ q₀ wss rs) :
    LogOf s.superblock.commitLogBlocks (contents s'.device) c₀ q₀ (wss ++ [ws])
      (rs ++ [s.nextRecord tx.id es]) := by
  have hr : (s.nextRecord tx.id es).sequence = q₀ + rs.length + 1 := h.nextSequence
  refine ⟨?_, ?_, ?_, ?_⟩
  · rw [hs.appended.log, h.log, List.foldl_append]
    rfl
  · rw [List.map_append, h.seqs, List.length_append, List.length_singleton, List.range'_concat, List.map_singleton,
      hr]
    congr 2
    omega
  · exact List.rel_append h.entries (.cons hs.data.entries .nil)
  · refine List.forall_mem_append.mpr ⟨h.nonempty, List.forall_mem_singleton.mpr fun hnil => hws ?_⟩
    have hes : es = [] := hnil
    exact List.forall₂_nil_right_iff.mp (hes ▸ hs.data.entries)

theorem Storing.logged (hs : Storing s tx ws es c1 s') (hws : ws ≠ []) (h : s.Logged c₀ q₀ wss rs)
    (hdisk : toVec s.nextSuperblock = some (contents s'.device 0).untilNull) :
    s'.Logged c₀ q₀ (wss ++ [ws]) (rs ++ [s.nextRecord tx.id es]) := by
  have hn : s'.superblock.commitLogBlocks = s.superblock.commitLogBlocks := by rw [hs.superblock]; rfl
  refine ⟨hn ▸ hs.logOf hws h, ?_, ?_, by simp⟩
  · rw [hs.superblock, h.nextSequence, List.length_append, List.length_singleton]
    omega
  · rw [hs.superblock]
    exact hdisk

omit [BlockDevice D] in
theorem entriesOf_concat_nextRecord (es) : entriesOf (rs ++ [s.nextRecord tx.id es]) = entriesOf rs ++ es := by
  simp [entriesOf, nextRecord, CommitRecord.new]

end BlockStorage

namespace Session

variable {w w' : Session (BlockStorage D)} {op : Op} {o : Response} {l : Ledger} {tr : Trace}
  {s0 : BlockStorage D} {c₀ : Nat → Block} {q₀ : Nat} {rs : List CommitRecord}

theorem Effect.logged (he : Effect w op o w') (hG : Successful w op o) (hr : w.Refines l)
    (h : w.storage.Logged c₀ q₀ l.commits rs) : ∃ rs', w'.storage.Logged c₀ q₀ (l.apply (op, o)).commits rs' ∧
      (w.storage.Sound l.commits.flatten (entriesOf rs) →
        w'.storage.Sound (l.apply (op, o)).commits.flatten (entriesOf rs')) := by
  cases he with
  | began => exact ⟨rs, h, id⟩
  | wrote htx hactive =>
    rw [hr.apply_eq htx (.inl ⟨_, _, _, rfl⟩), if_pos hactive]
    exact ⟨rs, h.withPending _, fun hs => hs.withPending _⟩
  | writeRefused htx hfin => rw [hr.apply_eq htx (.inl ⟨_, _, _, rfl⟩), if_neg hfin]; exact ⟨rs, h, id⟩
  | @committed i tx s' htx hc =>
    rw [hr.apply_eq htx (.inr (.inl rfl)), if_pos hc.active]
    show ∃ rs', s'.Logged c₀ q₀ (l.record tx.id).commits rs' ∧
      (_ → s'.Sound (l.record tx.id).commits.flatten (entriesOf rs'))
    rw [flatten_record, record, ← hr.pending]
    have hgeo := fun hg => hc.geometry hg
    cases hc with
    | empty _ hp => exact ⟨rs, by simpa [hp] using h, by simp [hp]⟩
    | aborted _ _ hne | recorded _ _ hne => exact absurd rfl (hne _)
    | @committed ws es c1 _ _ hp hs hidx hdisk =>
      have hws : ws ≠ [] := hr.nonempty tx.id ws hp
      rw [hp, Option.getD_some, if_neg hws]
      refine ⟨rs ++ [w.storage.nextRecord tx.id es], hs.logged hws h hdisk, fun hsound => ?_⟩
      rw [entriesOf_concat_nextRecord]
      exact hs.sound hsound (hgeo hsound.geometry) (hidx _ hsound.indexed)
  | commitFailed => exact absurd (hG.2 _ rfl) (by simp)
  | rolledBack htx hactive =>
    rw [hr.apply_eq htx (.inr (.inr rfl)), if_pos hactive]
    exact ⟨rs, h.withPending _, fun hs => hs.withPending _⟩
  | rollbackRefused htx hfin => rw [hr.apply_eq htx (.inr (.inr rfl)), if_neg hfin]; exact ⟨rs, h, id⟩
  | reopened => exact absurd rfl hG.1

variable [LawfulBlockDevice D] [LawfulDiskFormat]

theorem run_logged (hg : s0.Geometry) (hp : s0.pending = ∅)
    (hdisk : toVec s0.superblock = some (contents s0.device 0).untilNull)
    (hrun : (machine D).Run Successful (start s0) tr w) : Tracks s0 w tr ∧ ∃ rs,
      w.storage.Logged (contents s0.device) s0.superblock.commitSequence (of tr).commits rs ∧
      (s0.Sound [] [] → w.storage.Sound (of tr).commits.flatten (entriesOf rs)) := by
  have hP := hrun.invariantTrace
    (P := fun tr w => Tracks s0 w tr ∧ ∃ rs,
      w.storage.Logged (contents s0.device) s0.superblock.commitSequence (of tr).commits rs ∧
      (s0.Sound [] [] → w.storage.Sound (of tr).commits.flatten (entriesOf rs)))
    (fun tr w op o w' h hs hG => by
      obtain ⟨ht, rs, hl, hsound⟩ := h
      obtain ⟨rs', hl', hsound'⟩ := (step_effect hs ht.geometry).logged hG ht.refines hl
      refine ⟨ht.step hs, rs', ?_⟩
      rw [of_concat]
      exact ⟨hl', fun h0 => hsound' (hsound h0)⟩) []
    ⟨Tracks.start hg hp, [], ⟨⟨rfl, rfl, .nil, by simp⟩, rfl, hdisk, fun _ => rfl⟩, id⟩
  simpa using hP

theorem run_logged_of_format {d} (hf : format d = .ok s0) (hrun : (machine D).Run Successful (start s0) tr w) :
    Tracks s0 w tr ∧ ∃ rs, w.storage.Logged (contents s0.device) 0 (of tr).commits rs ∧
      w.storage.Sound (of tr).commits.flatten (entriesOf rs) := by
  have hfmt := format_formatted hf
  obtain ⟨ht, rs, hl, hsound⟩ := run_logged hfmt.geometry hfmt.pending hfmt.wrote.untilNull hrun
  rw [hfmt.commitSequence] at hl
  exact ⟨ht, rs, hl, hsound hfmt.sound⟩

end Session

end PandaGen.Storage
